import Sdci.Dialogue.Basic

/-!
# Taking in a reply from a serial line

A serial line hands out what has come in, in pieces of any size. An intake puts the pieces of one
reply together: it goes on while octets are missing and reads yield some, and whatever it has when a
read yields nothing is lost.
-/

namespace Sdci.Serial

/-- What a read of a line yields. -/
inductive ReadResult
  /-- Octets that have come in; none at the end of the input. -/
  | octets (octets : List UInt8)
  | timedOut
  /-- The read was disturbed and can be repeated. -/
  | interrupted
  | failed (failure : Failure)
deriving DecidableEq, Repr

/-- A reply of which some octets may be missing. -/
structure Intake where
  /-- How many octets are wanted. -/
  wanted : Nat
  /-- The octets so far. -/
  received : List UInt8 := []
deriving DecidableEq, Repr

namespace Intake

/-- What becomes of an intake with a read. -/
inductive Step
  | more (intake : Intake)
  | finished (result : Except Failure (Option (List UInt8)))

variable (intake : Intake)

/-- How many octets are missing. -/
def missing : Nat := intake.wanted - intake.received.length

/-- Take in what a read yields. -/
def take : ReadResult → Step
  | .octets [] | .timedOut => .finished (.ok none)
  | .octets octets => .more { intake with received := intake.received ++ octets }
  | .interrupted => .more intake
  | .failed failure => .finished (.error failure)

/-- An intake that goes on after a read is closer to its end, unless the read was interrupted. -/
theorem missing_lt_of_take {intake next : Intake} {result : ReadResult}
    (hmissing : intake.missing ≠ 0) (h : intake.take result = .more next) :
    next.missing < intake.missing ∨ result = .interrupted ∧ next = intake := by
  unfold missing at *
  unfold take at h
  split at h
  · cases h
  · cases h
  · next octets hne =>
    cases h
    have : octets.length ≠ 0 := fun h0 => hne (List.length_eq_zero_iff.mp h0)
    left
    simp only [List.length_append]
    omega
  · cases h
    exact .inr ⟨rfl, rfl⟩
  · cases h

end Intake

end Sdci.Serial
