import Sdci.Bounded
import Sdci.Isdu.Receiver

/-!
# Waiting for the acknowledgement of a write

Any octet but zero acknowledges a write request. Zeros are skipped while the device is busy, up to
a limit; the first octet looked at comes with the last request cycle and does not count.
-/

namespace Sdci.Isdu

/-- A receiver of the acknowledgement of a write request. -/
structure Acknowledgement where
  target : Target
  pollLimit : Nat
  /-- The zeros that are still put up with, and one more. -/
  looksLeft : Nat
deriving DecidableEq, Repr

namespace Acknowledgement

/-- The receiver for the acknowledgement of a request. -/
def ofRequest (request : Request) (pollLimit : Nat) : Acknowledgement :=
  ⟨request.target, pollLimit, pollLimit + 1⟩

/-- The receiver for an acknowledgement, if one look more than the limit is a number. -/
def ofRequest? (request : Request) (pollLimit : Nat) : Option Acknowledgement := do
  let looksLeft ← Bounded.add pollLimit 1
  return ⟨request.target, pollLimit, looksLeft⟩

theorem ofRequest?_of_lt {pollLimit : Nat} (h : pollLimit + 1 < Reply.lengthModulus)
    (request : Request) :
    ofRequest? request pollLimit = some (ofRequest request pollLimit) := by
  rw [ofRequest?, Bounded.add_of_lt h]
  rfl

theorem ofRequest?_eq_none_iff {request : Request} {pollLimit : Nat} :
    ofRequest? request pollLimit = none ↔ Reply.lengthModulus ≤ pollLimit + 1 := by
  constructor
  · intro h
    refine Nat.le_of_not_lt fun hlt => ?_
    cases (ofRequest?_of_lt hlt request).symm.trans h
  · intro h
    rw [ofRequest?, Bounded.add_of_le h]
    rfl

variable (waiter : Acknowledgement)

/-- Take one octet. -/
def feed (octet : UInt8) : Progress Acknowledgement UInt8 :=
  if octet ≠ 0 then
    .done (.ok octet)
  else if waiter.looksLeft - 1 = 0 then
    .done (.error (.noAcknowledgement waiter.target waiter.pollLimit))
  else
    .needData { waiter with looksLeft := waiter.looksLeft - 1 }

/-- Each octet makes the looks left fewer. -/
theorem looksLeft_lt_of_feed {waiter next : Acknowledgement} {octet : UInt8}
    (h : waiter.feed octet = .needData next) : next.looksLeft < waiter.looksLeft := by
  unfold feed at h
  split at h
  · cases h
  split at h
  · cases h
  · cases h
    simp only
    omega

instance : Receiver Acknowledgement UInt8 where
  feed := feed
  budget := looksLeft
  budget_lt := looksLeft_lt_of_feed

end Acknowledgement

end Sdci.Isdu
