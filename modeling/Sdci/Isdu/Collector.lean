import Sdci.Bounded
import Sdci.Isdu.ControlByte
import Sdci.Isdu.Receiver

/-!
# Collecting the answer to a read

The answer to a read request comes in segments, as the request went out. Octets without the start
mark are skipped while the device is busy, up to a limit; the first octet looked at comes with the
last request cycle and does not count. From the start mark on, control octets and data octets
alternate until the data octet behind a control octet with the last mark. A single octet of ones
answers for an empty value.
-/

namespace Sdci.Isdu

/-- The most data octets that an answer may have. -/
def maxAnswerLength : Nat := 256

/-- The octet that answers for an empty value. -/
def emptyAnswer : UInt8 := 0xFF

namespace Collector

/-- What the collector expects next. -/
inductive Phase
  /-- The start mark, within as many octets. -/
  | waiting (looksLeft : Nat)
  /-- A data octet, which may be the last one. -/
  | data (collected : List UInt8) (isLast : Bool)
  /-- A control octet. -/
  | control (collected : List UInt8)
deriving DecidableEq, Repr

/-- A bound on the octets that a phase and those after it need. -/
def Phase.budget : Phase → Nat
  | waiting looksLeft => looksLeft + 2 * maxAnswerLength + 2
  | data collected _ => 2 * (maxAnswerLength - collected.length) + 1
  | control collected => 2 * (maxAnswerLength - collected.length) + 2

end Collector

/-- A collector of the answer to a read request. -/
structure Collector where
  target : Target
  pollLimit : Nat
  phase : Collector.Phase
deriving DecidableEq, Repr

namespace Collector

/-- The collector for the answer to a request. -/
def ofRequest (request : Request) (pollLimit : Nat) : Collector :=
  ⟨request.target, pollLimit, .waiting (pollLimit + 1)⟩

/-- The collector for the answer to a request, if one look more than the limit is a number. -/
def ofRequest? (request : Request) (pollLimit : Nat) : Option Collector := do
  let looksLeft ← Bounded.add pollLimit 1
  return ⟨request.target, pollLimit, .waiting looksLeft⟩

theorem ofRequest?_of_lt {pollLimit : Nat} (h : pollLimit + 1 < Reply.lengthModulus)
    (request : Request) :
    ofRequest? request pollLimit = some (ofRequest request pollLimit) := by
  rw [ofRequest?, Bounded.add_of_lt h]
  rfl

theorem ofRequest?_eq_none_iff {request : Request} {pollLimit : Nat} :
    ofRequest? request pollLimit = none ↔ Reply.lengthModulus ≤ pollLimit + 1 := by
  constructor
  · intro h
    refine Nat.le_of_not_lt fun hlt => ?_
    cases (ofRequest?_of_lt hlt request).symm.trans h
  · intro h
    rw [ofRequest?, Bounded.add_of_le h]
    rfl

variable (collector : Collector)

/-- Go on in another phase. -/
def moveTo (phase : Phase) : Progress Collector (List UInt8) :=
  .needData { collector with phase }

/-- Take one octet. -/
def feed (octet : UInt8) : Progress Collector (List UInt8) :=
  match collector.phase with
  | .waiting looksLeft =>
    if octet = emptyAnswer then
      .done (.ok [])
    else if (ControlByte.mk octet).isStart then
      collector.moveTo (.data [] (ControlByte.mk octet).isLast)
    else if looksLeft - 1 = 0 then
      .done (.error (.noStart collector.target collector.pollLimit))
    else
      collector.moveTo (.waiting (looksLeft - 1))
  | .data collected isLast =>
    if maxAnswerLength ≤ collected.length then
      .done (.error (.overrun collector.target collected.length))
    else if isLast then
      .done (.ok (collected ++ [octet]))
    else
      collector.moveTo (.control (collected ++ [octet]))
  | .control collected =>
    collector.moveTo (.data collected (ControlByte.mk octet).isLast)

/-- Each octet makes the budget of the phase smaller. -/
theorem budget_lt_of_feed {collector next : Collector} {octet : UInt8}
    (h : collector.feed octet = .needData next) :
    next.phase.budget < collector.phase.budget := by
  unfold feed at h
  split at h
  next looksLeft hphase =>
    rw [hphase]
    split at h
    · cases h
    split at h
    · cases h
      simp [Phase.budget, maxAnswerLength]
    split at h
    · cases h
    · cases h
      simp only [Phase.budget]
      omega
  next collected isLast hphase =>
    rw [hphase]
    split at h
    · cases h
    split at h
    · cases h
    · cases h
      simp only [Phase.budget, List.length_append, List.length_singleton]
      omega
  next collected hphase =>
    cases h
    rw [hphase]
    simp only [Phase.budget]
    omega

instance : Receiver Collector (List UInt8) where
  feed := feed
  budget collector := collector.phase.budget
  budget_lt := budget_lt_of_feed

end Collector

end Sdci.Isdu
