import Sdci.Proofs.Bounded.Octets
import Sdci.Proofs.Isdu.Octets

/-!
# Requests and receivers within bounds

A request is read segment by segment at a position that must not pass its end, and a receiver counts
its looks down to zero but not below. The positions of a request and the counts of a receiver stay
within their bounds, from the first one on (`Bounded.odOctets?_eq`, `Bounded.Receiver.Ready`).
-/

namespace Sdci.Bounded

open Isdu

/-! ### Requests -/

/-- The segments of a request, and the position of the next one. -/
structure Cursor where
  octets : List UInt8
  position : Nat

namespace Cursor

variable (cursor : Cursor)

/-- How many segments are left. -/
def left? : Option Nat :=
  sub cursor.octets.length cursor.position

/-- The next segment and the cursor behind it, if any is left. What is left is counted before. -/
def next? : Option (Option (Segment × Cursor)) := do
  let _ ← cursor.left?
  match cursor.octets[cursor.position]? with
  | none => return none
  | some octet =>
    let behind ← add cursor.position 1
    return some (Segments.segment cursor.position (behind == cursor.octets.length) octet,
      ⟨cursor.octets, behind⟩)

variable {cursor}

/-- A cursor within the octets has the segment of the octet at its position next. -/
theorem next?_of_lt (h : cursor.position < cursor.octets.length)
    (hlength : cursor.octets.length < Reply.lengthModulus) :
    cursor.next? = some (some (Segments.segment cursor.position
      (cursor.position + 1 == cursor.octets.length) cursor.octets[cursor.position],
        ⟨cursor.octets, cursor.position + 1⟩)) := by
  rw [next?, left?, sub_of_le (by omega), List.getElem?_eq_getElem h, add_of_lt (by omega)]
  rfl

theorem next?_of_eq (h : cursor.position = cursor.octets.length) : cursor.next? = some none := by
  rw [next?, left?, sub_of_le (by omega), List.getElem?_eq_none (by omega)]
  rfl

/-- Taking a segment moves the cursor towards the end. -/
theorem lt_of_next? {segment : Segment} {others : Cursor}
    (h : cursor.next? = some (some (segment, others))) :
    others.octets.length - others.position < cursor.octets.length - cursor.position := by
  rw [next?] at h
  obtain ⟨left, -, h⟩ := Option.bind_eq_some_iff.mp h
  cases hoctet : cursor.octets[cursor.position]? with
  | none =>
    rw [hoctet] at h
    cases h
  | some octet =>
    rw [hoctet] at h
    obtain ⟨behind, hbehind, h⟩ := Option.bind_eq_some_iff.mp h
    obtain ⟨hlt, -⟩ := List.getElem?_eq_some_iff.mp hoctet
    obtain rfl : cursor.position + 1 = behind := eq_of_add hbehind
    cases h
    simp only
    omega

/-- All segments that are left. -/
def toList? (cursor : Cursor) : Option (List Segment) :=
  match _ : cursor.next? with
  | none => none
  | some none => some []
  | some (some (segment, others)) => do return segment :: (← others.toList?)
termination_by cursor.octets.length - cursor.position
decreasing_by exact lt_of_next? ‹_›

theorem toList?_of_end (h : cursor.next? = some none) : cursor.toList? = some [] := by
  rw [toList?]
  split
  · next hnext => cases hnext.symm.trans h
  · rfl
  · next hnext => cases hnext.symm.trans h

theorem toList?_of_next {segment : Segment} {others : Cursor} {rest : List Segment}
    (h : cursor.next? = some (some (segment, others))) (hrest : others.toList? = some rest) :
    cursor.toList? = some (segment :: rest) := by
  rw [toList?]
  split
  · next hnext => cases hnext.symm.trans h
  · next hnext => cases hnext.symm.trans h
  · next hnext =>
    cases hnext.symm.trans h
    rw [hrest]
    rfl

/-- A cursor never leaves the octets, and its segments are those of the octets behind it. -/
theorem toList?_eq {octets rest : List UInt8} (hlength : octets.length < Reply.lengthModulus)
    {position : Nat} (hposition : position ≤ octets.length) (h : octets.drop position = rest) :
    toList? ⟨octets, position⟩ = some (Segments.listFrom position rest) := by
  induction rest generalizing position with
  | nil =>
    exact toList?_of_end (next?_of_eq (Nat.le_antisymm hposition (List.drop_eq_nil_iff.mp h)))
  | cons octet rest ih =>
    have hcount := congrArg List.length h
    rw [List.length_drop, List.length_cons] at hcount
    have hlt : position < octets.length := by omega
    obtain ⟨hoctet, hrest⟩ := List.cons.inj ((List.drop_eq_getElem_cons hlt).symm.trans h)
    have hlast : (position + 1 == octets.length) = rest.isEmpty := by
      rw [Bool.eq_iff_iff, beq_iff_eq, List.isEmpty_iff_length_eq_zero]
      omega
    have hnext := @next?_of_lt ⟨octets, position⟩ hlt hlength
    rw [toList?_of_next hnext (ih hlt hrest), hlast, hoctet]
    rfl

end Cursor

/-- The octets of all segments of a request, one for each cycle. -/
def odOctets? (request : Request) : Option (List UInt8) := do
  return (← Cursor.toList? ⟨request.serviceOctets, 0⟩).flatMap Segment.octets

/-- The position in a request stays within its service octets, and all of them are sent. -/
theorem odOctets?_eq (request : Request) : odOctets? request = some request.odOctets := by
  have hlength : request.serviceOctets.length < Reply.lengthModulus :=
    Nat.lt_of_le_of_lt request.length_serviceOctets_le (by decide)
  rw [odOctets?, Cursor.toList?_eq hlength (Nat.zero_le _) rfl]
  rfl

/-! ### Receivers -/

/-- A receiver that counts within bounds. When it is ready, no count leaves them, and as long as it
needs more octets it stays ready. -/
class Receiver (ρ : Type) (α : outParam Type) extends Isdu.Receiver ρ α where
  /-- Take one octet. -/
  feed? : ρ → UInt8 → Option (Progress ρ α)
  /-- The counts are within bounds. -/
  Ready : ρ → Prop
  feed?_eq {receiver : ρ} (octet : UInt8) : Ready receiver →
    feed? receiver octet = some (Isdu.Receiver.feed receiver octet)
  eq_of_feed? {receiver : ρ} {octet : UInt8} {progress : Progress ρ α} :
    feed? receiver octet = some progress → progress = Isdu.Receiver.feed receiver octet
  ready_of_feed {receiver next : ρ} {octet : UInt8} : Ready receiver →
    Isdu.Receiver.feed receiver octet = .needData next → Ready next

namespace Collector

/-- Take one octet. Only the wait for the start mark counts anything. -/
def feed? (collector : Collector) (octet : UInt8) :
    Option (Progress Collector (List UInt8)) :=
  match collector.phase with
  | .waiting looksLeft =>
    if octet = emptyAnswer then
      some (.done (.ok []))
    else if (ControlByte.mk octet).isStart then
      some (collector.moveTo (.data [] (ControlByte.mk octet).isLast))
    else do
      let left ← sub looksLeft 1
      if left = 0 then
        return .done (.error (.noStart collector.target collector.pollLimit))
      else
        return collector.moveTo (.waiting left)
  | .data .. | .control _ => some (collector.feed octet)

/-- A collector that waits for the start mark has a look left. -/
def Ready (collector : Collector) : Prop :=
  ∀ looksLeft, collector.phase = .waiting looksLeft → 1 ≤ looksLeft

variable {collector next : Collector} {octet : UInt8}

theorem feed?_eq (octet : UInt8) (h : Ready collector) :
    feed? collector octet = some (collector.feed octet) := by
  obtain ⟨target, pollLimit, phase⟩ := collector
  cases phase with
  | waiting looksLeft =>
    simp only [feed?, Collector.feed, sub_of_le (h looksLeft rfl), Option.bind_eq_bind,
      Option.bind_some]
    split
    · rfl
    split
    · rfl
    split <;> rfl
  | data collected isLast => rfl
  | control collected => rfl

theorem eq_of_feed? {progress : Progress Collector (List UInt8)}
    (h : feed? collector octet = some progress) : progress = collector.feed octet := by
  obtain ⟨target, pollLimit, phase⟩ := collector
  cases phase with
  | waiting looksLeft =>
    simp only [feed?] at h
    simp only [Collector.feed]
    split at h
    · next hempty => rw [if_pos hempty, Option.some.inj h]
    next hempty =>
    rw [if_neg hempty]
    split at h
    · next hstart => rw [if_pos hstart, Option.some.inj h]
    next hstart =>
    rw [if_neg hstart]
    obtain ⟨left, hleft, hresult⟩ := Option.bind_eq_some_iff.mp h
    rw [eq_of_sub hleft]
    split at hresult
    · next hnone => rw [if_pos hnone, Option.some.inj hresult]
    · next hsome => rw [if_neg hsome, Option.some.inj hresult]
  | data collected isLast => exact (Option.some.inj h).symm
  | control collected => exact (Option.some.inj h).symm

theorem ready_of_feed (h : Ready collector) (hfeed : collector.feed octet = .needData next) :
    Ready next := by
  obtain ⟨target, pollLimit, phase⟩ := collector
  intro looksLeft hnext
  cases phase with
  | waiting looks =>
    simp only [Collector.feed] at hfeed
    split at hfeed
    · cases hfeed
    split at hfeed
    · cases hfeed
      cases hnext
    split at hfeed
    · cases hfeed
    · cases hfeed
      cases hnext
      omega
  | data collected isLast =>
    simp only [Collector.feed] at hfeed
    split at hfeed
    · cases hfeed
    split at hfeed
    · cases hfeed
    · cases hfeed
      cases hnext
  | control collected =>
    cases hfeed
    cases hnext

instance : Receiver Collector (List UInt8) where
  feed? := feed?
  Ready := Ready
  feed?_eq := feed?_eq
  eq_of_feed? := eq_of_feed?
  ready_of_feed := ready_of_feed

theorem ready_ofRequest (request : Request) (pollLimit : Nat) :
    Receiver.Ready (Collector.ofRequest request pollLimit) := by
  rintro looksLeft ⟨⟩
  exact Nat.le_add_left 1 pollLimit

end Collector

namespace Acknowledgement

/-- Take one octet. -/
def feed? (waiter : Acknowledgement) (octet : UInt8) :
    Option (Progress Acknowledgement UInt8) :=
  if octet ≠ 0 then
    some (.done (.ok octet))
  else do
    let left ← sub waiter.looksLeft 1
    if left = 0 then
      return .done (.error (.noAcknowledgement waiter.target waiter.pollLimit))
    else
      return .needData { waiter with looksLeft := left }

/-- A receiver of an acknowledgement has a look left. -/
def Ready (waiter : Acknowledgement) : Prop := 1 ≤ waiter.looksLeft

variable {waiter next : Acknowledgement} {octet : UInt8}

theorem feed?_eq (octet : UInt8) (h : Ready waiter) :
    feed? waiter octet = some (waiter.feed octet) := by
  rw [feed?, Acknowledgement.feed, sub_of_le h]
  split
  · rfl
  · rw [Option.bind_eq_bind, Option.bind_some]
    split <;> rfl

theorem eq_of_feed? {progress : Progress Acknowledgement UInt8}
    (h : feed? waiter octet = some progress) : progress = waiter.feed octet := by
  rw [feed?] at h
  rw [Acknowledgement.feed]
  split at h
  · next hoctet => rw [if_pos hoctet, Option.some.inj h]
  next hoctet =>
  rw [if_neg hoctet]
  obtain ⟨left, hleft, hresult⟩ := Option.bind_eq_some_iff.mp h
  rw [eq_of_sub hleft]
  split at hresult
  · next hnone => rw [if_pos hnone, Option.some.inj hresult]
  · next hsome => rw [if_neg hsome, Option.some.inj hresult]

theorem ready_of_feed (_ : Ready waiter) (hfeed : waiter.feed octet = .needData next) :
    Ready next := by
  rw [Acknowledgement.feed] at hfeed
  split at hfeed
  · cases hfeed
  split at hfeed
  · cases hfeed
  · cases hfeed
    rw [Ready]
    simp only
    omega

instance : Receiver Acknowledgement UInt8 where
  feed? := feed?
  Ready := Ready
  feed?_eq := feed?_eq
  eq_of_feed? := eq_of_feed?
  ready_of_feed := ready_of_feed

theorem ready_ofRequest (request : Request) (pollLimit : Nat) :
    Receiver.Ready (Acknowledgement.ofRequest request pollLimit) :=
  Nat.le_add_left 1 pollLimit

end Acknowledgement

end Sdci.Bounded
