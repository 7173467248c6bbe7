import Mathlib.Data.Stream.Init
import Mathlib.Order.Nat
import Sdci.Proofs.Isdu.Feeding

/-!
# Where a receiver ends

A receiver that is fed a stream of octets ends at one place of it with one result, whatever comes
behind (`Receiver.EndsAt`). Where a collector ends is told by the first start mark, and by the first
last mark on every other octet from there on (`Collector.endsAt_noStart`, `Collector.endsAt_empty`,
`Collector.endsAt_value`, `Collector.endsAt_overrun`). It ends on every stream, and no other bit of
a control octet counts (`receivers_end`).
-/

namespace Sdci.Isdu

open Receiver

namespace Receiver

variable {ρ α : Type} [Receiver ρ α]

/-- The receiver takes the octets of the stream up to the one at `place`, and has its result then.
It needs more octets when they end before that place, and does not look at those behind it. -/
def EndsAt (receiver : ρ) (octets : Stream' UInt8) (place : Nat)
    (result : Except TransferError α) : Prop :=
  ∀ count, feedAll receiver (octets.take count) =
    if place < count then (place + 1, some result) else (count, none)

variable {receiver next : ρ} {octets : Stream' UInt8} {place : Nat}
  {result : Except TransferError α}

theorem endsAt_zero (h : feed receiver octets.head = .done result) :
    EndsAt receiver octets 0 result := by
  intro count
  cases count with
  | zero => rfl
  | succ count => rw [Stream'.take_succ, feedAll_cons_of_done h, if_pos count.succ_pos]

theorem endsAt_succ (h : feed receiver octets.head = .needData next)
    (hnext : EndsAt next octets.tail place result) : EndsAt receiver octets (place + 1) result := by
  intro count
  cases count with
  | zero => rfl
  | succ count =>
    rw [Stream'.take_succ, feedAll_cons_of_needData h, hnext count]
    simp only [Nat.add_lt_add_iff_right]
    split <;> rfl

/-- Receivers that do the same with the first octet end alike. -/
theorem EndsAt.of_feed_eq {other : ρ} (h : EndsAt receiver octets place result)
    (hfeed : feed other octets.head = feed receiver octets.head) :
    EndsAt other octets place result := by
  intro count
  rw [← h count]
  cases count with
  | zero => rfl
  | succ count => rw [Stream'.take_succ, feedAll, feedAll, hfeed]

/-- A receiver that waits skips octets, one look for each, and ends where it does behind them. -/
theorem endsAt_of_skips (waiting : Nat → ρ) {isBusy : UInt8 → Prop}
    (hskips : ∀ looks octet, isBusy octet →
      feed (waiting (looks + 2)) octet = .needData (waiting (looks + 1)))
    {looks start : Nat} (hstart : start ≤ looks)
    (hbusy : ∀ place < start, isBusy (octets.get place))
    (h : EndsAt (waiting (looks - start + 1)) (octets.drop start) place result) :
    EndsAt (waiting (looks + 1)) octets (start + place) result := by
  induction start generalizing octets looks with
  | zero => rwa [Nat.zero_add]
  | succ start ih =>
    obtain ⟨looks, rfl⟩ := Nat.exists_eq_add_of_le' (Nat.one_le_of_lt hstart)
    rw [Nat.add_right_comm start 1 place]
    apply endsAt_succ (hskips looks octets.head (hbusy 0 start.succ_pos))
    apply ih (Nat.le_of_succ_le_succ hstart)
    · intro place hplace
      exact hbusy (place + 1) (Nat.succ_lt_succ hplace)
    · rwa [Nat.add_sub_add_right] at h

/-- Receivers that end alike have taken as many octets at any time. -/
theorem EndsAt.feedAll_eq {other : ρ} {others : Stream' UInt8}
    (h : EndsAt receiver octets place result) (hother : EndsAt other others place result)
    (count : Nat) : feedAll receiver (octets.take count) = feedAll other (others.take count) := by
  rw [h count, hother count]

end Receiver

/-- A mark that is first at a place is at none before it. -/
theorem eq_false_of_isLeast {mark : Nat → Bool} {least : Nat}
    (h : IsLeast {number | mark number = true} least) {number : Nat} (hlt : number < least) :
    mark number = false := by
  cases hmark : mark number with
  | false => rfl
  | true => exact absurd (h.2 hmark) (Nat.not_le.mpr hlt)

/-- Among finitely many places, a mark is first at one of them or is at none. -/
theorem isLeast_or_forall (mark : Nat → Bool) (bound : Nat) :
    (∃ least < bound, IsLeast {number | mark number = true} least) ∨
      ∀ number < bound, mark number = false := by
  by_cases h : ∃ number, mark number = true
  · have hleast := Nat.isLeast_find h
    rcases Nat.lt_or_ge (Nat.find h) bound with hlt | hge
    · exact Or.inl ⟨_, hlt, hleast⟩
    · right
      intro number hnumber
      exact eq_false_of_isLeast hleast (Nat.lt_of_lt_of_le hnumber hge)
  · right
    intro number _
    exact Bool.eq_false_iff.mpr fun hmark => h ⟨number, hmark⟩

/-! ### Collectors -/

/-- The control octets from the place `start` on: every other octet. -/
def controlAt (octets : Stream' UInt8) (start number : Nat) : ControlByte :=
  ⟨octets.get (start + 2 * number)⟩

/-- The octets behind the control octets. -/
def dataAt (octets : Stream' UInt8) (start number : Nat) : UInt8 :=
  octets.get (start + 2 * number + 1)

@[simp]
theorem controlAt_drop (octets : Stream' UInt8) (start number : Nat) :
    controlAt (octets.drop start) 0 number = controlAt octets start number := by
  rw [controlAt, Stream'.get_drop, Nat.zero_add, controlAt]

@[simp]
theorem dataAt_drop (octets : Stream' UInt8) (start : Nat) :
    dataAt (octets.drop start) 0 = dataAt octets start := by
  funext number
  rw [dataAt, Stream'.get_drop, Nat.zero_add, dataAt, Nat.add_assoc]

namespace Collector

variable (target : Target) (pollLimit : Nat) {octets : Stream' UInt8} {collected : List UInt8}

/-- A control octet without the last mark takes an octet to what is collected. -/
theorem endsAt_segment {place : Nat} {result : Except TransferError (List UInt8)}
    (hroom : collected.length < maxAnswerLength) (hlast : (controlAt octets 0 0).isLast = false)
    (h : EndsAt (mk target pollLimit (.control (collected ++ [dataAt octets 0 0])))
      octets.tail.tail place result) :
    EndsAt (mk target pollLimit (.control collected)) octets (place + 2) result := by
  have hdata := feed_data target pollLimit hroom (controlAt octets 0 0).isLast (dataAt octets 0 0)
  rw [if_neg (by simp [hlast])] at hdata
  apply endsAt_succ (feed_control target pollLimit collected octets.head)
  exact endsAt_succ hdata h

/-- A collector ends with the octets behind the control octets up to the first last mark, if there
is room for them. -/
theorem endsAt_control {last : Nat} (hroom : collected.length + last < maxAnswerLength)
    (hlast : (controlAt octets 0 last).isLast = true)
    (hbefore : ∀ number < last, (controlAt octets 0 number).isLast = false) :
    EndsAt (mk target pollLimit (.control collected)) octets (2 * last + 1)
      (.ok (collected ++ (List.range (last + 1)).map (dataAt octets 0))) := by
  induction last generalizing octets collected with
  | zero =>
    apply endsAt_succ (feed_control target pollLimit collected octets.head)
    apply endsAt_zero
    rw [feed_data target pollLimit hroom]
    exact if_pos hlast
  | succ last ih =>
    have hbehind := @ih octets.tail.tail (collected ++ [dataAt octets 0 0])
      (by rw [List.length_append, List.length_singleton]; omega) hlast
      (fun number hnumber => hbefore (number + 1) (Nat.succ_lt_succ hnumber))
    rw [List.append_assoc] at hbehind
    rw [List.range_succ_eq_map, List.map_cons, List.map_map]
    exact endsAt_segment target pollLimit (by omega) (hbefore 0 last.succ_pos) hbehind

/-- A collector gives up at the data octet that it has no room for, if no last mark comes before. -/
theorem endsAt_control_full {room : Nat} (hroom : collected.length + room = maxAnswerLength)
    (h : ∀ number < room, (controlAt octets 0 number).isLast = false) :
    EndsAt (mk target pollLimit (.control collected)) octets (2 * room + 1)
      (.error (.overrun target maxAnswerLength)) := by
  induction room generalizing octets collected with
  | zero =>
    apply endsAt_succ (feed_control target pollLimit collected octets.head)
    exact endsAt_zero (feed_full target pollLimit hroom _ _)
  | succ room ih =>
    have hbehind := @ih octets.tail.tail (collected ++ [dataAt octets 0 0])
      (by rw [List.length_append, List.length_singleton]; omega)
      (fun number hnumber => h (number + 1) (Nat.succ_lt_succ hnumber))
    exact endsAt_segment target pollLimit (by omega) (h 0 room.succ_pos) hbehind

variable (request : Request) {pollLimit} {start : Nat}

/-- A collector skips the octets in front of the first start mark. -/
theorem endsAt_ofRequest {place : Nat} {result : Except TransferError (List UInt8)}
    (hstart : start ≤ pollLimit)
    (hunmarked : ∀ place < start, (ControlByte.mk (octets.get place)).isStart = false)
    (h : EndsAt (mk request.target pollLimit (.waiting (pollLimit - start + 1)))
      (octets.drop start) place result) :
    EndsAt (ofRequest request pollLimit) octets (start + place) result :=
  endsAt_of_skips (fun looks => mk request.target pollLimit (.waiting looks))
    (feed_skipped request.target pollLimit) hstart hunmarked h

/-- A collector gives up when no start mark comes within its poll limit. -/
theorem endsAt_noStart
    (h : ∀ place ≤ pollLimit, (ControlByte.mk (octets.get place)).isStart = false) :
    EndsAt (ofRequest request pollLimit) octets pollLimit
      (.error (.noStart request.target pollLimit)) := by
  have hfeed := feed_unmarked request.target pollLimit (h pollLimit (Nat.le_refl _)) 0
  show EndsAt _ octets (pollLimit + 0) _
  apply endsAt_ofRequest request (Nat.le_refl pollLimit)
  · intro place hplace
    exact h place (Nat.le_of_lt hplace)
  · apply endsAt_zero
    rwa [Stream'.head_drop, Nat.sub_self]

section

variable (hstart : start ≤ pollLimit)
  (hleast : IsLeast {place | (ControlByte.mk (octets.get place)).isStart = true} start)
include hstart hleast

theorem endsAt_empty (hempty : octets.get start = emptyAnswer) :
    EndsAt (ofRequest request pollLimit) octets start (.ok []) := by
  show EndsAt _ octets (start + 0) _
  apply endsAt_ofRequest request hstart
  · intro place hplace
    exact eq_false_of_isLeast hleast hplace
  · apply endsAt_zero
    rw [Stream'.head_drop, hempty, feed_emptyAnswer]

/-- The octet with the start mark is taken as the control octets behind it are. -/
theorem endsAt_of_start {place : Nat} {result : Except TransferError (List UInt8)}
    (hne : octets.get start ≠ emptyAnswer)
    (h : EndsAt (mk request.target pollLimit (.control [])) (octets.drop start) place result) :
    EndsAt (ofRequest request pollLimit) octets (start + place) result := by
  apply endsAt_ofRequest request hstart
  · intro place hplace
    exact eq_false_of_isLeast hleast hplace
  · apply h.of_feed_eq
    rw [Stream'.head_drop, feed_start _ _ hne hleast.1, feed_control]

/-- A collector ends with the octets behind the control octets up to the first last mark. -/
theorem endsAt_value (hne : octets.get start ≠ emptyAnswer) {last : Nat}
    (hroom : last < maxAnswerLength)
    (hlast : IsLeast {number | (controlAt octets start number).isLast = true} last) :
    EndsAt (ofRequest request pollLimit) octets (start + (2 * last + 1))
      (.ok ((List.range (last + 1)).map (dataAt octets start))) := by
  apply endsAt_of_start request hstart hleast hne
  rw [← dataAt_drop]
  apply endsAt_control
  · rwa [List.length_nil, Nat.zero_add]
  · rw [controlAt_drop]
    exact hlast.1
  · intro number hnumber
    rw [controlAt_drop]
    exact eq_false_of_isLeast hlast hnumber

/-- A collector gives up when no last mark comes while it has room. -/
theorem endsAt_overrun (hne : octets.get start ≠ emptyAnswer)
    (h : ∀ number < maxAnswerLength, (controlAt octets start number).isLast = false) :
    EndsAt (ofRequest request pollLimit) octets (start + (2 * maxAnswerLength + 1))
      (.error (.overrun request.target maxAnswerLength)) := by
  apply endsAt_of_start request hstart hleast hne
  apply endsAt_control_full
  · rw [List.length_nil, Nat.zero_add]
  · intro number hnumber
    rw [controlAt_drop]
    exact h number hnumber

/-- Collectors that see the same marks and the same data from the start mark on take as much and
come to the same result, whatever else their control octets say. -/
theorem feedAll_eq_of_marks {others : Stream' UInt8}
    (hleast' : IsLeast {place | (ControlByte.mk (others.get place)).isStart = true} start)
    (hne : octets.get start ≠ emptyAnswer) (hne' : others.get start ≠ emptyAnswer)
    (hmarks : ∀ number,
      (controlAt others start number).isLast = (controlAt octets start number).isLast)
    (hdata : ∀ number, dataAt others start number = dataAt octets start number) (count : Nat) :
    feedAll (ofRequest request pollLimit) (octets.take count) =
      feedAll (ofRequest request pollLimit) (others.take count) := by
  rcases isLeast_or_forall (fun number => (controlAt octets start number).isLast) maxAnswerLength
    with ⟨last, hroom, hlast⟩ | hnone
  · have hlast' : IsLeast {number | (controlAt others start number).isLast = true} last := by
      simpa only [hmarks] using hlast
    have hvalue := endsAt_value request hstart hleast' hne' hroom hlast'
    rw [funext hdata] at hvalue
    exact (endsAt_value request hstart hleast hne hroom hlast).feedAll_eq hvalue count
  · have hoverrun := endsAt_overrun request hstart hleast' hne' fun number hnumber =>
      (hmarks number).trans (hnone number hnumber)
    exact (endsAt_overrun request hstart hleast hne hnone).feedAll_eq hoverrun count

end

/-- A collector always ends. -/
theorem exists_endsAt (octets : Stream' UInt8) :
    ∃ place ≤ pollLimit + (2 * maxAnswerLength + 1), ∃ result,
      EndsAt (ofRequest request pollLimit) octets place result := by
  rcases isLeast_or_forall (fun place => (ControlByte.mk (octets.get place)).isStart)
    (pollLimit + 1) with ⟨start, hlt, hleast⟩ | hnone
  · have hstart : start ≤ pollLimit := Nat.le_of_lt_succ hlt
    by_cases hempty : octets.get start = emptyAnswer
    · exact ⟨start, by omega, _, endsAt_empty request hstart hleast hempty⟩
    rcases isLeast_or_forall (fun number => (controlAt octets start number).isLast) maxAnswerLength
      with ⟨last, hroom, hlast⟩ | hnone
    · exact ⟨_, by omega, _, endsAt_value request hstart hleast hempty hroom hlast⟩
    · exact ⟨_, by omega, _, endsAt_overrun request hstart hleast hempty hnone⟩
  · refine ⟨pollLimit, by omega, _, endsAt_noStart request ?_⟩
    intro place hplace
    exact hnone place (Nat.lt_succ_of_le hplace)

end Collector

/-! ### Acknowledgements -/

namespace Acknowledgement

variable (request : Request) {pollLimit start : Nat} {octets : Stream' UInt8}

/-- A waiter skips zeros. -/
theorem endsAt_ofRequest {place : Nat} {result : Except TransferError UInt8}
    (hstart : start ≤ pollLimit) (hzero : ∀ place < start, octets.get place = 0)
    (h : EndsAt (mk request.target pollLimit (pollLimit - start + 1)) (octets.drop start) place
      result) :
    EndsAt (ofRequest request pollLimit) octets (start + place) result :=
  endsAt_of_skips (mk request.target pollLimit) (feed_skipped request.target pollLimit) hstart
    hzero h

/-- A waiter ends with the first octet but zero within its poll limit. -/
theorem endsAt_acknowledged (hstart : start ≤ pollLimit)
    (hleast : IsLeast {place | octets.get place ≠ 0} start) :
    EndsAt (ofRequest request pollLimit) octets start (.ok (octets.get start)) := by
  show EndsAt _ octets (start + 0) _
  apply endsAt_ofRequest request hstart
  · intro place hplace
    by_contra hne
    exact Nat.not_le.mpr hplace (hleast.2 hne)
  · apply endsAt_zero
    rw [Stream'.head_drop, feed_of_ne_zero _ _ hleast.1]

/-- A waiter gives up when nothing but zeros comes within its poll limit. -/
theorem endsAt_noAcknowledgement (h : ∀ place ≤ pollLimit, octets.get place = 0) :
    EndsAt (ofRequest request pollLimit) octets pollLimit
      (.error (.noAcknowledgement request.target pollLimit)) := by
  show EndsAt _ octets (pollLimit + 0) _
  apply endsAt_ofRequest request (Nat.le_refl pollLimit)
  · intro place hplace
    exact h place (Nat.le_of_lt hplace)
  · apply endsAt_zero
    rw [Stream'.head_drop, Nat.sub_self, h pollLimit (Nat.le_refl _)]
    exact feed_zero request.target pollLimit 0

end Acknowledgement

/-- Where the receivers end on any stream of octets. A collector gives up at its poll limit when no
start mark has come, ends with an empty value at an octet of ones in the place of the first start
mark, and otherwise takes every other octet behind that place: up to the one behind the first last
mark, or up to the one that is too many. So it always ends, and of the control octets no bit counts
but these marks. A waiter ends at the first octet but zero, or gives up at its poll limit. -/
theorem receivers_end (request : Request) (pollLimit : Nat) (octets : Stream' UInt8) :
    let collector := Collector.ofRequest request pollLimit
    let waiter := Acknowledgement.ofRequest request pollLimit
    ((∀ place ≤ pollLimit, (ControlByte.mk (octets.get place)).isStart = false) →
      EndsAt collector octets pollLimit (.error (.noStart request.target pollLimit))) ∧
    (∀ start ≤ pollLimit,
      IsLeast {place | (ControlByte.mk (octets.get place)).isStart = true} start →
      (octets.get start = 0xFF → EndsAt collector octets start (.ok [])) ∧
      (octets.get start ≠ 0xFF →
        (∀ last ≤ 255, IsLeast {number | (controlAt octets start number).isLast = true} last →
          EndsAt collector octets (start + 2 * last + 1)
            (.ok ((List.range (last + 1)).map (dataAt octets start)))) ∧
        ((∀ number ≤ 255, (controlAt octets start number).isLast = false) →
          EndsAt collector octets (start + 513) (.error (.overrun request.target 256))) ∧
        ∀ others : Stream' UInt8,
          IsLeast {place | (ControlByte.mk (others.get place)).isStart = true} start →
          others.get start ≠ 0xFF →
          (∀ number,
            (controlAt others start number).isLast = (controlAt octets start number).isLast) →
          (∀ number, dataAt others start number = dataAt octets start number) →
          ∀ count, feedAll collector (octets.take count) = feedAll collector (others.take count))) ∧
    (∃ place ≤ pollLimit + 513, ∃ result, EndsAt collector octets place result) ∧
    (∀ start ≤ pollLimit, IsLeast {place | octets.get place ≠ 0} start →
      EndsAt waiter octets start (.ok (octets.get start))) ∧
    ((∀ place ≤ pollLimit, octets.get place = 0) →
      EndsAt waiter octets pollLimit (.error (.noAcknowledgement request.target pollLimit))) := by
  intro collector waiter
  refine ⟨Collector.endsAt_noStart request, ?_, Collector.exists_endsAt request octets, ?_,
    Acknowledgement.endsAt_noAcknowledgement request⟩
  · intro start hstart hleast
    refine ⟨Collector.endsAt_empty request hstart hleast, fun hne => ⟨?_, ?_, ?_⟩⟩
    · intro last hle hlast
      exact Collector.endsAt_value request hstart hleast hne (Nat.lt_succ_of_le hle) hlast
    · intro hnone
      exact Collector.endsAt_overrun request hstart hleast hne fun number hlt =>
        hnone number (Nat.le_of_lt_succ hlt)
    · intro others hleast' hne' hmarks hdata count
      exact Collector.feedAll_eq_of_marks request hstart hleast hleast' hne hne' hmarks hdata count
  · intro start hstart hleast
    exact Acknowledgement.endsAt_acknowledged request hstart hleast

/-- A start mark with some sequence number, data that looks like an empty answer, a last mark, and
data that looks like a start, all behind a zero. -/
theorem receivers_end_of_misleading_data :
    let request := Request.read 0x0010 0
    let octets : Stream' UInt8 := [0x00, 0x85, 0xFF, 0x4A, 0xC0] ++ₛ Stream'.const 0
    (IsLeast {place | (ControlByte.mk (octets.get place)).isStart = true} 1 ∧
      octets.get 1 ≠ 0xFF ∧
      IsLeast {number | (controlAt octets 1 number).isLast = true} 1 ∧
      EndsAt (Collector.ofRequest request 3) octets 4 (.ok [0xFF, 0xC0])) ∧
    IsLeast {place | octets.get place ≠ 0} 1 ∧
      EndsAt (Acknowledgement.ofRequest request 3) octets 1 (.ok 0x85) := by
  intro request octets
  have hone {p : Nat → Prop} (hzero : ¬p 0) (h : p 1) : IsLeast {place | p place} 1 := by
    refine ⟨h, fun place hplace => Nat.one_le_iff_ne_zero.mpr ?_⟩
    rintro rfl
    exact hzero hplace
  have hstart : IsLeast {place | (ControlByte.mk (octets.get place)).isStart = true} 1 :=
    hone (by decide) (by decide)
  have hlast : IsLeast {number | (controlAt octets 1 number).isLast = true} 1 :=
    hone (by decide) (by decide)
  have hleast : IsLeast {place | octets.get place ≠ 0} 1 := hone (by decide) (by decide)
  have hne : octets.get 1 ≠ 0xFF := by decide
  obtain ⟨-, hcollector, -, hwaiter, -⟩ := receivers_end request 3 octets
  exact ⟨⟨hstart, hne, hlast, ((hcollector 1 (by decide) hstart).2 hne).1 1 (by decide) hlast⟩,
    hleast, hwaiter 1 (by decide) hleast⟩

end Sdci.Isdu
