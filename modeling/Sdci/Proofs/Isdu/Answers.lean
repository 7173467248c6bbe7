import Sdci.Device
import Sdci.Proofs.Isdu.Feeding
import Sdci.Proofs.Isdu.Octets

/-!
# The answers of a device, fed to the receivers

A collector that is fed zeros and then the answer with a value gives the value back, as long as the
zeros are within its poll limit and the value is not too long. An acknowledgement is taken from the
first octet behind the zeros. Either fails when there are more zeros.
-/

namespace Sdci.Isdu

namespace ControlByte

variable (isStart isLast : Bool) (sequence : UInt8)

/-- The sequence number has no part in the bits outside its mask. -/
theorem octet_make_and {mask : UInt8} (h : sequenceMask &&& mask = 0) :
    (make isStart isLast sequence).octet &&& mask =
      (if isStart then startBit else 0) &&& mask ||| (if isLast then lastBit else 0) &&& mask := by
  have hor (first second : UInt8) :
      (first ||| second) &&& mask = first &&& mask ||| second &&& mask :=
    UInt8.toBitVec_inj.mp BitVec.and_or_distrib_right
  rw [make, hor, hor, UInt8.and_assoc, h, UInt8.and_zero, UInt8.zero_or]

@[simp]
theorem isStart_make : (make isStart isLast sequence).isStart = isStart := by
  rw [ControlByte.isStart, octet_make_and isStart isLast sequence rfl]
  cases isStart <;> cases isLast <;> decide

@[simp]
theorem isLast_make : (make isStart isLast sequence).isLast = isLast := by
  rw [ControlByte.isLast, octet_make_and isStart isLast sequence rfl]
  cases isStart <;> cases isLast <;> decide

/-- The octet as a control octet is the one it was made as. -/
@[simp]
theorem mk_octet (control : ControlByte) : mk control.octet = control := rfl

theorem octet_make_zero_ne_emptyAnswer : (make true isLast 0).octet ≠ emptyAnswer := by
  cases isLast <;> decide

end ControlByte

/-- The first segment of an answer, and the others. -/
theorem answerOctets_cons (octet : UInt8) (rest : List UInt8) :
    Device.answerOctets (octet :: rest) =
      (ControlByte.make true rest.isEmpty 0).octet :: octet ::
        (Segments.listFrom 1 rest).flatMap Segment.octets := rfl

open Receiver

/-! ### Collectors -/

namespace Collector

variable (target : Target) (pollLimit : Nat)

/-- A collector skips octets without the start mark within its poll limit. -/
theorem feedAll_unmarked (request : Request) {pollLimit : Nat} {skipped : List UInt8}
    (h : skipped.length ≤ pollLimit)
    (hskipped : ∀ octet ∈ skipped, (ControlByte.mk octet).isStart = false) (octets : List UInt8) :
    feedAll (ofRequest request pollLimit) (skipped ++ octets) =
      let behind :=
        feedAll (mk request.target pollLimit (.waiting (pollLimit - skipped.length + 1))) octets
      (behind.1 + skipped.length, behind.2) :=
  feedAll_of_skips (fun looks => mk request.target pollLimit (.waiting looks))
    (feed_skipped request.target pollLimit) h hskipped octets

theorem isStart_of_mem_replicate {count : Nat} {octet : UInt8}
    (h : octet ∈ List.replicate count 0) : (ControlByte.mk octet).isStart = false := by
  rw [List.eq_of_mem_replicate h]
  rfl

variable {collected : List UInt8}

/-- A segment goes to what is collected, if there is room and another one behind it. -/
theorem feedAll_segment (h : collected.length < maxAnswerLength) (octet second : UInt8)
    (rest : List UInt8) (taken : Nat) :
    feedAll (Collector.mk target pollLimit (.data collected false))
        (octet :: (Segments.listFrom taken (second :: rest)).flatMap Segment.octets) =
      ((feedAll (Collector.mk target pollLimit (.data (collected ++ [octet]) rest.isEmpty))
          (second :: (Segments.listFrom (taken + 1) rest).flatMap Segment.octets)).1 + 2,
        (feedAll (Collector.mk target pollLimit (.data (collected ++ [octet]) rest.isEmpty))
          (second :: (Segments.listFrom (taken + 1) rest).flatMap Segment.octets)).2) := by
  rw [feedAll_cons_of_needData (feed_data target pollLimit h false octet),
    Segments.flatMap_octets_cons, feedAll_cons_of_needData (feed_control target pollLimit _ _),
    ControlByte.mk_octet, ControlByte.isLast_make]

/-- From a data octet on, a collector takes the rest of a value from its segments. -/
theorem feedAll_data {rest : List UInt8} {octet : UInt8} {taken : Nat}
    (h : collected.length + rest.length < maxAnswerLength) :
    feedAll (Collector.mk target pollLimit (.data collected rest.isEmpty))
        (octet :: (Segments.listFrom taken rest).flatMap Segment.octets) =
      (2 * rest.length + 1, some (.ok (collected ++ octet :: rest))) := by
  induction rest generalizing collected octet taken with
  | nil => exact feedAll_cons_of_done (feed_data target pollLimit h true octet) _
  | cons second rest ih =>
    rw [List.length_cons] at h
    have hroom : collected.length < maxAnswerLength := by omega
    rw [List.isEmpty_cons, feedAll_segment target pollLimit hroom, ih]
    · simp
      omega
    · rw [List.length_append, List.length_singleton]
      omega

theorem feedAll_full (h : collected.length = maxAnswerLength) (isLast : Bool) (octet : UInt8)
    (octets : List UInt8) :
    feedAll (Collector.mk target pollLimit (.data collected isLast)) (octet :: octets) =
      (2 * (maxAnswerLength - collected.length) + 1,
        some (.error (.overrun target maxAnswerLength))) := by
  rw [h, Nat.sub_self]
  exact feedAll_cons_of_done (feed_full target pollLimit h isLast octet) octets

/-- A collector gives a value up behind as many octets as the longest one has. -/
theorem feedAll_overrun {rest : List UInt8} {octet : UInt8} {taken : Nat}
    (hcollected : collected.length ≤ maxAnswerLength)
    (h : maxAnswerLength ≤ collected.length + rest.length) :
    feedAll (Collector.mk target pollLimit (.data collected rest.isEmpty))
        (octet :: (Segments.listFrom taken rest).flatMap Segment.octets) =
      (2 * (maxAnswerLength - collected.length) + 1,
        some (.error (.overrun target maxAnswerLength))) := by
  induction rest generalizing collected octet taken with
  | nil => exact feedAll_full target pollLimit (Nat.le_antisymm hcollected h) _ _ _
  | cons second rest ih =>
    by_cases hfull : collected.length = maxAnswerLength
    · exact feedAll_full target pollLimit hfull _ _ _
    rw [List.length_cons] at h
    have hroom : collected.length < maxAnswerLength := by omega
    have hlength : (collected ++ [octet]).length = collected.length + 1 := by simp
    rw [List.isEmpty_cons, feedAll_segment target pollLimit hroom, ih]
    · rw [hlength]
      refine Prod.ext ?_ rfl
      show 2 * (maxAnswerLength - (collected.length + 1)) + 1 + 2 = _
      omega
    · omega
    · omega

variable {skipped : List UInt8}

/-- A collector skips what has no start mark and takes the segments behind it. -/
theorem feedAll_segments (hskipped : ∀ octet ∈ skipped, (ControlByte.mk octet).isStart = false)
    (request : Request) {pollLimit : Nat} (h : skipped.length ≤ pollLimit) (octet : UInt8)
    (rest : List UInt8) :
    feedAll (ofRequest request pollLimit)
        (skipped ++ (Segments.listFrom 0 (octet :: rest)).flatMap Segment.octets) =
      if rest.length < maxAnswerLength then
        (2 * (octet :: rest).length + skipped.length, some (.ok (octet :: rest)))
      else
        (2 * maxAnswerLength + 2 + skipped.length,
          some (.error (.overrun request.target maxAnswerLength))) := by
  have hcons : (Segments.listFrom 0 (octet :: rest)).flatMap Segment.octets =
      (ControlByte.make true rest.isEmpty 0).octet :: octet ::
        (Segments.listFrom 1 rest).flatMap Segment.octets := rfl
  have hstart := feed_start request.target pollLimit
    (ControlByte.octet_make_zero_ne_emptyAnswer rest.isEmpty) (ControlByte.isStart_make ..)
    (pollLimit - skipped.length + 1)
  rw [ControlByte.mk_octet, ControlByte.isLast_make] at hstart
  rw [feedAll_unmarked request h hskipped, hcons, feedAll_cons_of_needData hstart]
  split
  · next hroom =>
    rw [feedAll_data _ _ (by rwa [List.length_nil, Nat.zero_add])]
    rfl
  · next hfull =>
    rw [feedAll_overrun _ _ (Nat.zero_le _) (by rwa [List.length_nil, Nat.zero_add, ← Nat.not_lt])]
    rfl

/-- A collector that is fed the answer of a device within its poll limit gives the value back. -/
theorem feedAll_answer (request : Request) {pollLimit busyPolls : Nat}
    (hbusy : busyPolls ≤ pollLimit) {value : List UInt8} (hlength : value.length ≤ maxAnswerLength) :
    feedAll (ofRequest request pollLimit)
        (List.replicate busyPolls 0 ++ Device.answerOctets value) =
      ((Device.answerOctets value).length + busyPolls, some (.ok value)) := by
  have hskipped : (List.replicate busyPolls (0 : UInt8)).length ≤ pollLimit := by
    rwa [List.length_replicate]
  rcases value with _ | ⟨octet, rest⟩
  · rw [feedAll_unmarked request hskipped fun _ => isStart_of_mem_replicate,
      Device.answerOctets, if_pos rfl, feedAll_cons_of_done (feed_emptyAnswer ..),
      List.length_replicate]
    rfl
  · rw [List.length_cons] at hlength
    have hoctets : Device.answerOctets (octet :: rest) =
        (Segments.listFrom 0 (octet :: rest)).flatMap Segment.octets := rfl
    rw [hoctets, feedAll_segments (fun _ => isStart_of_mem_replicate) request hskipped,
      if_pos (by omega), Segments.length_flatMap_octets, List.length_replicate]

/-- A collector gives an answer up that is too long. -/
theorem feedAll_long (request : Request) {pollLimit busyPolls : Nat} (hbusy : busyPolls ≤ pollLimit)
    {value : List UInt8} (hlength : maxAnswerLength < value.length) :
    feedAll (ofRequest request pollLimit)
        (List.replicate busyPolls 0 ++ Device.answerOctets value) =
      (2 * maxAnswerLength + 2 + busyPolls,
        some (.error (.overrun request.target maxAnswerLength))) := by
  have hskipped : (List.replicate busyPolls (0 : UInt8)).length ≤ pollLimit := by
    rwa [List.length_replicate]
  rcases value with _ | ⟨octet, rest⟩
  · cases hlength
  · rw [List.length_cons] at hlength
    have hoctets : Device.answerOctets (octet :: rest) =
        (Segments.listFrom 0 (octet :: rest)).flatMap Segment.octets := rfl
    rw [hoctets, feedAll_segments (fun _ => isStart_of_mem_replicate) request hskipped,
      if_neg (by omega), List.length_replicate]

/-- A collector gives a device up that is busy for longer than its poll limit. -/
theorem feedAll_busy (request : Request) {pollLimit busyPolls : Nat} (hbusy : pollLimit < busyPolls)
    (octets : List UInt8) :
    feedAll (ofRequest request pollLimit) (List.replicate busyPolls 0 ++ octets) =
      (pollLimit + 1, some (.error (.noStart request.target pollLimit))) := by
  obtain ⟨more, rfl⟩ := Nat.exists_eq_add_of_lt hbusy
  have hfeed := @feed_unmarked request.target pollLimit 0 rfl 0
  rw [Nat.add_assoc, ← List.replicate_append_replicate, List.append_assoc,
    feedAll_unmarked request (by simp) fun _ => isStart_of_mem_replicate, List.length_replicate,
    Nat.sub_self, List.replicate_succ, List.cons_append, feedAll_cons_of_done hfeed, Nat.add_comm]

end Collector

/-! ### Acknowledgements -/

namespace Acknowledgement

variable (request : Request) {pollLimit busyPolls : Nat}

/-- A waiter skips zeros within its poll limit. -/
theorem feedAll_zeros (hbusy : busyPolls ≤ pollLimit) (octets : List UInt8) :
    feedAll (ofRequest request pollLimit) (List.replicate busyPolls 0 ++ octets) =
      let behind := feedAll (mk request.target pollLimit (pollLimit - busyPolls + 1)) octets
      (behind.1 + busyPolls, behind.2) := by
  have hlength : (List.replicate busyPolls (0 : UInt8)).length = busyPolls := List.length_replicate
  have hle : (List.replicate busyPolls (0 : UInt8)).length ≤ pollLimit := by rwa [hlength]
  have hskipped := feedAll_of_skips (mk request.target pollLimit)
    (feed_skipped request.target pollLimit) hle (fun _ => List.eq_of_mem_replicate) octets
  rwa [hlength] at hskipped

/-- A waiter takes the first octet of the answer to a write, and leaves the second one. -/
theorem feedAll_answer (hbusy : busyPolls ≤ pollLimit) :
    feedAll (ofRequest request pollLimit)
        (List.replicate busyPolls 0 ++ Device.answerOctets [0]) =
      (busyPolls + 1, some (.ok 0xC0)) := by
  have hanswer : Device.answerOctets [0] = [0xC0, 0] := by decide
  rw [feedAll_zeros request hbusy, hanswer, feedAll_cons_of_done rfl, Nat.add_comm]

/-- A waiter gives a device up that is busy for longer than its poll limit. -/
theorem feedAll_busy (hbusy : pollLimit < busyPolls) (octets : List UInt8) :
    feedAll (ofRequest request pollLimit) (List.replicate busyPolls 0 ++ octets) =
      (pollLimit + 1, some (.error (.noAcknowledgement request.target pollLimit))) := by
  obtain ⟨more, rfl⟩ := Nat.exists_eq_add_of_lt hbusy
  have hfeed := feed_zero request.target pollLimit 0
  rw [Nat.add_assoc, ← List.replicate_append_replicate, List.append_assoc,
    feedAll_zeros request (Nat.le_refl _), Nat.sub_self, List.replicate_succ, List.cons_append,
    feedAll_cons_of_done hfeed, Nat.add_comm]

end Acknowledgement

end Sdci.Isdu
