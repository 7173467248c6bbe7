import Sdci.Proofs.Bounded.Transfers

/-!
# Segments one at a time

Segments are taken one at a time, and those that are left are counted before each call. Any number
of calls, also behind the last segment, counts exactly and takes the segments in order
(`Bounded.segments_counted`). The calls at a position in the service octets do the same, and the
position never passes the end, so no count of what is left goes below zero
(`Bounded.Cursor.Within.steps?_eq`).
-/

namespace Sdci.Isdu.Segments

variable (segments : Segments)

/-- Take the next segment, if any is left. -/
def take : Option Segment × Segments :=
  match segments.next? with
  | none => (none, segments)
  | some (segment, others) => (some segment, others)

/-- Count the segments that are left and take the next one, time after time. -/
def steps (segments : Segments) : Nat → List (Nat × Option Segment) × Segments
  | 0 => ([], segments)
  | calls + 1 =>
    let (segment, others) := segments.take
    let (later, last) := others.steps calls
    ((segments.left, segment) :: later, last)

/-! ### One call -/

/-- The first segment that is left is taken. -/
@[simp]
theorem take_fst : segments.take.1 = segments.toList[0]? := by
  rw [take]
  cases hnext : segments.next? with
  | none => rw [toList_of_next?_eq_none hnext, List.getElem?_nil]
  | some next => rw [toList_of_next?_eq_some hnext, List.getElem?_cons_zero]

/-- The others are left. -/
@[simp]
theorem toList_take_snd : segments.take.2.toList = segments.toList.tail := by
  rw [take]
  cases hnext : segments.next? with
  | none => rw [toList_of_next?_eq_none hnext, List.tail_nil]
  | some next => rw [toList_of_next?_eq_some hnext, List.tail_cons]

theorem left_take_snd : segments.take.2.left = segments.left - 1 := by
  rw [← length_toList, toList_take_snd, List.length_tail, length_toList]

variable {segments}

/-- The call changes nothing when no segment is left. -/
theorem take_of_left_eq_zero (h : segments.left = 0) : segments.take = (none, segments) := by
  obtain ⟨_ | ⟨octet, rest⟩, taken⟩ := segments
  · rfl
  · simp [left] at h

/-! ### Any number of calls -/

variable (segments)

/-- Before each call as many segments are left as calls do not account for, and the call takes the
one with its number. -/
theorem steps_fst (calls : Nat) :
    (segments.steps calls).1 =
      (List.range calls).map fun number => (segments.left - number, segments.toList[number]?) := by
  induction calls generalizing segments with
  | zero => rfl
  | succ calls ih =>
    -- The calls behind the first one are numbered from one on
    rw [List.range_succ_eq_map]
    simp [steps, ih, left_take_snd, Nat.sub_sub, Nat.add_comm]

theorem toList_steps_snd (calls : Nat) :
    (segments.steps calls).2.toList = segments.toList.drop calls := by
  induction calls generalizing segments with
  | zero => rfl
  | succ calls ih => simp [steps, ih]

theorem left_steps_snd (calls : Nat) :
    (segments.steps calls).2.left = segments.left - calls := by
  rw [← length_toList, toList_steps_snd, List.length_drop, length_toList]

/-- No segment is lost: those that were taken and those that are left make up the list. -/
theorem taken_append_toList (calls : Nat) :
    (segments.steps calls).1.filterMap Prod.snd ++ (segments.steps calls).2.toList =
      segments.toList := by
  induction calls generalizing segments with
  | zero => rfl
  | succ calls ih =>
    obtain ⟨_ | ⟨octet, rest⟩, taken⟩ := segments
    · exact ih ⟨[], taken⟩
    · simpa [steps, take, next?, toList, listFrom] using ih ⟨rest, taken + 1⟩

variable {segments}

/-- When no segment is left, no number of calls takes one or changes anything. -/
theorem steps_of_left_eq_zero (h : segments.left = 0) (calls : Nat) :
    segments.steps calls = (List.replicate calls (0, none), segments) := by
  induction calls with
  | zero => rfl
  | succ calls ih => simp [steps, take_of_left_eq_zero h, ih, h, List.replicate_succ]

/-- The segments carry the service octets in order. -/
theorem map_data_listFrom (taken : Nat) (octets : List UInt8) :
    (listFrom taken octets).map Segment.data = octets := by
  induction octets generalizing taken with
  | nil => rfl
  | cons octet rest ih => simp [listFrom, segment, ih]

end Sdci.Isdu.Segments

namespace Sdci.Bounded

open Isdu

namespace Cursor

variable (cursor : Cursor)

/-- Take the next segment and move the position behind it. At the end there is none, and the
position stays where it is; unlike `next?`, the call says so. -/
def take? : Option (Option Segment × Cursor) :=
  match cursor.octets[cursor.position]? with
  | none => some (none, cursor)
  | some octet => do
    let behind ← add cursor.position 1
    return (some (Segments.segment cursor.position (behind == cursor.octets.length) octet),
      ⟨cursor.octets, behind⟩)

/-- Count the segments that are left and take the next one, time after time. -/
def steps? (cursor : Cursor) : Nat → Option (List (Nat × Option Segment) × Cursor)
  | 0 => some ([], cursor)
  | calls + 1 => do
    let left ← cursor.left?
    let (segment, others) ← cursor.take?
    let (later, last) ← others.steps? calls
    return ((left, segment) :: later, last)

/-- The segments from the position on. -/
def segments : Segments :=
  ⟨cursor.octets.drop cursor.position, cursor.position⟩

/-- The cursor after a number of calls. -/
def after (calls : Nat) : Cursor :=
  ⟨cursor.octets, min (cursor.position + calls) cursor.octets.length⟩

/-- The position has not passed the end, and the end is a length. -/
structure Within : Prop where
  position_le : cursor.position ≤ cursor.octets.length
  length_lt : cursor.octets.length < Reply.lengthModulus

variable {cursor}

theorem Within.after (h : cursor.Within) (calls : Nat) : (cursor.after calls).Within :=
  ⟨Nat.min_le_right .., h.length_lt⟩

theorem Within.after_zero (h : cursor.Within) : cursor.after 0 = cursor := by
  rw [Cursor.after, Nat.add_zero, Nat.min_eq_left h.position_le]

theorem after_of_end (h : cursor.position = cursor.octets.length) (calls : Nat) :
    cursor.after calls = cursor := by
  rw [after, Nat.min_eq_right (by omega), ← h]

theorem after_after (first second : Nat) :
    (cursor.after first).after second = cursor.after (first + second) := by
  simp only [after, Cursor.mk.injEq, true_and]
  omega

/-- Within bounds the difference that counts the segments is one. -/
theorem Within.left?_eq (h : cursor.Within) : cursor.left? = some cursor.segments.left := by
  rw [left?, sub_of_le h.position_le, segments, Segments.left, List.length_drop]

/-- A call within bounds takes the next segment, and the position does not pass the end. -/
theorem Within.take?_eq (h : cursor.Within) :
    cursor.take? = some (cursor.segments.take.1, cursor.after 1) ∧
      (cursor.after 1).segments = cursor.segments.take.2 := by
  -- A position at the end stays there, one before it moves on to the next octet
  rcases Nat.eq_or_lt_of_le h.position_le with hend | hlt
  · have htake : cursor.segments.take = (none, cursor.segments) := by
      apply Segments.take_of_left_eq_zero
      simp [segments, Segments.left, hend]
    rw [after_of_end hend, htake, take?, List.getElem?_eq_none (Nat.le_of_eq hend.symm)]
    exact ⟨rfl, rfl⟩
  · have hafter : cursor.after 1 = ⟨cursor.octets, cursor.position + 1⟩ := by
      rw [Cursor.after, Nat.min_eq_left hlt]
    have hlast : (cursor.position + 1 == cursor.octets.length) =
        (cursor.octets.drop (cursor.position + 1)).isEmpty := by
      rw [Bool.eq_iff_iff, beq_iff_eq, List.isEmpty_iff, List.drop_eq_nil_iff]
      omega
    have hadd : add cursor.position 1 = some (cursor.position + 1) :=
      add_of_lt (Nat.lt_of_le_of_lt hlt h.length_lt)
    rw [hafter, take?, List.getElem?_eq_getElem hlt, segments, segments,
      List.drop_eq_getElem_cons hlt]
    simp only [hadd, hlast, Option.bind_eq_bind, Option.bind_some]
    exact ⟨rfl, rfl⟩

/-- Any number of calls stays within bounds, and does what it does without them. -/
theorem Within.steps?_eq (h : cursor.Within) (calls : Nat) :
    cursor.steps? calls = some ((cursor.segments.steps calls).1, cursor.after calls) ∧
      (cursor.after calls).segments = (cursor.segments.steps calls).2 := by
  induction calls generalizing cursor with
  | zero =>
    rw [h.after_zero]
    exact ⟨rfl, rfl⟩
  | succ calls ih =>
    obtain ⟨htake, hsegments⟩ := h.take?_eq
    obtain ⟨hsteps, hlast⟩ := ih (h.after 1)
    rw [after_after, Nat.add_comm 1] at hsteps hlast
    rw [hsegments] at hsteps hlast
    rw [steps?, h.left?_eq, htake]
    simp only [Option.bind_eq_bind, Option.bind_some, hsteps]
    exact ⟨rfl, hlast⟩

theorem within_request (request : Request) : Cursor.Within ⟨request.serviceOctets, 0⟩ :=
  ⟨Nat.zero_le _, Nat.lt_of_le_of_lt request.length_serviceOctets_le (by decide)⟩

end Cursor

/-- After any number of calls the segments that are left are as many as there are less the calls,
and a call takes the segment with its number, if there is one. Those that were taken and those that
are left make up the list of all segments, which carry the service octets in order. Behind the last
segment every call takes none and changes nothing. The calls at a position in the service octets do
the same: the position stops at their end, and no count of what is left goes below zero. -/
theorem segments_counted (request : Request) (calls : Nat) :
    let length := request.serviceOctets.length
    let all := request.segments.toList
    let steps := (request.segments.steps calls).1
    let others := (request.segments.steps calls).2
    let cursor : Cursor := ⟨request.serviceOctets, min calls length⟩
    steps = (List.range calls).map (fun number => (length - min number length, all[number]?)) ∧
      others.left = length - min calls length ∧
      steps.filterMap Prod.snd ++ others.toList = all ∧
      all.map Segment.data = request.serviceOctets ∧
      Cursor.steps? ⟨request.serviceOctets, 0⟩ calls = some (steps, cursor) ∧
      cursor.left? = some others.left ∧ cursor.segments = others ∧
      (length ≤ calls → ∀ further,
        others.steps further = (List.replicate further (0, none), others) ∧
          cursor.steps? further = some (List.replicate further (0, none), cursor)) := by
  intro length all steps others cursor
  have hfirst := Cursor.within_request request
  have hafter : Cursor.after ⟨request.serviceOctets, 0⟩ calls = cursor := by
    rw [Cursor.after, Nat.zero_add]
  have hwithin : cursor.Within := hafter ▸ hfirst.after calls
  obtain ⟨hsteps, hothers⟩ : Cursor.steps? ⟨request.serviceOctets, 0⟩ calls =
      some (steps, cursor) ∧ cursor.segments = others := by
    rw [← hafter]
    exact hfirst.steps?_eq calls
  have hleft : others.left = length - min calls length := by
    rw [Nat.min_comm, ← Nat.sub_eq_sub_min]
    exact request.segments.left_steps_snd calls
  refine ⟨?_, hleft, request.segments.taken_append_toList calls,
    Segments.map_data_listFrom 0 request.serviceOctets, hsteps, ?_, hothers, ?_⟩
  · simp only [Nat.min_comm _ length, ← Nat.sub_eq_sub_min]
    exact request.segments.steps_fst calls
  · rw [hwithin.left?_eq, hothers]
  · intro hend further
    have hnone : others.steps further = (List.replicate further (0, none), others) := by
      apply Segments.steps_of_left_eq_zero
      rw [hleft, Nat.min_eq_right hend, Nat.sub_self]
    have hstay : cursor.after further = cursor :=
      Cursor.after_of_end (Nat.min_eq_right hend) further
    obtain ⟨hfurther, -⟩ := hwithin.steps?_eq further
    rw [hothers, hnone, hstay] at hfurther
    exact ⟨hnone, hfurther⟩

/-- The four segments of a read, and two calls behind them. -/
theorem segments_counted_of_read :
    let request : Request := .read 0x1234 5
    (request.segments.steps 6).1 =
        [(4, some ⟨⟨0x80⟩, 0x90⟩), (3, some ⟨⟨0x01⟩, 0x12⟩), (2, some ⟨⟨0x02⟩, 0x34⟩),
          (1, some ⟨⟨0x43⟩, 0x05⟩), (0, none), (0, none)] ∧
      ∀ further, Cursor.steps? ⟨request.serviceOctets, 4⟩ further =
        some (List.replicate further (0, none), ⟨request.serviceOctets, 4⟩) := by
  intro request
  obtain ⟨hsteps, -, -, -, -, -, -, hend⟩ := segments_counted request 6
  refine ⟨hsteps.trans (by decide), ?_⟩
  intro further
  exact (hend (by decide) further).2

end Sdci.Bounded
