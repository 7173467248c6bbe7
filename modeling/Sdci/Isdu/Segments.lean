import Sdci.Isdu.ControlByte
import Sdci.Isdu.Request

/-!
# Segments of a request

A request is sent in segments, each a control octet and a service octet. The segments are taken
one at a time; `Segments.toList` has all that are left.
-/

namespace Sdci.Isdu

/-- A control octet and the octet behind it. -/
structure Segment where
  control : ControlByte
  data : UInt8
deriving DecidableEq, Repr

/-- The two octets of a segment. -/
def Segment.octets (segment : Segment) : List UInt8 :=
  [segment.control.octet, segment.data]

/-- The segments of a request that are still to be taken. -/
structure Segments where
  /-- The service octets they carry. -/
  rest : List UInt8
  /-- How many were taken before. -/
  taken : Nat
deriving DecidableEq, Repr

namespace Segments

/-- The segment that carries a service octet, the one with number `position`. -/
def segment (position : Nat) (isLast : Bool) (octet : UInt8) : Segment :=
  ⟨.make (position == 0) isLast (position % 64).toUInt8, octet⟩

/-- How many segments are left. -/
def left (segments : Segments) : Nat :=
  segments.rest.length

/-- The next segment and the segments behind it. -/
def next? : Segments → Option (Segment × Segments)
  | ⟨[], _⟩ => none
  | ⟨octet :: rest, taken⟩ => some (segment taken rest.isEmpty octet, ⟨rest, taken + 1⟩)

/-- The segments of the service octets `rest` when `taken` others came before. -/
def listFrom (taken : Nat) : List UInt8 → List Segment
  | [] => []
  | octet :: rest => segment taken rest.isEmpty octet :: listFrom (taken + 1) rest

/-- The segments that are left, in order. -/
def toList (segments : Segments) : List Segment :=
  listFrom segments.taken segments.rest

theorem length_listFrom (taken : Nat) (octets : List UInt8) :
    (listFrom taken octets).length = octets.length := by
  induction octets generalizing taken with
  | nil => rfl
  | cons octet rest ih => simp [listFrom, ih]

/-- There are as many segments as are counted. -/
@[simp]
theorem length_toList (segments : Segments) : segments.toList.length = segments.left :=
  length_listFrom segments.taken segments.rest

/-- Nothing is left when no segment is next. -/
theorem toList_of_next?_eq_none {segments : Segments} (h : segments.next? = none) :
    segments.toList = [] := by
  obtain ⟨_ | ⟨octet, rest⟩, taken⟩ := segments
  · rfl
  · simp [next?] at h

/-- Taking a segment takes the head of the list. -/
theorem toList_of_next?_eq_some {segments others : Segments} {segment : Segment}
    (h : segments.next? = some (segment, others)) :
    segments.toList = segment :: others.toList := by
  obtain ⟨_ | ⟨octet, rest⟩, taken⟩ := segments
  · simp [next?] at h
  · obtain ⟨rfl, rfl⟩ := by simpa [next?] using h
    rfl

end Segments

namespace Request

/-- All segments of the request. -/
def segments (request : Request) : Segments :=
  ⟨request.serviceOctets, 0⟩

/-- The octets of all segments, one for each cycle. -/
def odOctets (request : Request) : List UInt8 :=
  request.segments.toList.flatMap Segment.octets

end Request

end Sdci.Isdu
