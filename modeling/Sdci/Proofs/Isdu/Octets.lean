import Sdci.Isdu.Segments

/-!
# The octets of a request

A request is sent as two octets for each of its service octets, and there are at least four of
these.
-/

namespace Sdci.Isdu

/-- The control octet and the service octet of the first segment, and those of the others. -/
theorem Segments.flatMap_octets_cons (taken : Nat) (octet : UInt8) (rest : List UInt8) :
    (listFrom taken (octet :: rest)).flatMap Segment.octets =
      (ControlByte.make (taken == 0) rest.isEmpty (taken % 64).toUInt8).octet :: octet ::
        (listFrom (taken + 1) rest).flatMap Segment.octets := rfl

theorem Segments.length_flatMap_octets (taken : Nat) (octets : List UInt8) :
    ((listFrom taken octets).flatMap Segment.octets).length = 2 * octets.length := by
  induction octets generalizing taken with
  | nil => rfl
  | cons octet rest ih =>
    rw [listFrom, List.flatMap_cons, List.length_append, ih, List.length_cons]
    simp only [Segment.octets, List.length_cons, List.length_nil]
    omega

namespace Request

variable (request : Request)

theorem length_odOctets : request.odOctets.length = 2 * request.serviceOctets.length :=
  Segments.length_flatMap_octets 0 request.serviceOctets

/-- A write has its data behind the service octet and the address, and one octet more if the length
of the data does not fit the service octet. -/
theorem length_serviceOctets_write (index : UInt16) (subindex : UInt8) {data : List UInt8}
    (h : data.length ≤ maxWriteLength) :
    (write index subindex data h).serviceOctets.length =
      if 1 ≤ data.length ∧ data.length ≤ maxShortLength then data.length + 4
      else data.length + 5 := by
  rw [serviceOctets]
  split
  · simp [addressOctets]
  · simp [addressOctets]

/-- Every request names its service and an address of three octets. -/
theorem four_le_length_serviceOctets : 4 ≤ request.serviceOctets.length := by
  cases request with
  | read index subindex => exact Nat.le_refl 4
  | write index subindex data length_le =>
    rw [length_serviceOctets_write]
    split <;> omega

theorem length_serviceOctets_le : request.serviceOctets.length ≤ 5 + maxWriteLength := by
  cases request with
  | read index subindex => exact Nat.le_of_ble_eq_true rfl
  | write index subindex data length_le =>
    rw [length_serviceOctets_write]
    split <;> omega

theorem eight_le_length_odOctets : 8 ≤ request.odOctets.length := by
  have hlength := request.length_odOctets
  have hfour := request.four_le_length_serviceOctets
  omega

/-- The octets of a request begin with a start mark. -/
theorem exists_odOctets_eq : ∃ octet rest,
    request.serviceOctets = octet :: rest ∧
      request.odOctets = (ControlByte.make true rest.isEmpty 0).octet :: octet ::
        (Segments.listFrom 1 rest).flatMap Segment.octets := by
  rcases hservice : request.serviceOctets with _ | ⟨octet, rest⟩
  · have hfour := request.four_le_length_serviceOctets
    simp [hservice] at hfour
  · refine ⟨octet, rest, rfl, ?_⟩
    rw [odOctets, segments, Segments.toList, hservice]
    rfl

end Request

end Sdci.Isdu
