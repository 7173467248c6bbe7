import Sdci.Proofs.Device.Assembly

/-!
# The framing of requests

The octets of a request are pairs of a control octet and a service octet. Read back from the start
mark through the octet behind the last mark they are the service octets (`reassemble?`), and these
tell the request (`Request.ofServiceOctets?`), so the octets of a request never begin with those of
another one (`uniquely_decodable`). A device reads octets in this way
(`Device.foldl_takeOctet_of_reassemble?`). So does a collector, unless there are too many service
octets (`collects_requests`).
-/

namespace Sdci.Isdu

/-! ### Reassembling -/

/-- The octets behind the control octets, through the one behind the last mark, and what follows. -/
def pairs? : List UInt8 → Option (List UInt8 × List UInt8)
  | control :: octet :: rest =>
    if (ControlByte.mk control).isLast then some ([octet], rest)
    else (pairs? rest).map fun (octets, others) => (octet :: octets, others)
  | _ => none

/-- The octets of the pairs that begin at the first start mark, and what follows. -/
def reassemble? : List UInt8 → Option (List UInt8 × List UInt8)
  | [] => none
  | octet :: rest =>
    if (ControlByte.mk octet).isStart then pairs? (octet :: rest) else reassemble? rest

/-- Octets that are complete are so whatever follows. -/
theorem pairs?_append {octets message rest : List UInt8} (h : pairs? octets = some (message, rest))
    (others : List UInt8) : pairs? (octets ++ others) = some (message, rest ++ others) := by
  fun_induction pairs? octets generalizing message with
  | case1 control octet behind hlast =>
    obtain ⟨rfl, rfl⟩ := by simpa using h
    simp [pairs?, hlast]
  | case2 control octet behind hlast ih =>
    obtain ⟨⟨message, left⟩, hbehind, heq⟩ := Option.map_eq_some_iff.mp h
    obtain ⟨rfl, rfl⟩ := Prod.mk.inj heq
    simp [pairs?, hlast, ih hbehind]
  | case3 => cases h

theorem reassemble?_append {octets message rest : List UInt8}
    (h : reassemble? octets = some (message, rest)) (others : List UInt8) :
    reassemble? (octets ++ others) = some (message, rest ++ others) := by
  induction octets with
  | nil => cases h
  | cons octet octets ih =>
    rw [reassemble?] at h
    rw [List.cons_append, reassemble?]
    split at h
    · next hstart =>
      rw [if_pos hstart, ← List.cons_append]
      exact pairs?_append h others
    · next hstart =>
      rw [if_neg hstart]
      exact ih h

/-- Octets that are complete are not so before the last one. -/
theorem reassemble?_of_isPrefix {octets message prior : List UInt8}
    (h : reassemble? octets = some (message, [])) (hprior : prior <+: octets) (hne : prior ≠ octets) :
    reassemble? prior = none := by
  obtain ⟨others, rfl⟩ := hprior
  cases hcomplete : reassemble? prior with
  | none => rfl
  | some parts =>
    have hrest : parts.2 ++ others = [] := by
      rw [reassemble?_append hcomplete] at h
      exact (Prod.mk.inj (Option.some.inj h)).2
    obtain ⟨-, rfl⟩ := List.append_eq_nil_iff.mp hrest
    exact absurd (List.append_nil prior).symm hne

/-- Segments are read back as the octets they carry. -/
theorem pairs?_segments (taken : Nat) (octet : UInt8) (rest others : List UInt8) :
    pairs? ((Segments.listFrom taken (octet :: rest)).flatMap Segment.octets ++ others) =
      some (octet :: rest, others) := by
  induction rest generalizing taken octet with
  | nil =>
    rw [Segments.flatMap_octets_cons, List.cons_append, List.cons_append, pairs?]
    simp [Segments.listFrom]
  | cons second rest ih =>
    rw [Segments.flatMap_octets_cons, List.cons_append, List.cons_append, pairs?, ih]
    simp

namespace Request

variable (request : Request)

theorem reassemble?_odOctets (rest : List UInt8) :
    reassemble? (request.odOctets ++ rest) = some (request.serviceOctets, rest) := by
  obtain ⟨octet, others, hservice, hoctets⟩ := request.exists_odOctets_eq
  have hpairs := pairs?_segments 0 octet others rest
  rw [Segments.flatMap_octets_cons] at hpairs
  rw [hservice, hoctets, List.cons_append, reassemble?, ControlByte.mk_octet,
    ControlByte.isStart_make, if_pos rfl]
  exact hpairs

end Request

/-! ### Marks and numbers -/

theorem ControlByte.toNat_sequence_make (isStart isLast : Bool) (number : Nat) :
    (make isStart isLast (number % 64).toUInt8).sequence.toNat = number % 64 := by
  have hall : ∀ number : Fin 64, ∀ isStart isLast,
      (make isStart isLast number.val.toUInt8).sequence.toNat = number.val := by decide +kernel
  exact hall ⟨number % 64, Nat.mod_lt _ (by decide)⟩ isStart isLast

namespace Segments

theorem getElem?_listFrom (taken : Nat) (octets : List UInt8) (number : Nat) :
    (listFrom taken octets)[number]? =
      octets[number]?.map (segment (taken + number) (number + 1 == octets.length)) := by
  induction octets generalizing taken number with
  | nil => rfl
  | cons octet rest ih =>
    cases number with
    | zero => cases rest <;> rfl
    | succ number =>
      rw [listFrom, List.getElem?_cons_succ, ih, List.getElem?_cons_succ, List.length_cons,
        Nat.add_right_comm taken 1 number, Nat.add_assoc taken number 1]
      simp

/-- The pairs of segments, by their numbers. -/
theorem getElem?_flatMap_octets (segments : List Segment) (number : Nat) :
    (segments.flatMap Segment.octets)[2 * number]? =
        segments[number]?.map (fun segment => segment.control.octet) ∧
      (segments.flatMap Segment.octets)[2 * number + 1]? = segments[number]?.map Segment.data := by
  induction segments generalizing number with
  | nil => exact ⟨rfl, rfl⟩
  | cons segment rest ih =>
    cases number with
    | zero => exact ⟨rfl, rfl⟩
    | succ number => exact ih number

end Segments

/-- The pair with a number: the marks of its control octet and the octet behind it. -/
theorem Request.pair (request : Request) {number : Nat}
    (h : number < request.serviceOctets.length) : ∃ control : ControlByte,
      request.odOctets[2 * number]? = some control.octet ∧
      request.odOctets[2 * number + 1]? = request.serviceOctets[number]? ∧
      control.isStart = (number == 0) ∧
      control.isLast = (number + 1 == request.serviceOctets.length) ∧
      control.sequence.toNat = number % 64 := by
  obtain ⟨hcontrol, hdata⟩ := Segments.getElem?_flatMap_octets request.segments.toList number
  have hsegment : request.segments.toList[number]? =
      some (Segments.segment number (number + 1 == request.serviceOctets.length)
        request.serviceOctets[number]) := by
    rw [Segments.toList, Segments.getElem?_listFrom]
    simp [segments, h]
  rw [hsegment] at hcontrol hdata
  refine ⟨_, hcontrol, ?_, ControlByte.isStart_make .., ControlByte.isLast_make ..,
    ControlByte.toNat_sequence_make ..⟩
  rw [odOctets, hdata, List.getElem?_eq_getElem h]
  rfl

/-! ### Reading service octets -/

namespace Request

/-- The request that the service octets state, as a device reads them: the upper half of the first
one tells the service, and the lower half the length of the data, or that the next octet does. -/
def ofServiceOctets? (octets : List UInt8) : Option Request :=
  match Device.readKey? octets with
  | some (index, subindex) => some (.read index subindex)
  | none =>
    (Device.writtenValue? octets).bind fun ((index, subindex), data) =>
      (ofData index subindex data).toOption

/-- The service octets state the request. -/
theorem ofServiceOctets?_serviceOctets (request : Request) :
    ofServiceOctets? request.serviceOctets = some request := by
  cases request with
  | read index subindex => simp [ofServiceOctets?, Device.readKey?_read]
  | write index subindex data length_le =>
    obtain ⟨hkey, hvalue⟩ := Device.writtenValue?_write index subindex length_le
    simp [ofServiceOctets?, hkey, hvalue, ofData, length_le, Except.toOption]

/-- The octets of a request begin with those of another one only if the requests are the same. -/
theorem eq_of_odOctets_isPrefix {request other : Request} (h : request.odOctets <+: other.odOctets) :
    request = other := by
  obtain ⟨rest, hrest⟩ := h
  have hother := other.reassemble?_odOctets []
  rw [List.append_nil, ← hrest, reassemble?_odOctets] at hother
  have hservice : request.serviceOctets = other.serviceOctets :=
    (Prod.mk.inj (Option.some.inj hother)).1
  have heq := request.ofServiceOctets?_serviceOctets
  rw [hservice, ofServiceOctets?_serviceOctets] at heq
  exact (Option.some.inj heq).symm

variable (index : UInt16) (subindex : UInt8) (data : List UInt8)

theorem ofData_eq_error_iff (error : TransferError) :
    ofData index subindex data = .error error ↔
      maxWriteLength < data.length ∧ error = .dataTooLong data.length := by
  rw [ofData]
  split
  · next h => simp [Nat.not_lt.mpr h]
  · next h => simp [Nat.not_le.mp h, eq_comm]

theorem ofData_eq_ok_iff (request : Request) :
    ofData index subindex data = .ok request ↔
      data.length ≤ maxWriteLength ∧ request.target = ⟨.write, index, subindex⟩ ∧
        request.data = data := by
  rw [ofData]
  split
  · next h =>
    cases request with
    | read => simp [target]
    | write => simp [target, Request.data, h, eq_comm, and_assoc]
  · next h => simp [h]

end Request

/-- The octets of a request are complete at the last one and tell the request, so those of different
requests do not begin with one another. Every request has as many pairs as service octets, with the
start mark on the first one, the last mark on the final one and numbers modulo sixty-four. -/
theorem uniquely_decodable :
    (∀ request : Request,
      (∀ rest, reassemble? (request.odOctets ++ rest) = some (request.serviceOctets, rest)) ∧
      (∀ prior, prior <+: request.odOctets → prior ≠ request.odOctets →
        reassemble? prior = none) ∧
      request.odOctets.length = 2 * request.serviceOctets.length ∧
      (∀ number < request.serviceOctets.length, ∃ control : ControlByte,
        request.odOctets[2 * number]? = some control.octet ∧
        request.odOctets[2 * number + 1]? = request.serviceOctets[number]? ∧
        control.isStart = (number == 0) ∧
        control.isLast = (number + 1 == request.serviceOctets.length) ∧
        control.sequence.toNat = number % 64) ∧
      Request.ofServiceOctets? request.serviceOctets = some request ∧
      ∀ other : Request, request ≠ other →
        ¬ request.odOctets <+: other.odOctets ∧ ¬ other.odOctets <+: request.odOctets) ∧
    ∀ index subindex data,
      (∀ error, Request.ofData index subindex data = .error error ↔
        255 < data.length ∧ error = .dataTooLong data.length) ∧
      ∀ request, Request.ofData index subindex data = .ok request ↔
        data.length ≤ 255 ∧ request.target = ⟨.write, index, subindex⟩ ∧ request.data = data := by
  refine ⟨fun request => ⟨request.reassemble?_odOctets, ?_, request.length_odOctets,
    fun number => request.pair, request.ofServiceOctets?_serviceOctets, ?_⟩, ?_⟩
  · intro prior
    have hcomplete := request.reassemble?_odOctets []
    rw [List.append_nil] at hcomplete
    exact reassemble?_of_isPrefix hcomplete
  · intro other hne
    constructor
    · intro hbegins
      exact hne (Request.eq_of_odOctets_isPrefix hbegins)
    · intro hbegins
      exact hne (Request.eq_of_odOctets_isPrefix hbegins).symm
  · intro index subindex data
    exact ⟨Request.ofData_eq_error_iff index subindex data,
      Request.ofData_eq_ok_iff index subindex data⟩

/-- A write whose data reads like another request, and the one it reads like. -/
theorem uniquely_decodable_of_nested_request :
    let inner : Request := .read 0x0018 0
    let outer : Request :=
      .write 0x0018 0 (inner.odOctets ++ List.replicate 60 0xFF) (by decide)
    reassemble? (outer.odOctets.take 129) = none ∧
      (∃ control : ControlByte, outer.odOctets[2 * 64]? = some control.octet ∧
        control.isStart = false ∧ control.isLast = false ∧ control.sequence.toNat = 0) ∧
      ¬ inner.odOctets <+: outer.odOctets ∧
      Request.ofData 0x0018 0 (List.replicate 256 0) = .error (.dataTooLong 256) := by
  intro inner outer
  obtain ⟨-, hprior, -, hpair, -, hbegins⟩ := uniquely_decodable.1 outer
  obtain ⟨control, hcontrol, -, hstart, hlast, hsequence⟩ := hpair 64 (by decide)
  refine ⟨hprior _ (List.take_prefix _ _) (by decide), ⟨control, hcontrol, hstart, hlast,
    hsequence⟩, (hbegins inner (by decide)).2, ?_⟩
  have hlength : (List.replicate 256 (0 : UInt8)).length = 256 := List.length_replicate
  exact ((uniquely_decodable.2 0x0018 0 _).1 _).mpr ⟨by rw [hlength]; decide, by rw [hlength]⟩

/-! ### Collectors -/

/-- A request has at most as many service octets as an answer may have octets if its data leaves
room for the longest header. -/
theorem Request.length_serviceOctets_le_iff (request : Request) :
    request.serviceOctets.length ≤ maxAnswerLength ↔ request.data.length ≤ 251 := by
  cases request with
  | read index subindex => simp [serviceOctets, addressOctets, data, maxAnswerLength]
  | write index subindex data length_le =>
    rw [length_serviceOctets_write, Request.data, maxAnswerLength]
    split
    · next h =>
      have hshort : data.length ≤ 15 := h.2
      omega
    · omega

/-- A collector takes any request for an answer that is its service octets, with the last octet of
the request, unless there are too many of them. -/
theorem collects_requests (request other : Request) {pollLimit : Nat} {skipped : List UInt8}
    (hlength : skipped.length ≤ pollLimit)
    (hskipped : ∀ octet ∈ skipped, (ControlByte.mk octet).isStart = false) :
    let fed := Receiver.feedAll (Collector.ofRequest other pollLimit) (skipped ++ request.odOctets)
    (request.serviceOctets.length ≤ 256 →
      fed = ((skipped ++ request.odOctets).length, some (.ok request.serviceOctets))) ∧
    (256 < request.serviceOctets.length → fed.2 = some (.error (.overrun other.target 256))) ∧
    (request.serviceOctets.length ≤ 256 ↔ request.data.length ≤ 251) ∧
    fed.2 ≠ some (.ok []) ∧ request.odOctets.head? ≠ some emptyAnswer := by
  intro fed
  obtain ⟨octet, rest, hservice, hoctets⟩ := request.exists_odOctets_eq
  have hsegments : request.odOctets =
      (Segments.listFrom 0 (octet :: rest)).flatMap Segment.octets := hoctets
  have hcollector := Collector.feedAll_segments hskipped other hlength octet rest
  rw [← hsegments] at hcollector
  have hfed : fed = _ := hcollector
  have hroom : rest.length < maxAnswerLength ↔ request.serviceOctets.length ≤ 256 := by
    rw [hservice]
    exact Iff.rfl
  refine ⟨?_, ?_, request.length_serviceOctets_le_iff, ?_, ?_⟩
  · intro hle
    rw [hfed, if_pos (hroom.mpr hle), List.length_append, request.length_odOctets, hservice,
      Nat.add_comm]
  · intro hlt
    rw [hfed, if_neg (fun h => Nat.not_le.mpr hlt (hroom.mp h))]
    rfl
  · rw [hfed]
    split
    · simp
    · simp
  · rw [hoctets]
    simpa using ControlByte.octet_make_zero_ne_emptyAnswer rest.isEmpty

/-- The longest write that fits and the shortest one that does not, behind two skipped octets. -/
theorem collects_requests_of_boundary :
    let fits : Request :=
      .write 0x0100 1 (List.replicate 251 0xFF) (by rw [List.length_replicate]; decide)
    let long : Request :=
      .write 0x0100 1 (List.replicate 252 0xFF) (by rw [List.length_replicate]; decide)
    let collector := Collector.ofRequest (.read 0x0010 0) 2
    Receiver.feedAll collector ([0x7F, 0] ++ fits.odOctets) =
        (514, some (.ok fits.serviceOctets)) ∧
      (Receiver.feedAll collector ([0x7F, 0] ++ long.odOctets)).2 =
        some (.error (.overrun ⟨.read, 0x0010, 0⟩ 256)) := by
  intro fits long collector
  have hskipped : ∀ octet ∈ [0x7F, 0], (ControlByte.mk octet).isStart = false :=
    List.forall_mem_cons.mpr ⟨rfl, List.forall_mem_singleton.mpr rfl⟩
  obtain ⟨hfits, -⟩ := collects_requests fits (.read 0x0010 0) (Nat.le_refl 2) hskipped
  obtain ⟨-, hlong, -⟩ := collects_requests long (.read 0x0010 0) (Nat.le_refl 2) hskipped
  have hfits_length : fits.serviceOctets.length = 256 := by
    rw [Request.length_serviceOctets_write, List.length_replicate]
    rfl
  have hlong_length : long.serviceOctets.length = 257 := by
    rw [Request.length_serviceOctets_write, List.length_replicate]
    rfl
  refine ⟨?_, hlong (by rw [hlong_length]; decide)⟩
  rw [hfits (Nat.le_of_eq hfits_length), List.length_append, fits.length_odOctets, hfits_length]
  rfl

end Sdci.Isdu

/-! ### Devices -/

namespace Sdci.Device

open Isdu

theorem foldl_takeOctet_of_pairs? {octets message rest : List UInt8}
    (h : pairs? octets = some (message, rest)) {device : Device}
    (hcontrol : device.intake = .control) :
    octets.foldl takeOctet device =
      rest.foldl takeOctet
        ({ device with intake := .idle, request := [] }.execute (device.request ++ message)) := by
  fun_induction pairs? octets generalizing message device with
  | case1 control octet behind hlast =>
    obtain ⟨rfl, rfl⟩ := by simpa using h
    simp [takeOctet, hcontrol, hlast]
  | case2 control octet behind hlast ih =>
    obtain ⟨⟨message, left⟩, hbehind, heq⟩ := Option.map_eq_some_iff.mp h
    obtain ⟨rfl, rfl⟩ := Prod.mk.inj heq
    simp [takeOctet, hcontrol, hlast, ih hbehind]
  | case3 => cases h

/-- An idle device that takes octets executes those that are reassembled. -/
theorem foldl_takeOctet_of_reassemble? {octets message rest : List UInt8}
    (h : reassemble? octets = some (message, rest)) {device : Device}
    (hidle : device.intake = .idle) :
    octets.foldl takeOctet device =
      rest.foldl takeOctet ({ device with intake := .idle, request := [] }.execute message) := by
  induction octets with
  | nil => cases h
  | cons octet octets ih =>
    rw [reassemble?] at h
    split at h
    · next hstart =>
      have hmark : device.takeOctet octet =
          { device with intake := .control, request := [] }.takeOctet octet := by
        simp [takeOctet, hidle, hstart]
      rw [List.foldl_cons, hmark]
      exact foldl_takeOctet_of_pairs? h rfl
    · next hstart =>
      have hskip : device.takeOctet octet = device := by
        simp [takeOctet, hidle, hstart]
      rw [List.foldl_cons, hskip]
      exact ih h

end Sdci.Device
