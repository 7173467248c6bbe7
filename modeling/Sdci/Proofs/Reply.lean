import Sdci.Geometry
import Sdci.Response

/-!
# The octets of a reply

Decoding loses nothing: a reply has the octets it was decoded from (`Reply.octets_of_decode?`). As
many octets as a geometry says are decoded to fields of the lengths that it says, whatever they are
(`Geometry.exists_hasLayout`).
-/

namespace Sdci

namespace Reply

variable {odWidth : Nat} {octets : List UInt8}

theorem eq_of_trailer? {od : OnRequestData} {checksum : UInt8}
    (h : trailer? odWidth octets = some (od, checksum)) : octets = od.toList ++ [checksum] := by
  unfold trailer? at h
  split at h
  · split at h <;> cases h
    rfl
  · split at h <;> cases h
    rfl
  · cases h

theorem octets_of_cyclic? {overhead : Nat} {status : UInt8} {rest : List UInt8} {reply : Reply}
    (h : cyclic? odWidth overhead status rest = some reply) : reply.octets = status :: rest := by
  simp only [cyclic?] at h
  split at h
  · cases h
  · next od checksum htrailer =>
    split at h
    · cases h
      have hparts := rest.take_append_drop (rest.length + 1 - overhead)
      rw [eq_of_trailer? htrailer] at hparts
      simp only [Reply.octets, body, Reply.checksum, List.cons_append, List.append_assoc, hparts]
    · cases h

/-- A reply has the octets that it was decoded from. -/
theorem octets_of_decode? {reply : Reply} (h : decode? odWidth octets = some reply) :
    reply.octets = octets := by
  unfold decode? at h
  split at h
  · cases h
  · cases h
    rfl
  · next status rest _ => exact octets_of_cyclic? h

theorem trailer?_toList_append (od : OnRequestData) (checksum : UInt8) :
    trailer? od.width (od.toList ++ [checksum]) = some (od, checksum) := by
  cases od <;> simp [trailer?, OnRequestData.toList, OnRequestData.width]

/-- Anything but two octets has a status octet in front. -/
theorem decode?_cons {rest : List UInt8} (h : rest.length ≠ 1) (status : UInt8) :
    decode? odWidth (status :: rest) = cyclic? odWidth (overhead odWidth) status rest := by
  rcases rest with _ | ⟨second, _ | ⟨third, rest⟩⟩
  · rfl
  · exact absurd rfl h
  · rfl

/-- The form of a cyclic exchange is decoded to its fields if they are not too long. -/
theorem decode?_cyclic (status : UInt8) {processData : List UInt8} (od : OnRequestData)
    (checksum : UInt8) (h : processData.length ≤ SequenceType.maxLength) :
    decode? od.width (cyclic status processData od checksum).octets =
      some (.cyclic status processData od checksum) := by
  have hwidth : 1 ≤ od.width ∧ od.width ≤ 2 := by cases od <;> simp [OnRequestData.width]
  have hlength : (processData ++ (od.toList ++ [checksum])).length =
      processData.length + od.width + 1 := by
    simp [Nat.add_assoc]
  have hdata : processData.length + od.width + 1 + 1 - overhead od.width = processData.length := by
    rw [overhead]
    omega
  have hfits : processData.length + od.width + 1 + 1 ≤ maxLength ∧
      processData.length ≤ SequenceType.maxLength := by
    rw [maxLength]
    omega
  rw [Reply.octets, body, Reply.checksum, List.cons_append, List.cons_append, List.append_assoc,
    decode?_cons (by omega), cyclic?, hlength, hdata, List.drop_left, trailer?_toList_append,
    List.take_left]
  exact if_pos hfits

/-- Enough octets for on-request data and a checksum are these. -/
theorem exists_toList_append {width : Nat} (hwidth : width = 1 ∨ width = 2) {octets : List UInt8}
    (h : octets.length = width + 1) :
    ∃ od checksum, OnRequestData.width od = width ∧ octets = od.toList ++ [checksum] := by
  obtain rfl | rfl := hwidth
  · match octets, h with
    | [first, checksum], _ => exact ⟨.one first, checksum, rfl, rfl⟩
  · match octets, h with
    | [first, second, checksum], _ => exact ⟨.two first second, checksum, rfl, rfl⟩

/-- Octets that leave room for process data of a given length are those of a reply with it. -/
theorem exists_cyclic_octets {width length : Nat} (hwidth : width = 1 ∨ width = 2)
    {octets : List UInt8} (h : octets.length = 1 + length + width + 1) :
    ∃ status processData od checksum, processData.length = length ∧ od.width = width ∧
      octets = (cyclic status processData od checksum).octets := by
  rcases octets with _ | ⟨status, rest⟩
  · simp at h
  rw [List.length_cons] at h
  have hdata : (rest.take length).length = length := by
    rw [List.length_take]
    omega
  obtain ⟨od, checksum, hod, hparts⟩ : ∃ od checksum, OnRequestData.width od = width ∧
      rest.drop length = od.toList ++ [checksum] := by
    apply exists_toList_append hwidth
    rw [List.length_drop]
    omega
  refine ⟨status, rest.take length, od, checksum, hdata, hod, ?_⟩
  rw [octets, body, Reply.checksum, List.cons_append, List.cons_append, List.append_assoc, ← hparts,
    List.take_append_drop]

end Reply

namespace Response

variable {odWidth : Nat} {octets : List UInt8}

/-- The sum is looked at for more than two octets only. -/
theorem decode?_eq (odWidth : Nat) (octets : List UInt8) :
    decode? odWidth octets =
      if 2 < octets.length ∧ Reply.lengthModulus ≤ 2 + odWidth then none
      else some (decode odWidth octets) := by
  obtain _ | ⟨status, _ | ⟨second, _ | ⟨third, rest⟩⟩⟩ := octets
  iterate 3 rfl
  have hlong : 2 < (status :: second :: third :: rest).length := by simp
  rw [decode?]
  by_cases h : Reply.lengthModulus ≤ 2 + odWidth
  · rw [if_pos ⟨hlong, h⟩, Bounded.add_of_le h]
    rfl
  · rw [if_neg fun hboth => h hboth.2, Bounded.add_of_lt (Nat.lt_of_not_le h)]
    rfl

theorem decode?_of_lt (h : 2 + odWidth < Reply.lengthModulus) (octets : List UInt8) :
    decode? odWidth octets = some (decode odWidth octets) := by
  rw [decode?_eq, if_neg fun hboth => Nat.not_le.mpr h hboth.2]

theorem decode_eq_received {reply : Reply} (h : Reply.decode? odWidth octets = some reply) :
    decode odWidth octets = .received reply := by
  rw [decode, h, ofReply?]

/-- A valid response has the octets of the reply that it was decoded from. -/
theorem octets_of_isValid (h : (decode odWidth octets).isValid) :
    (decode odWidth octets).octets = octets := by
  rw [decode] at h ⊢
  cases hreply : Reply.decode? odWidth octets with
  | none =>
    rw [hreply] at h
    cases h
  | some reply => exact Reply.octets_of_decode? hreply

/-- A reply that ends in the checksum of the octets before it is intact. -/
theorem verdict_of_octets {reply : Reply} {body : List UInt8}
    (h : reply.octets = Checksum.attach body) : (received reply).verdict = .intact := by
  obtain ⟨hbody, hchecksum⟩ := List.append_inj' h rfl
  rw [verdict, hbody, List.cons.inj hchecksum |>.1]
  exact if_pos rfl

end Response

namespace Geometry

/-- The response has the fields that the geometry says, and they are the given octets in order. -/
structure HasLayout (geometry : Geometry) (response : Response) (octets : List UInt8) : Prop where
  length_octets : octets.length = geometry.responseLength
  octets_eq : response.octets = octets
  width : response.onRequestData.width = geometry.odWidth
  cyclic : geometry.isCyclic → response.payload.length = geometry.inputLength ∧
    octets = response.status :: response.payload ++ response.onRequestData.toList ++
      [response.checksum]
  short : ¬geometry.isCyclic → response.status = 0 ∧
    response.payload = response.onRequestData.toList ∧
      octets = response.onRequestData.toList ++ [response.checksum]

theorem odWidth_of_not_isCyclic {geometry : Geometry} (h : ¬geometry.isCyclic) :
    geometry.odWidth = 1 := by
  rw [isCyclic] at h
  rw [odWidth]
  cases htype : geometry.sequenceType with
  | type0 => rfl
  | _ =>
    rw [htype] at h
    exact absurd rfl h

/-- As many octets as the geometry says are a reply with its layout, whatever they are. -/
theorem exists_hasLayout (geometry : Geometry) {octets : List UInt8}
    (h : octets.length = geometry.responseLength) :
    ∃ reply, Reply.decode? geometry.odWidth octets = some reply ∧
      geometry.HasLayout (.received reply) octets := by
  have hlength := h
  by_cases hcyclic : geometry.isCyclic
  · rw [responseLength, if_pos hcyclic] at h
    obtain ⟨status, processData, od, checksum, hdata, hwidth, rfl⟩ :=
      Reply.exists_cyclic_octets geometry.sequenceType.odWidth_eq_one_or_two h
    have hfits : processData.length ≤ SequenceType.maxLength := hdata ▸ geometry.inputLength_le
    refine ⟨_, ?_, hlength, rfl, hwidth, fun _ => ⟨hdata, rfl⟩, fun hnot => absurd hcyclic hnot⟩
    rw [← Reply.decode?_cyclic status od checksum hfits, hwidth]
    rfl
  · rw [responseLength, if_neg hcyclic] at h
    match octets, h with
    | [od, checksum], _ =>
      have hwidth : geometry.odWidth = 1 := odWidth_of_not_isCyclic hcyclic
      exact ⟨.short od checksum, rfl, hlength, rfl, hwidth.symm, fun hyes => absurd hyes hcyclic,
        fun _ => ⟨rfl, rfl, rfl⟩⟩

end Geometry

end Sdci
