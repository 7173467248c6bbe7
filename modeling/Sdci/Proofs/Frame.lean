import Sdci.Frame
import Sdci.Proofs.Reply

/-!
# Frames read back

A cyclic frame is built exactly of fields that fit the geometry. Behind its command it has the form
of a reply, so decoding finds the fields again (`Frame.decode?_tail`), and under one geometry no two
choices of fields make the same frame (`Frame.cyclic_reads_back`).
-/

namespace Sdci.Frame

variable {geometry : Geometry} {command typeOctet : UInt8} {processData : List UInt8}
  {od : OnRequestData} {frame : List UInt8}

/-- A cyclic frame is its fields in order, with their checksum behind them. -/
theorem cyclic_eq_ok_iff :
    cyclic geometry command typeOctet processData od = .ok frame ↔
      (geometry.isCyclic ∧ processData.length = geometry.outputLength ∧
        od.width = geometry.odWidth) ∧
        frame = Checksum.attach (command :: typeOctet :: processData ++ od.toList) := by
  rw [cyclic, cyclicChecksum_eq]
  constructor
  · intro h
    split at h
    · cases h
    split at h
    · cases h
    split at h
    · cases h
    next hcyclic hlength hwidth =>
    cases h
    exact ⟨⟨by simpa using hcyclic, Decidable.not_not.mp hlength, Decidable.not_not.mp hwidth⟩, rfl⟩
  · rintro ⟨⟨hcyclic, hlength, hwidth⟩, rfl⟩
    simp [hcyclic, hlength, hwidth, Checksum.attach]

/-- Behind its command, a cyclic frame is a reply that has the type octet for a status. -/
theorem decode?_tail (h : cyclic geometry command typeOctet processData od = .ok frame) :
    Reply.decode? geometry.odWidth frame.tail =
      some (.cyclic typeOctet processData od
        (Checksum.of (command :: typeOctet :: processData ++ od.toList))) := by
  obtain ⟨⟨-, hlength, hwidth⟩, rfl⟩ := cyclic_eq_ok_iff.mp h
  have hfits : processData.length ≤ SequenceType.maxLength := hlength ▸ geometry.outputLength_le
  rw [← hwidth]
  exact Reply.decode?_cyclic typeOctet od _ hfits

/-- Fields that make the same frame under one geometry are the same. -/
theorem eq_of_cyclic {command' typeOctet' : UInt8} {processData' : List UInt8}
    {od' : OnRequestData} (h : cyclic geometry command typeOctet processData od = .ok frame)
    (h' : cyclic geometry command' typeOctet' processData' od' = .ok frame) :
    command' = command ∧ typeOctet' = typeOctet ∧ processData' = processData ∧ od' = od := by
  have htail := Option.some.inj ((decode?_tail h').symm.trans (decode?_tail h))
  obtain ⟨htype, hdata, hod, -⟩ := Reply.cyclic.inj htail
  have hhead : frame.head? = some command := by
    rw [(cyclic_eq_ok_iff.mp h).2]
    rfl
  have hhead' : frame.head? = some command' := by
    rw [(cyclic_eq_ok_iff.mp h').2]
    rfl
  exact ⟨Option.some.inj (hhead'.symm.trans hhead), htype, hdata, hod⟩

/-- A cyclic frame is built exactly of fields that fit the geometry, and otherwise the first field
that does not fit is reported. It has the length that the geometry says and ends in the checksum of
all octets before. Without its command it is a valid response with the same fields, whatever they
hold; so under one geometry different fields make different frames. -/
theorem cyclic_reads_back (geometry : Geometry) (command typeOctet : UInt8)
    (processData : List UInt8) (od : OnRequestData) :
    let built := cyclic geometry command typeOctet processData od
    ((∃ frame, built = .ok frame) ↔ geometry.isCyclic ∧
        processData.length = geometry.outputLength ∧ od.width = geometry.odWidth) ∧
      (¬geometry.isCyclic → built = .error .notCyclic) ∧
      (geometry.isCyclic → processData.length ≠ geometry.outputLength →
        built = .error (.processDataLength processData.length geometry.outputLength)) ∧
      (geometry.isCyclic → processData.length = geometry.outputLength →
        od.width ≠ geometry.odWidth →
          built = .error (.onRequestDataLength od.width geometry.odWidth)) ∧
      ∀ frame, built = .ok frame →
        frame.length = geometry.requestLength ∧
        (∃ body, frame = Checksum.attach body ∧
          let response := Response.decode geometry.odWidth frame.tail
          response.isValid ∧ response.status = typeOctet ∧ response.payload = processData ∧
            response.onRequestData = od ∧ response.checksum = Checksum.of body) ∧
        ∀ command' typeOctet' processData' od',
          cyclic geometry command' typeOctet' processData' od' = .ok frame →
            command' = command ∧ typeOctet' = typeOctet ∧ processData' = processData ∧
              od' = od := by
  intro built
  refine ⟨?_, fun hcyclic => ?_, fun hcyclic hlength => ?_, fun hcyclic hlength hwidth => ?_,
    fun frame hframe => ⟨length_cyclic hframe, ?_, fun _ _ _ _ => eq_of_cyclic hframe⟩⟩
  · constructor
    · rintro ⟨frame, hframe⟩
      exact (cyclic_eq_ok_iff.mp hframe).1
    · intro hfits
      exact ⟨_, cyclic_eq_ok_iff.mpr ⟨hfits, rfl⟩⟩
  · simp [built, cyclic, hcyclic]
  · simp [built, cyclic, hcyclic, hlength]
  · simp [built, cyclic, hcyclic, hlength, hwidth]
  · refine ⟨_, (cyclic_eq_ok_iff.mp hframe).2, ?_⟩
    rw [Response.decode_eq_received (decode?_tail hframe)]
    exact ⟨rfl, rfl, rfl, rfl, rfl⟩

/-- The longest frame of all, with octets of process data that look like a checksum. -/
theorem cyclic_reads_back_of_longest :
    let geometry : Geometry := ⟨.type2V, 2, 32, by decide, by decide⟩
    let data := List.replicate 32 0x15
    ∃ frame, cyclic geometry 0x00 0xA2 data (.two 0x15 0x2A) = .ok frame ∧ frame.length = 37 ∧
      (Response.decode 2 frame.tail).payload = data := by
  intro geometry data
  obtain ⟨hfits, -, -, -, hbuilt⟩ := cyclic_reads_back geometry 0x00 0xA2 data (.two 0x15 0x2A)
  obtain ⟨frame, hframe⟩ := hfits.mpr ⟨rfl, List.length_replicate .., rfl⟩
  obtain ⟨hlength, ⟨body, -, -, -, hpayload, -⟩, -⟩ := hbuilt frame hframe
  exact ⟨frame, hframe, hlength, hpayload⟩

end Sdci.Frame
