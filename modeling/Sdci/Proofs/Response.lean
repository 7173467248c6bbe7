import Mathlib.Data.List.Basic
import Sdci.Proofs.Reply

/-!
# Which octets make a response

Whether octets make a response depends on their number and on the width of the on-request data alone
(`Reply.isSome_decode?_iff`). For the two widths that a session can have, nothing is lost and
nothing is made up (`Response.decode_exact`). Decoding takes any other width as well; from three up
it makes a response of exactly three octets, too few for that width
(`Response.decode_of_long`).
-/

namespace Sdci

namespace Reply

variable {odWidth : Nat} {octets : List UInt8}

/-- The number of on-request data octets that are looked for. Every width but two counts as one. -/
def countedWidth (odWidth : Nat) : Nat :=
  if odWidth = 2 then 2 else 1

theorem isSome_trailer?_iff :
    (trailer? odWidth octets).isSome ↔ octets.length = countedWidth odWidth + 1 := by
  rw [countedWidth]
  match octets with
  | [] | [_] | _ :: _ :: _ :: _ :: _ => split <;> simp [trailer?]
  | [_, _] | [_, _, _] => split <;> simp_all [trailer?]

theorem width_of_trailer? {od : OnRequestData} {checksum : UInt8}
    (h : trailer? odWidth octets = some (od, checksum)) : od.width = countedWidth odWidth := by
  have hlength : octets.length = countedWidth odWidth + 1 :=
    isSome_trailer?_iff.mp (Option.isSome_of_eq_some h)
  rw [eq_of_trailer? h] at hlength
  simpa using hlength

/-- Behind the status octet there have to be exactly the fields that are looked for, and neither the
reply nor its process data may be too long. -/
theorem isSome_decode?_cons {rest : List UInt8} (h : rest.length ≠ 1) (status : UInt8) :
    (decode? odWidth (status :: rest)).isSome ↔
      (rest.drop (rest.length + 1 - overhead odWidth)).length = countedWidth odWidth + 1 ∧
        rest.length + 1 ≤ maxLength ∧
          rest.length + 1 - overhead odWidth ≤ SequenceType.maxLength := by
  rw [decode?_cons h, cyclic?, ← isSome_trailer?_iff]
  rcases trailer? odWidth (rest.drop (rest.length + 1 - overhead odWidth)) with _ | ⟨od, checksum⟩
  · simp
  · simp

/-- Whether octets are a reply depends on their number and on the width alone. -/
theorem isSome_decode?_iff :
    (decode? odWidth octets).isSome ↔
      octets.length = 2 ∨
        (odWidth = 1 ∨ odWidth = 2) ∧ odWidth + 2 ≤ octets.length ∧ octets.length ≤ odWidth + 34 ∨
        3 ≤ odWidth ∧ octets.length = 3 := by
  rcases octets with _ | ⟨status, rest⟩
  · simp [decode?]
  by_cases hone : rest.length = 1
  · obtain ⟨checksum, rfl⟩ := List.length_eq_one_iff.mp hone
    simp [decode?]
  · rw [isSome_decode?_cons hone, overhead, List.length_drop, List.length_cons, maxLength,
      SequenceType.maxLength, countedWidth]
    split <;> omega

/-- Three octets are a reply without process data for every width that leaves no room for any. -/
theorem decode?_of_three (hwidth : 3 ≤ odWidth) (status od checksum : UInt8) :
    decode? odWidth [status, od, checksum] = some (cyclic status [] (.one od) checksum) := by
  have hnone : [od, checksum].length + 1 - overhead odWidth = 0 := by
    simp only [List.length_cons, List.length_nil, overhead]
    omega
  have htwo : odWidth ≠ 2 := by omega
  rw [decode?_cons (by simp), cyclic?, hnone]
  simp [trailer?, htwo, maxLength, SequenceType.maxLength]

/-- More than two octets have the form of a cyclic exchange. -/
theorem eq_cyclic_of_decode? {reply : Reply} (h : decode? odWidth octets = some reply)
    (hlong : 2 < octets.length) :
    ∃ status processData od checksum, reply = cyclic status processData od checksum ∧
      od.width = countedWidth odWidth := by
  rcases octets with _ | ⟨status, rest⟩
  · cases h
  rw [List.length_cons] at hlong
  rw [decode?_cons (by omega)] at h
  simp only [cyclic?] at h
  split at h
  · cases h
  · next od checksum htrailer =>
    split at h
    · cases h
      exact ⟨_, _, od, checksum, rfl, width_of_trailer? htrailer⟩
    · cases h

end Reply

namespace Response

variable {odWidth : Nat} {octets : List UInt8}

/-- The fields of the response are the octets in their order: on-request data and checksum if there
are two, and otherwise all fields, with on-request data of the given width. -/
structure Reads (odWidth : Nat) (octets : List UInt8) (response : Response) : Prop where
  octets_eq : response.octets = octets
  short : octets.length = 2 → response.status = 0 ∧ ∃ od, response.payload = [od] ∧
    response.onRequestData = .one od ∧ octets = [od, response.checksum]
  long : 2 < octets.length → response.onRequestData.width = odWidth ∧
    octets = response.status :: response.payload ++ response.onRequestData.toList ++
      [response.checksum]

theorem isValid_decode_iff_isSome :
    (decode odWidth octets).isValid ↔ (Reply.decode? odWidth octets).isSome := by
  rw [decode]
  cases Reply.decode? odWidth octets with
  | none => simp [isValid]
  | some reply => simp [isValid]

/-- The numbers of octets that make a valid response. -/
theorem isValid_decode_iff :
    (decode odWidth octets).isValid ↔
      octets.length = 2 ∨
        (odWidth = 1 ∨ odWidth = 2) ∧ odWidth + 2 ≤ octets.length ∧ octets.length ≤ odWidth + 34 ∨
        3 ≤ odWidth ∧ octets.length = 3 := by
  rw [isValid_decode_iff_isSome, Reply.isSome_decode?_iff]

/-- A response that is not valid tells nothing but the width. -/
theorem decode_of_not_isValid (h : ¬(decode odWidth octets).isValid) :
    decode odWidth octets = .missing odWidth := by
  rw [isValid_decode_iff_isSome, Option.not_isSome_iff_eq_none] at h
  rw [decode, h, ofReply?]

/-- A valid response reads the octets, with on-request data of the width that is looked for. -/
theorem reads_of_isValid (h : (decode odWidth octets).isValid) :
    (decode odWidth octets).Reads (Reply.countedWidth odWidth) octets := by
  have hoctets : (decode odWidth octets).octets = octets := octets_of_isValid h
  obtain ⟨reply, hreply⟩ := Option.isSome_iff_exists.mp (isValid_decode_iff_isSome.mp h)
  refine ⟨hoctets, fun hlength => ?_, fun hlong => ?_⟩
  · obtain ⟨od, checksum, rfl⟩ := List.length_eq_two.mp hlength
    exact ⟨rfl, od, rfl, rfl, rfl⟩
  · obtain ⟨status, processData, od, checksum, rfl, hwidth⟩ :=
      Reply.eq_cyclic_of_decode? hreply hlong
    rw [decode_eq_received hreply] at hoctets ⊢
    exact ⟨hwidth, hoctets.symm⟩

theorem verdict_eq_notReceived_iff (response : Response) :
    response.verdict = .notReceived ↔ ¬response.isValid := by
  cases response with
  | missing odWidth => simp [verdict, isValid]
  | received reply =>
    by_cases hsum : Checksum.of reply.body = reply.checksum
    · simp [verdict, isValid, hsum]
    · simp [verdict, isValid, hsum]

/-- The verdict on a reply compares its last octet with the checksum of those before it. -/
theorem verdict_of_isValid {response : Response} (h : response.isValid) {body : List UInt8}
    {checksum : UInt8} (hoctets : response.octets = body ++ [checksum]) :
    response.verdict =
      if Checksum.of body = checksum then .intact else .mismatch (Checksum.of body) checksum := by
  cases response with
  | missing odWidth => cases h
  | received reply =>
    obtain ⟨rfl, hlast⟩ := List.append_inj' hoctets rfl
    obtain rfl : reply.checksum = checksum := (List.cons.inj hlast).1
    rfl

/-- Decoding with on-request data of one or two octets is exact, and always comes to a response. Two
octets make a valid one, and so do as many as leave room for up to thirty-two octets of process
data; the fields are the octets in their order, and other octets make another response. Everything
else makes the response that tells nothing. The verdict compares the last octet with the checksum of
those before it. -/
theorem decode_exact {odWidth : Nat} (h : odWidth = 1 ∨ odWidth = 2) (octets : List UInt8) :
    let response := decode odWidth octets
    decode? odWidth octets = some response ∧
      (response.isValid ↔
        octets.length = 2 ∨ odWidth + 2 ≤ octets.length ∧ octets.length ≤ odWidth + 34) ∧
      (response.isValid → response.Reads odWidth octets) ∧
      (¬response.isValid → response = .missing odWidth) ∧
      (response.isValid → ∀ other, decode odWidth other = response → other = octets) ∧
      (response.verdict = .notReceived ↔ ¬response.isValid) ∧
      (response.isValid → ∀ body checksum, octets = body ++ [checksum] → response.verdict =
        if Checksum.of body = checksum then .intact else .mismatch (Checksum.of body) checksum) := by
  intro response
  have hcounted : Reply.countedWidth odWidth = odWidth := by
    obtain rfl | rfl := h <;> rfl
  have hmodulus : 2 + odWidth < Reply.lengthModulus := by
    rw [Reply.lengthModulus]
    omega
  refine ⟨decode?_of_lt hmodulus octets, ?_, fun hvalid => ?_, decode_of_not_isValid,
    fun hvalid other heq => ?_, verdict_eq_notReceived_iff response,
    fun hvalid body checksum hoctets => ?_⟩
  · rw [isValid_decode_iff]
    omega
  · rw [← hcounted]
    exact reads_of_isValid hvalid
  · have hother : (decode odWidth other).isValid := heq ▸ hvalid
    rw [← octets_of_isValid hother, heq, octets_of_isValid hvalid]
  · exact verdict_of_isValid hvalid ((octets_of_isValid hvalid).trans hoctets)

/-- The longest reply of all, with two octets of on-request data and a wrong checksum. -/
theorem decode_exact_of_longest :
    let body := List.replicate 35 0x11
    let response := decode 2 (body ++ [0xFF])
    response.isValid ∧ response.Reads 2 (body ++ [0xFF]) ∧
      response.verdict = .mismatch (Checksum.of body) 0xFF := by
  intro body response
  obtain ⟨-, hvalid, hreads, -, -, -, hverdict⟩ :=
    decode_exact (.inr rfl : 2 = 1 ∨ 2 = 2) (body ++ [0xFF])
  have hresponse : response.isValid := hvalid.mpr (.inr (by simp [body]))
  have hsum : Checksum.of body ≠ 0xFF := by
    intro heq
    have hle : Checksum.of body ≤ 0x3F := Checksum.value_le _
    rw [heq] at hle
    exact absurd hle (by decide)
  refine ⟨hresponse, hreads hresponse, ?_⟩
  rw [hverdict hresponse body 0xFF rfl, if_neg hsum]

/-- Decoding takes widths that no session has, and comes to a response if two octets more are a
length. More than two octets are never taken for a width of zero, and from a width of three up
exactly three octets are, though they are too few for it; their on-request data is one octet wide.
Only for the widths one and two there is always room for the on-request data that was asked for. -/
theorem decode_of_long {odWidth : Nat} (h : 2 + odWidth < Reply.lengthModulus)
    {octets : List UInt8} (hlong : 2 < octets.length) :
    let response := decode odWidth octets
    decode? odWidth octets = some response ∧
      (response.isValid ↔
        (odWidth = 1 ∨ odWidth = 2) ∧ odWidth + 2 ≤ octets.length ∧ octets.length ≤ odWidth + 34 ∨
          3 ≤ odWidth ∧ octets.length = 3) ∧
      (response.isValid → odWidth < 3 →
        odWidth + 2 ≤ octets.length ∧ response.onRequestData.width = odWidth) ∧
      (response.isValid → 3 ≤ odWidth → ∃ status od checksum, octets = [status, od, checksum] ∧
        response = .received (.cyclic status [] (.one od) checksum)) := by
  intro response
  have hiff : response.isValid ↔
      (odWidth = 1 ∨ odWidth = 2) ∧ odWidth + 2 ≤ octets.length ∧ octets.length ≤ odWidth + 34 ∨
        3 ≤ odWidth ∧ octets.length = 3 := by
    rw [isValid_decode_iff]
    omega
  refine ⟨decode?_of_lt h octets, hiff, fun hvalid hnarrow => ?_, fun hvalid hwide => ?_⟩
  · obtain ⟨hwidth, hroom, -⟩ | ⟨hwide, -⟩ := hiff.mp hvalid
    · refine ⟨hroom, ?_⟩
      rw [((reads_of_isValid hvalid).long hlong).1]
      obtain rfl | rfl := hwidth <;> rfl
    · omega
  · obtain ⟨hwidth, -⟩ | ⟨-, hthree⟩ := hiff.mp hvalid
    · omega
    · obtain ⟨status, od, checksum, rfl⟩ := List.length_eq_three.mp hthree
      exact ⟨status, od, checksum, rfl,
        decode_eq_received (Reply.decode?_of_three hwide status od checksum)⟩

/-- Three octets are taken for a reply with three octets of on-request data. -/
theorem accepts_too_short :
    ¬∀ (odWidth : Nat) (octets : List UInt8), 2 + odWidth < Reply.lengthModulus →
      2 < octets.length → (decode odWidth octets).isValid →
        odWidth + 2 ≤ octets.length ∧ (decode odWidth octets).onRequestData.width = odWidth := by
  intro h
  have hroom : 5 ≤ 3 := (h 3 [0x46, 0x31, 0x38] (by decide) (by decide) (by decide)).1
  exact absurd hroom (by decide)

/-- A reply of three octets is too short for a width of four, and is taken all the same. -/
theorem decode_of_long_of_three :
    let response := decode 4 [0x46, 0x31, 0x38]
    response.isValid ∧ ∃ status od checksum, [0x46, 0x31, 0x38] = [status, od, checksum] ∧
      response = .received (.cyclic status [] (.one od) checksum) := by
  intro response
  obtain ⟨-, hiff, -, hthree⟩ :=
    decode_of_long (by decide : 2 + 4 < Reply.lengthModulus)
      (by decide : 2 < [(0x46 : UInt8), 0x31, 0x38].length)
  have hvalid : response.isValid := hiff.mpr (.inr ⟨by decide, rfl⟩)
  exact ⟨hvalid, hthree hvalid (by decide)⟩

end Response

end Sdci
