import Mathlib.RingTheory.Coprime.Lemmas
import Sdci.Proofs.Checksum.Polynomial

/-!
# Bursts of errors

The generator has a constant term, so moving an error up or down changes nothing about whether the
checksum sees it (`Checksum.isCoprime_generatorPolynomial`), and an error that fits into six bits is
no multiple of the generator (`Checksum.not_dvd_of_confined`). A burst at the end of a message may
reach over the two zero bits on top of the checksum; without these it is a shorter burst
(`Confined.exists_append`). So no burst of up to six bits goes unseen, and of the errors in a single
octet just those that are multiples of the generator do (`Checksum.detects_bursts`).
-/

namespace Sdci

open Polynomial

/-- The ones among the bits lie within `width` places, the first of them at `start`. -/
def Confined (start width : Nat) (bits : List Bool) : Prop :=
  ∀ place : Nat, bits[place]? = some true → start ≤ place ∧ place < start + width

instance (start width : Nat) (bits : List Bool) : Decidable (Confined start width bits) :=
  decidable_of_iff (∀ place < bits.length, bits[place]? = some true →
      start ≤ place ∧ place < start + width)
    ⟨fun h place hplace => h place (List.getElem?_eq_some_iff.mp hplace).1 hplace,
      fun h place _ => h place⟩

namespace Confined

variable {start width : Nat} {before after bits : List Bool}

/-- Behind two zero bits, a burst is no longer for leaving them out. -/
theorem exists_append (h : Confined start width (before ++ false :: false :: after)) :
    ∃ start, Confined start width (before ++ after) := by
  have hbefore (place : Nat) (hplace : place < before.length)
      (hbit : (before ++ after)[place]? = some true) : start ≤ place ∧ place < start + width := by
    rw [List.getElem?_append_left hplace] at hbit
    apply h
    rwa [List.getElem?_append_left hplace]
  have hafter (place : Nat) (hplace : before.length ≤ place)
      (hbit : (before ++ after)[place]? = some true) :
      start ≤ place + 2 ∧ place + 2 < start + width := by
    rw [List.getElem?_append_right hplace] at hbit
    apply h
    rwa [List.getElem?_append_right (by omega),
      show place + 2 - before.length = place - before.length + 2 by omega]
  by_cases hstart : start < before.length
  · refine ⟨start, fun place hbit => ?_⟩
    rcases Nat.lt_or_ge place before.length with hplace | hplace
    · exact hbefore place hplace hbit
    · have := hafter place hplace hbit
      omega
  · refine ⟨max before.length (start - 2), fun place hbit => ?_⟩
    rcases Nat.lt_or_ge place before.length with hplace | hplace
    · have := hbefore place hplace hbit
      omega
    · have := hafter place hplace hbit
      omega

/-- A burst is a polynomial of less than its width, moved up. -/
theorem exists_bitPolynomial (h : Confined start width bits) (hbits : true ∈ bits) :
    ∃ burst : List Bool, burst.length ≤ width ∧ true ∈ burst ∧
      ∃ places, bitPolynomial bits = bitPolynomial burst * X ^ places := by
  have hbefore : ∀ bit ∈ bits.take start, bit = false := by
    intro bit hbit
    obtain ⟨place, hplace⟩ := List.mem_iff_getElem?.mp hbit
    rw [List.getElem?_take] at hplace
    split at hplace
    · cases bit
      · rfl
      · have := h place hplace
        omega
    · cases hplace
  have hbehind : ∀ bit ∈ bits.drop (start + width), bit = false := by
    intro bit hbit
    obtain ⟨place, hplace⟩ := List.mem_iff_getElem?.mp hbit
    rw [List.getElem?_drop] at hplace
    cases bit
    · rfl
    · have := h _ hplace
      omega
  have hsplit : bits =
      bits.take start ++ ((bits.drop start).take width ++ bits.drop (start + width)) := by
    rw [← List.drop_drop, List.take_append_drop, List.take_append_drop]
  refine ⟨(bits.drop start).take width, List.length_take_le _ _, ?_,
    (bits.drop (start + width)).length, ?_⟩
  · rw [hsplit, List.mem_append, List.mem_append] at hbits
    rcases hbits with hbit | hbit | hbit
    · cases hbefore _ hbit
    · exact hbit
    · cases hbehind _ hbit
  · conv_lhs => rw [hsplit]
    rw [bitPolynomial_append, bitPolynomial_append, bitPolynomial_eq_zero hbefore,
      bitPolynomial_eq_zero hbehind]
    ring

end Confined

/-- Bits with a one among them stand for a polynomial other than zero. -/
theorem bitPolynomial_ne_zero {bits : List Bool} (h : true ∈ bits) : bitPolynomial bits ≠ 0 := by
  intro hzero
  have hreplicate : bitPolynomial (List.replicate bits.length false) = 0 :=
    bitPolynomial_eq_zero fun bit hbit => List.eq_of_mem_replicate hbit
  rw [eq_of_bitPolynomial_eq List.length_replicate.symm (hzero.trans hreplicate.symm)] at h
  cases List.eq_of_mem_replicate h

/-- Octets that are not all zero have a one among their bits. -/
theorem true_mem_messageBits {octets : List UInt8} (h : ∃ octet ∈ octets, octet ≠ 0) :
    true ∈ messageBits octets := by
  obtain ⟨octet, hoctet, hne⟩ := h
  have hbits : ∀ bits : BitVec 8, UInt8.ofBitVec bits ≠ 0 → true ∈ octetBits ⟨bits⟩ := by
    decide +kernel
  exact List.mem_flatMap.mpr ⟨octet, hoctet, hbits octet.toBitVec hne⟩

@[simp]
theorem polynomial_replicate (count : Nat) : polynomial (List.replicate count 0) = 0 := by
  refine bitPolynomial_eq_zero fun bit hbit => ?_
  obtain ⟨octet, hoctet, hbit⟩ := List.mem_flatMap.mp hbit
  rw [List.eq_of_mem_replicate hoctet] at hbit
  have hzero : ∀ bit ∈ octetBits 0, bit = false := by decide
  exact hzero bit hbit

namespace Checksum

/-! ### Multiples of the generator -/

theorem isCoprime_generatorPolynomial (places : Nat) :
    IsCoprime generatorPolynomial (X ^ places) := by
  refine IsCoprime.pow_right ⟨1, -(X ^ 5 + X ^ 3 + X ^ 2 + X), ?_⟩
  rw [generatorPolynomial]
  ring

/-- Moving a polynomial up keeps it from becoming a multiple of the generator. -/
theorem dvd_mul_X_pow_iff {p : (ZMod 2)[X]} (places : Nat) :
    generatorPolynomial ∣ p * X ^ places ↔ generatorPolynomial ∣ p :=
  ⟨(isCoprime_generatorPolynomial places).dvd_of_dvd_mul_right, fun h => h.mul_right _⟩

theorem eq_zero_of_dvd {p : (ZMod 2)[X]} (hdegree : p.degree < 6)
    (h : generatorPolynomial ∣ p) : p = 0 := by
  rw [← degree_generatorPolynomial] at hdegree
  exact eq_zero_of_dvd_of_degree_lt h hdegree

/-- A burst of up to six bits is no multiple of the generator. -/
theorem not_dvd_of_confined {start : Nat} {bits : List Bool} (h : Confined start 6 bits)
    (hbits : true ∈ bits) : ¬ generatorPolynomial ∣ bitPolynomial bits := by
  obtain ⟨burst, hlength, hburst, places, heq⟩ := h.exists_bitPolynomial hbits
  rw [heq, dvd_mul_X_pow_iff]
  intro hdvd
  have hdegree : (bitPolynomial burst).degree < 6 :=
    (degree_bitPolynomial_lt burst).trans_le (by exact_mod_cast hlength)
  exact bitPolynomial_ne_zero hburst (eq_zero_of_dvd hdegree hdvd)

/-- A single octet is a multiple of the generator if it adds nothing to a register of zero. -/
theorem dvd_polynomial_singleton_iff (octet : UInt8) :
    generatorPolynomial ∣ polynomial [octet] ↔ octet ∈ [(0x00 : UInt8), 0x5D, 0xBA, 0xE7] := by
  obtain ⟨quotient, hquotient⟩ := exists_value ⟨0⟩ octet []
  have hzero : polynomial [0] = 0 := polynomial_replicate 1
  have hvalue : ∀ bits : BitVec 8, ((⟨0⟩ : Checksum).absorbAll [⟨bits⟩]).value = 0 ↔
      (⟨bits⟩ : UInt8) ∈ [(0x00 : UInt8), 0x5D, 0xBA, 0xE7] := by
    decide +kernel
  rw [← hvalue octet.toBitVec, ← dvd_mul_X_pow_iff 6]
  rw [hzero, zero_mul, zero_add] at hquotient
  rw [← hquotient, dvd_add_left (dvd_mul_right _ _)]
  constructor
  · intro hdvd
    have heq := eq_zero_of_dvd (degree_polynomial_value_lt _) hdvd
    exact eq_of_polynomial_eq (heq.trans hzero.symm)
  · intro heq
    rw [heq, hzero]
    exact dvd_zero _

/-! ### Errors in a message -/

/-- The checksums of two messages of the same length differ as the messages do, six places up,
modulo the generator. -/
theorem dvd_of_length_eq {octets others : List UInt8} (hlength : octets.length = others.length) :
    generatorPolynomial ∣ polynomial [of octets] - polynomial [of others] -
      (polynomial octets - polynomial others) * X ^ 6 := by
  rcases octets with _ | ⟨first, rest⟩
  · obtain rfl := List.length_eq_zero_iff.mp hlength.symm
    simp
  · rcases others with _ | ⟨first', rest'⟩
    · cases hlength
    obtain ⟨quotient, hquotient⟩ := exists_value start first rest
    obtain ⟨quotient', hquotient'⟩ := exists_value start first' rest'
    rw [← Nat.succ.inj hlength] at hquotient'
    refine ⟨quotient' - quotient, ?_⟩
    rw [of, of]
    linear_combination hquotient - hquotient'

/-- Messages of the same length have the same checksum if they differ by a multiple of the
generator, and only then. -/
theorem of_eq_of_iff {octets others : List UInt8} (hlength : octets.length = others.length) :
    of octets = of others ↔ generatorPolynomial ∣ polynomial octets - polynomial others := by
  rw [← dvd_mul_X_pow_iff 6, ← dvd_iff_dvd_of_dvd_sub (dvd_of_length_eq hlength)]
  constructor
  · intro heq
    rw [heq, sub_self]
    exact dvd_zero _
  · intro hdvd
    have hdegree := (degree_sub_le _ _).trans_lt (max_lt
      (degree_polynomial_value_lt (start.absorbAll octets))
      (degree_polynomial_value_lt (start.absorbAll others)))
    exact eq_of_polynomial_eq (sub_eq_zero.mp (eq_zero_of_dvd hdegree hdvd))

/-- An error changes the checksum by its polynomial, six places up, modulo the generator. -/
theorem dvd_of_zipWith {octets error : List UInt8} (hlength : octets.length = error.length) :
    generatorPolynomial ∣ polynomial [of (List.zipWith (· ^^^ ·) octets error)] -
      polynomial [of octets] - polynomial error * X ^ 6 := by
  have hdvd := dvd_of_length_eq
    (show (List.zipWith (· ^^^ ·) octets error).length = octets.length by simp [hlength])
  rwa [polynomial_zipWith hlength, add_sub_cancel_left] at hdvd

/-- A burst that reaches from a message into its checksum does not change the one as it changes the
other. -/
theorem of_zipWith_ne {body error : List UInt8} {last : UInt8} {start : Nat}
    (hlength : body.length = error.length) (hne : ∃ octet ∈ error ++ [last], octet ≠ 0)
    (hconfined : Confined start 6 (messageBits (error ++ [last]))) :
    of body ^^^ last ≠ of (List.zipWith (· ^^^ ·) body error) := by
  intro heq
  have hbits := true_mem_messageBits hne
  -- The last octet is a sum of two checksums, so its two upper bits are zero.
  have hlast : last = of body ^^^ of (List.zipWith (· ^^^ ·) body error) := by
    rw [← heq, ← UInt8.xor_assoc, UInt8.xor_self, UInt8.zero_xor]
  obtain ⟨low, hlow, hlength'⟩ : ∃ low, octetBits last = false :: false :: low ∧ low.length = 6 := by
    rw [hlast, octetBits_xor, of, of, (octetBits_value _).1, (octetBits_value _).1]
    exact ⟨_, rfl, by simp⟩
  rw [messageBits_append, show messageBits [last] = octetBits last from List.append_nil _, hlow]
    at hconfined hbits
  obtain ⟨start, hconfined⟩ := hconfined.exists_append
  refine not_dvd_of_confined hconfined (by simpa using hbits) ?_
  have hdvd := dvd_of_zipWith hlength
  rw [← heq, polynomial_xor, add_sub_cancel_left, CharTwo.sub_eq_add] at hdvd
  rw [bitPolynomial_append, hlength', add_comm]
  simpa [polynomial, bitPolynomial, messageBits, hlow] using hdvd

/-- An error in one octet changes the checksum unless it is a multiple of the generator. -/
theorem of_append_xor_iff (before after : List UInt8) (octet error : UInt8) :
    of (before ++ (octet ^^^ error) :: after) = of (before ++ octet :: after) ↔
      generatorPolynomial ∣ polynomial [error] := by
  have hdiff : polynomial (before ++ (octet ^^^ error) :: after) -
      polynomial (before ++ octet :: after) = polynomial [error] * X ^ (8 * after.length) := by
    rw [polynomial_append, polynomial_append, polynomial_cons, polynomial_cons octet,
      polynomial_xor, List.length_cons, List.length_cons]
    ring
  rw [of_eq_of_iff (by simp), hdiff, dvd_mul_X_pow_iff]

/-- No error in a message with its checksum that keeps to six bits in a row goes unseen, wherever it
stands: the last octet is not the checksum of the octets before it. An error in a single octet of
the message goes unseen if it is one of the multiples of the generator, and only then. -/
theorem detects_bursts :
    (∀ (body error : List UInt8) (start : Nat), error.length = (attach body).length →
      (∃ octet ∈ error, octet ≠ 0) → Confined start 6 (messageBits error) →
      ∃ octets last, List.zipWith (· ^^^ ·) (attach body) error = octets ++ [last] ∧
        last ≠ of octets) ∧
    ∀ (before after : List UInt8) (octet error : UInt8),
      of (before ++ (octet ^^^ error) :: after) = of (before ++ octet :: after) ↔
        error ∈ [(0x00 : UInt8), 0x5D, 0xBA, 0xE7] := by
  refine ⟨fun body error start hlength hne hconfined => ?_, fun before after octet error => ?_⟩
  · rcases List.eq_nil_or_concat' error with rfl | ⟨errors, last, rfl⟩
    · simp at hne
    have hlength : body.length = errors.length := by
      simpa [attach] using hlength.symm
    refine ⟨List.zipWith (· ^^^ ·) body errors, of body ^^^ last, ?_, ?_⟩
    · rw [attach, List.zipWith_append hlength]
      rfl
    · exact of_zipWith_ne hlength hne hconfined
  · rw [of_append_xor_iff, dvd_polynomial_singleton_iff]

/-- A burst over the last bit of the message, the two zero bits and three bits of the checksum. -/
theorem detects_bursts_of_straddling :
    let error : List UInt8 := [0x00, 0x01, 0x38]
    Confined 15 6 (messageBits error) ∧
      ∃ octets last, List.zipWith (· ^^^ ·) (attach [0x12, 0x34]) error = octets ++ [last] ∧
        last ≠ of octets := by
  intro error
  have hconfined : Confined 15 6 (messageBits error) := by decide +kernel
  exact ⟨hconfined, detects_bursts.1 [0x12, 0x34] error 15 (by simp [error, attach])
    ⟨0x38, by decide⟩ hconfined⟩

end Checksum

end Sdci
