import Mathlib.Algebra.CharP.Two
import Mathlib.Algebra.Field.ZMod
import Mathlib.Algebra.Polynomial.Div
import Mathlib.Tactic.ComputeDegree
import Mathlib.Tactic.LinearCombination
import Sdci.Frame

/-!
# The checksum as a remainder

A list of bits is a polynomial over the field of two elements, its last bit the constant term. The
register of a checksum works modulo `X ^ 2` times the generator: one bit that leaves it is one
multiplication by `X`, and one octet is eight of them (`Checksum.exists_register`). Its two lower
bits are zero behind every octet, so what is left above them is a remainder modulo the generator
(`Checksum.exists_value`), and the checksum of a list of octets is that of the list's polynomial
(`Checksum.remainder`).
-/

namespace Sdci

open Polynomial

/-! ### Bits -/

/-- The bits of an octet, the most significant one first. -/
def octetBits (octet : UInt8) : List Bool :=
  List.ofFn fun place : Fin 8 => octet.toBitVec.getMsbD place

/-- The bits of a list of octets, in the order in which they are sent. -/
def messageBits (octets : List UInt8) : List Bool :=
  octets.flatMap octetBits

/-- The polynomial with the given bits for coefficients, the constant term last. -/
noncomputable def bitPolynomial : List Bool → (ZMod 2)[X]
  | [] => 0
  | bit :: rest => (if bit then X ^ rest.length else 0) + bitPolynomial rest

/-- The polynomial of the bits of a list of octets. -/
noncomputable def polynomial (octets : List UInt8) : (ZMod 2)[X] :=
  bitPolynomial (messageBits octets)

@[simp]
theorem length_octetBits (octet : UInt8) : (octetBits octet).length = 8 :=
  List.length_ofFn

@[simp]
theorem messageBits_cons (octet : UInt8) (octets : List UInt8) :
    messageBits (octet :: octets) = octetBits octet ++ messageBits octets := rfl

@[simp]
theorem messageBits_append (xs ys : List UInt8) :
    messageBits (xs ++ ys) = messageBits xs ++ messageBits ys :=
  List.flatMap_append

@[simp]
theorem length_messageBits (octets : List UInt8) :
    (messageBits octets).length = 8 * octets.length := by
  induction octets with
  | nil => rfl
  | cons octet rest ih =>
    rw [messageBits_cons, List.length_append, ih, length_octetBits, List.length_cons]
    omega

theorem bitPolynomial_append (xs ys : List Bool) :
    bitPolynomial (xs ++ ys) = bitPolynomial xs * X ^ ys.length + bitPolynomial ys := by
  induction xs with
  | nil => simp [bitPolynomial]
  | cons bit rest ih =>
    simp only [List.cons_append, bitPolynomial, ih, List.length_append]
    split
    · ring
    · ring

theorem bitPolynomial_eq_zero {bits : List Bool} (h : ∀ bit ∈ bits, bit = false) :
    bitPolynomial bits = 0 := by
  induction bits with
  | nil => rfl
  | cons bit rest ih =>
    obtain ⟨rfl, hrest⟩ := List.forall_mem_cons.mp h
    simp [bitPolynomial, ih hrest]

theorem degree_bitPolynomial_lt (bits : List Bool) : (bitPolynomial bits).degree < bits.length := by
  induction bits with
  | nil => simp [bitPolynomial]
  | cons bit rest ih =>
    have hlt : (rest.length : WithBot ℕ) < (bit :: rest).length := by
      exact_mod_cast Nat.lt_succ_self rest.length
    refine (degree_add_le _ _).trans_lt (max_lt ?_ (ih.trans hlt))
    split
    · rwa [degree_X_pow]
    · rw [degree_zero]
      exact WithBot.bot_lt_coe _

/-- The leading coefficient is the first bit. -/
theorem coeff_bitPolynomial_cons (bit : Bool) (rest : List Bool) :
    (bitPolynomial (bit :: rest)).coeff rest.length = if bit then 1 else 0 := by
  rw [bitPolynomial, coeff_add, coeff_eq_zero_of_degree_lt (degree_bitPolynomial_lt rest), add_zero]
  split
  · exact coeff_X_pow_self _
  · exact coeff_zero _

/-- Different bits stand for different polynomials. -/
theorem eq_of_bitPolynomial_eq {xs ys : List Bool} (hlength : xs.length = ys.length)
    (h : bitPolynomial xs = bitPolynomial ys) : xs = ys := by
  induction xs generalizing ys with
  | nil => exact (List.length_eq_zero_iff.mp hlength.symm).symm
  | cons bit rest ih =>
    obtain _ | ⟨other, others⟩ := ys
    · cases hlength
    replace hlength : rest.length = others.length := Nat.succ.inj hlength
    have hbit : bit = other := by
      have hcoeff := congrArg (coeff · rest.length) h
      simp only [coeff_bitPolynomial_cons] at hcoeff
      rw [hlength, coeff_bitPolynomial_cons] at hcoeff
      cases bit <;> cases other <;> simp_all
    subst hbit
    rw [bitPolynomial, bitPolynomial, hlength] at h
    rw [ih hlength (add_left_cancel h)]

/-- An octet is determined by its polynomial. -/
theorem eq_of_polynomial_eq {octet other : UInt8} (h : polynomial [octet] = polynomial [other]) :
    octet = other := by
  have hbits : octetBits octet = octetBits other := by
    simpa [messageBits] using eq_of_bitPolynomial_eq (by simp) h
  have hplaces := List.ofFn_injective hbits
  refine UInt8.toBitVec_inj.mp (BitVec.eq_of_getMsbD_eq fun place hplace => ?_)
  exact congrFun hplaces ⟨place, hplace⟩

@[simp]
theorem polynomial_nil : polynomial [] = 0 := rfl

theorem polynomial_append (xs ys : List UInt8) :
    polynomial (xs ++ ys) = polynomial xs * X ^ (8 * ys.length) + polynomial ys := by
  rw [polynomial, messageBits_append, bitPolynomial_append, length_messageBits]
  rfl

theorem polynomial_singleton (octet : UInt8) :
    polynomial [octet] = bitPolynomial (octetBits octet) := by
  rw [polynomial, messageBits_cons, messageBits, List.flatMap_nil, List.append_nil]

/-- The first octet of a list stands at the top of its polynomial. -/
theorem polynomial_cons (octet : UInt8) (octets : List UInt8) :
    polynomial (octet :: octets) =
      polynomial [octet] * X ^ (8 * octets.length) + polynomial octets :=
  polynomial_append [octet] octets

/-! ### The sum of two lists -/

theorem bitPolynomial_zipWith {xs ys : List Bool} (hlength : xs.length = ys.length) :
    bitPolynomial (List.zipWith xor xs ys) = bitPolynomial xs + bitPolynomial ys := by
  induction xs generalizing ys with
  | nil =>
    obtain rfl := List.length_eq_zero_iff.mp hlength.symm
    exact (add_zero 0).symm
  | cons bit rest ih =>
    obtain _ | ⟨other, others⟩ := ys
    · cases hlength
    replace hlength : rest.length = others.length := Nat.succ.inj hlength
    rw [List.zipWith_cons_cons, bitPolynomial, bitPolynomial, bitPolynomial, ih hlength,
      List.length_zipWith, hlength, min_self]
    have htwo : (X ^ others.length + X ^ others.length : (ZMod 2)[X]) = 0 :=
      CharTwo.add_self_eq_zero _
    cases bit <;> cases other <;> simp
    · ring
    · ring
    · linear_combination -htwo

theorem octetBits_xor (octet other : UInt8) :
    octetBits (octet ^^^ other) = List.zipWith xor (octetBits octet) (octetBits other) := by
  refine List.ext_getElem (by simp) fun place _ _ => ?_
  simp [octetBits]

/-- The bits of a sum of lists of the same length are the sums of the bits. -/
theorem messageBits_zipWith {xs ys : List UInt8} (hlength : xs.length = ys.length) :
    messageBits (List.zipWith (· ^^^ ·) xs ys) =
      List.zipWith xor (messageBits xs) (messageBits ys) := by
  induction xs generalizing ys with
  | nil => rfl
  | cons octet rest ih =>
    obtain _ | ⟨other, others⟩ := ys
    · cases hlength
    rw [List.zipWith_cons_cons, messageBits_cons, messageBits_cons, messageBits_cons,
      octetBits_xor, ih (Nat.succ.inj hlength), List.zipWith_append (by simp)]

theorem polynomial_zipWith {xs ys : List UInt8} (hlength : xs.length = ys.length) :
    polynomial (List.zipWith (· ^^^ ·) xs ys) = polynomial xs + polynomial ys := by
  rw [polynomial, messageBits_zipWith hlength, bitPolynomial_zipWith (by simp [hlength])]
  rfl

theorem polynomial_xor (octet other : UInt8) :
    polynomial [octet ^^^ other] = polynomial [octet] + polynomial [other] :=
  polynomial_zipWith (show [octet].length = [other].length from rfl)

/-! ### The register -/

namespace Checksum

/-- The generator of the checksum. -/
noncomputable def generatorPolynomial : (ZMod 2)[X] :=
  X ^ 6 + X ^ 4 + X ^ 3 + X ^ 2 + 1

theorem monic_generatorPolynomial : generatorPolynomial.Monic := by
  unfold generatorPolynomial
  monicity!

theorem degree_generatorPolynomial : generatorPolynomial.degree = 6 := by
  unfold generatorPolynomial
  compute_degree!

/-- The generator that the register subtracts is the whole one, two places up and without its
leading term. -/
theorem polynomial_generator :
    polynomial [generator] = X ^ 2 * generatorPolynomial - X ^ 8 := by
  have hbits : messageBits [generator] = [false, true, true, true, false, true, false, false] := by
    decide
  rw [polynomial, hbits, generatorPolynomial]
  simp [bitPolynomial]
  ring

/-- The bits of an octet move one place up. -/
theorem octetBits_shiftLeft (octet : UInt8) :
    octetBits octet = decide (octet &&& 0x80 ≠ 0) :: (octetBits octet).tail ∧
      octetBits (octet <<< 1) = (octetBits octet).tail ++ [false] := by
  have hbits : ∀ bits : BitVec 8,
      octetBits ⟨bits⟩ = decide (UInt8.ofBitVec bits &&& 0x80 ≠ 0) :: (octetBits ⟨bits⟩).tail ∧
        octetBits (UInt8.ofBitVec bits <<< 1) = (octetBits ⟨bits⟩).tail ++ [false] := by
    decide +kernel
  exact hbits octet.toBitVec

/-- A bit that leaves the register at the top is the coefficient of `X ^ 8`. -/
theorem polynomial_shiftLeft (register : UInt8) :
    polynomial [register <<< 1] =
      X * polynomial [register] + if register &&& 0x80 = 0 then 0 else X ^ 8 := by
  obtain ⟨hhead, hshift⟩ := octetBits_shiftLeft register
  have hpolynomial : polynomial [register] =
      (if register &&& 0x80 = 0 then 0 else X ^ 7) + bitPolynomial (octetBits register).tail := by
    rw [polynomial_singleton, hhead]
    simp [bitPolynomial]
  have hshifted : polynomial [register <<< 1] = bitPolynomial (octetBits register).tail * X := by
    rw [polynomial_singleton, hshift, bitPolynomial_append]
    simp [bitPolynomial]
  have htwo : (X ^ 8 + X ^ 8 : (ZMod 2)[X]) = 0 := CharTwo.add_self_eq_zero _
  rw [hshifted, hpolynomial]
  split
  · ring
  · linear_combination -htwo

/-- One step of the register is a multiplication by `X`, but for a multiple of the modulus. -/
theorem polynomial_shift (register : UInt8) :
    ∃ quotient, polynomial [shift register] + X ^ 2 * generatorPolynomial * quotient =
      X * polynomial [register] := by
  have htwo : (X ^ 8 + X ^ 8 : (ZMod 2)[X]) = 0 := CharTwo.add_self_eq_zero _
  unfold shift
  split
  · next hclear =>
    refine ⟨0, ?_⟩
    rw [polynomial_shiftLeft, if_pos hclear]
    ring
  · next hset =>
    refine ⟨-1, ?_⟩
    rw [polynomial_xor, polynomial_shiftLeft, if_neg hset, polynomial_generator]
    ring

theorem polynomial_repeat_shift (count : Nat) (register : UInt8) :
    ∃ quotient, polynomial [Nat.repeat shift count register] +
        X ^ 2 * generatorPolynomial * quotient = X ^ count * polynomial [register] := by
  induction count with
  | zero => exact ⟨0, by simp [Nat.repeat]⟩
  | succ count ih =>
    obtain ⟨first, hfirst⟩ := ih
    obtain ⟨second, hsecond⟩ := polynomial_shift (Nat.repeat shift count register)
    refine ⟨second + X * first, ?_⟩
    rw [Nat.repeat]
    linear_combination hsecond + X * hfirst

/-- Behind a list of octets, the register holds what it held before, moved up by the bits of the
list, and the list itself, moved up by the width of the register. -/
theorem exists_register (sum : Checksum) (octets : List UInt8) :
    ∃ quotient, polynomial [(sum.absorbAll octets).register] +
        X ^ 2 * generatorPolynomial * quotient =
      polynomial [sum.register] * X ^ (8 * octets.length) + X ^ 8 * polynomial octets := by
  induction octets generalizing sum with
  | nil => exact ⟨0, by simp⟩
  | cons octet rest ih =>
    obtain ⟨first, hfirst⟩ := polynomial_repeat_shift 8 (sum.register ^^^ octet)
    obtain ⟨second, hsecond⟩ := ih (sum.absorb octet)
    refine ⟨second + first * X ^ (8 * rest.length), ?_⟩
    rw [polynomial_xor] at hfirst
    rw [absorbAll_cons, polynomial_cons octet rest, List.length_cons, Nat.mul_succ, pow_add]
    rw [show (sum.absorb octet).register = Nat.repeat shift 8 (sum.register ^^^ octet) from rfl]
      at hsecond
    linear_combination hsecond + X ^ (8 * rest.length) * hfirst

/-! ### The value -/

/-- The two lower bits of the register are zero behind an octet. -/
theorem register_absorb_and (sum : Checksum) (octet : UInt8) :
    (sum.absorb octet).register &&& 3 = 0 := by
  have hlow : ∀ bits : BitVec 8, Nat.repeat shift 8 ⟨bits⟩ &&& 3 = 0 := by decide +kernel
  exact hlow (sum.register ^^^ octet).toBitVec

theorem register_absorbAll_and {sum : Checksum} (h : sum.register &&& 3 = 0)
    (octets : List UInt8) : (sum.absorbAll octets).register &&& 3 = 0 := by
  induction octets generalizing sum with
  | nil => exact h
  | cons octet rest ih => exact ih (register_absorb_and sum octet)

/-- The value is what stands above the two lower bits of the register. -/
theorem octetBits_value (sum : Checksum) :
    octetBits sum.value = false :: false :: (octetBits sum.register).take 6 ∧
      (sum.register &&& 3 = 0 →
        octetBits sum.register = (octetBits sum.register).take 6 ++ [false, false]) := by
  have hbits : ∀ bits : BitVec 8,
      octetBits (value ⟨⟨bits⟩⟩) = false :: false :: (octetBits ⟨bits⟩).take 6 ∧
        (UInt8.ofBitVec bits &&& 3 = 0 →
          octetBits ⟨bits⟩ = (octetBits ⟨bits⟩).take 6 ++ [false, false]) := by
    decide +kernel
  exact hbits sum.register.toBitVec

theorem polynomial_value (sum : Checksum) :
    polynomial [sum.value] = bitPolynomial ((octetBits sum.register).take 6) := by
  rw [polynomial_singleton, (octetBits_value sum).1]
  simp [bitPolynomial]

theorem degree_polynomial_value_lt (sum : Checksum) : (polynomial [sum.value]).degree < 6 := by
  have hdegree := degree_bitPolynomial_lt ((octetBits sum.register).take 6)
  rw [← polynomial_value, List.length_take, length_octetBits] at hdegree
  exact_mod_cast hdegree

theorem polynomial_register {sum : Checksum} (h : sum.register &&& 3 = 0) :
    polynomial [sum.register] = X ^ 2 * polynomial [sum.value] := by
  rw [polynomial_value, polynomial_singleton, (octetBits_value sum).2 h, bitPolynomial_append]
  simp [bitPolynomial]
  ring

/-- Behind at least one octet, the value differs from what has come in, six places up, by a multiple
of the generator. -/
theorem exists_value (sum : Checksum) (octet : UInt8) (rest : List UInt8) :
    ∃ quotient, polynomial [(sum.absorbAll (octet :: rest)).value] +
        generatorPolynomial * quotient =
      (polynomial [sum.register] * X ^ (8 * rest.length) + polynomial (octet :: rest)) * X ^ 6 := by
  obtain ⟨quotient, hquotient⟩ := exists_register sum (octet :: rest)
  have hlow : (sum.absorbAll (octet :: rest)).register &&& 3 = 0 :=
    register_absorbAll_and (register_absorb_and sum octet) rest
  refine ⟨quotient, mul_left_cancel₀ (pow_ne_zero 2 X_ne_zero) ?_⟩
  rw [polynomial_register hlow, List.length_cons, Nat.mul_succ, pow_add] at hquotient
  linear_combination hquotient

theorem polynomial_value_eq (sum : Checksum) (octet : UInt8) (rest : List UInt8) :
    polynomial [(sum.absorbAll (octet :: rest)).value] =
      ((polynomial [sum.register] * X ^ (8 * rest.length) + polynomial (octet :: rest)) * X ^ 6)
        %ₘ generatorPolynomial := by
  obtain ⟨quotient, hquotient⟩ := exists_value sum octet rest
  have hdegree : (polynomial [(sum.absorbAll (octet :: rest)).value]).degree <
      generatorPolynomial.degree := by
    rw [degree_generatorPolynomial]
    exact degree_polynomial_value_lt _
  exact (div_modByMonic_unique _ _ monic_generatorPolynomial ⟨hquotient, hdegree⟩).2.symm

/-- Octets may be absorbed in pieces of any length. -/
theorem foldl_absorbAll (sum : Checksum) (pieces : List (List UInt8)) :
    pieces.foldl absorbAll sum = sum.absorbAll pieces.flatten := by
  induction pieces generalizing sum with
  | nil => rfl
  | cons piece rest ih => rw [List.foldl_cons, ih, List.flatten_cons, absorbAll_append]

/-- The checksum of no octets is five. That of others is the one octet that stands for the remainder
of their polynomial, with the seed added at its top and all of it moved six places up, modulo
`X ^ 6 + X ^ 4 + X ^ 3 + X ^ 2 + 1`; it has six bits. The octets may come in any pieces, and a
cyclic frame takes the checksum of its fields, one behind the other. -/
theorem remainder :
    of [] = 5 ∧
    (∀ first rest,
      let octets := first :: rest
      of octets ≤ 0x3F ∧ ∀ octet, octet = of octets ↔
        polynomial [octet] =
          ((polynomial [0x15] * X ^ (8 * (octets.length - 1)) + polynomial octets) * X ^ 6)
            %ₘ (X ^ 6 + X ^ 4 + X ^ 3 + X ^ 2 + 1)) ∧
    (∀ pieces : List (List UInt8), (pieces.foldl absorbAll start).value = of pieces.flatten) ∧
    ∀ command typeOctet processData od,
      Frame.cyclicChecksum command typeOctet processData od =
        of ([command, typeOctet] ++ processData ++ [od.first] ++ od.second?.toList) := by
  refine ⟨by decide, fun first rest => ⟨value_le _, fun octet => ?_⟩, fun pieces => ?_,
    fun command typeOctet processData od => ?_⟩
  · have hvalue := polynomial_value_eq start first rest
    constructor
    · rintro rfl
      exact hvalue
    · intro hoctet
      exact eq_of_polynomial_eq (hoctet.trans hvalue.symm)
  · rw [foldl_absorbAll]
    rfl
  · rw [Frame.cyclicChecksum_eq]
    cases od with
    | one first => simp [OnRequestData.toList, OnRequestData.first, OnRequestData.second?]
    | two first second => simp [OnRequestData.toList, OnRequestData.first, OnRequestData.second?]

end Checksum

end Sdci
