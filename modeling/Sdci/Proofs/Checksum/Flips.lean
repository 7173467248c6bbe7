import Mathlib.Data.Nat.Dist
import Mathlib.GroupTheory.OrderOfElement
import Mathlib.RingTheory.AdjoinRoot
import Mathlib.Tactic.ReduceModChar
import Sdci.Proofs.Checksum.Burst

/-!
# Two flipped bits

A flipped bit adds to the polynomial of a message the power of `X` that the bit stands for
(`polynomial_flipBit`). The generator is the product of `X ^ 2 + X + 1` and
`X ^ 4 + X ^ 3 + X ^ 2 + X + 1`, so modulo the generator the powers of `X` come back after fifteen
places already and not after sixty-three (`Checksum.orderOf_root`). Two flips go unseen when their
powers of `X` cancel, that is, when they are a multiple of fifteen places apart
(`Checksum.detects_double_flips`).
-/

namespace Sdci

open Polynomial

/-- The octets with one of their bits flipped. Places are counted in the order in which the bits are
sent. -/
def flipBit (place : Nat) (octets : List UInt8) : List UInt8 :=
  octets.modify (place / 8) (· ^^^ 0x80 >>> (place % 8).toUInt8)

@[simp]
theorem length_flipBit (place : Nat) (octets : List UInt8) :
    (flipBit place octets).length = octets.length :=
  List.length_modify ..

/-! ### The bits -/

/-- A single bit that is added flips the bit at its place. -/
theorem zipWith_xor_set (bits : List Bool) (place : Nat) :
    List.zipWith xor bits ((List.replicate bits.length false).set place true) =
      bits.modify place not := by
  apply List.ext_getElem (by simp)
  intro other _ _
  rw [List.getElem_zipWith, List.getElem_set, List.getElem_modify, List.getElem_replicate]
  split
  · exact Bool.xor_true _
  · exact Bool.xor_false _

theorem octetBits_flip (octet : UInt8) {place : Nat} (h : place < 8) :
    octetBits (octet ^^^ 0x80 >>> place.toUInt8) = (octetBits octet).modify place not := by
  have hmask : ∀ place : Fin 8, octetBits (0x80 >>> place.val.toUInt8) =
      (List.replicate 8 false).set place true := by decide
  rw [octetBits_xor, hmask ⟨place, h⟩]
  exact zipWith_xor_set (octetBits octet) place

/-- What is modified in a list stays in its part of the list. -/
theorem modify_append_of_lt {α : Type} {xs : List α} {place : Nat} (h : place < xs.length)
    (ys : List α) (f : α → α) : (xs ++ ys).modify place f = xs.modify place f ++ ys := by
  induction xs generalizing place with
  | nil => cases h
  | cons x rest ih =>
    cases place with
    | zero => rfl
    | succ place =>
      rw [List.cons_append, List.modify_succ_cons, ih (Nat.lt_of_succ_lt_succ h)]
      rfl

/-- Of the bits of a message, the one that is flipped changes and the others do not. -/
theorem messageBits_flipBit (place : Nat) (octets : List UInt8) :
    messageBits (flipBit place octets) = (messageBits octets).modify place not := by
  induction octets generalizing place with
  | nil => simp [flipBit, messageBits]
  | cons octet rest ih =>
    rcases Nat.lt_or_ge place 8 with hlt | hge
    · have hplace : place < (octetBits octet).length := by rwa [length_octetBits]
      rw [flipBit, Nat.div_eq_of_lt hlt, Nat.mod_eq_of_lt hlt, List.modify_zero_cons,
        messageBits_cons, messageBits_cons, octetBits_flip octet hlt, modify_append_of_lt hplace]
    · obtain ⟨place, rfl⟩ := Nat.exists_eq_add_of_le hge
      have hrest : flipBit (8 + place) (octet :: rest) = octet :: flipBit place rest := by
        rw [flipBit, Nat.add_div_left place (by decide), Nat.add_mod_left, List.modify_succ_cons]
        rfl
      rw [hrest, messageBits_cons, messageBits_cons, ih, ← length_octetBits octet]
      exact (List.modifyTailIdx_add ..).symm

/-! ### The polynomial -/

theorem bitPolynomial_modify {bits : List Bool} {place : Nat} (h : place < bits.length) :
    bitPolynomial (bits.modify place not) =
      bitPolynomial bits + X ^ (bits.length - 1 - place) := by
  induction bits generalizing place with
  | nil => cases h
  | cons bit rest ih =>
    cases place with
    | zero =>
      have htwo : (X ^ rest.length + X ^ rest.length : (ZMod 2)[X]) = 0 :=
        CharTwo.add_self_eq_zero _
      rw [List.modify_zero_cons, List.length_cons, bitPolynomial, bitPolynomial]
      cases bit
      · simp [add_comm]
      · simp
        linear_combination -htwo
    | succ place =>
      rw [List.length_cons] at h
      have hplace : (bit :: rest).length - 1 - (place + 1) = rest.length - 1 - place := by
        rw [List.length_cons]
        omega
      rw [List.modify_succ_cons, bitPolynomial, bitPolynomial, List.length_modify, ih (by omega),
        hplace, add_assoc]

/-- A flipped bit adds the power of `X` that it stands for. -/
theorem polynomial_flipBit {octets : List UInt8} {place : Nat} (h : place < 8 * octets.length) :
    polynomial (flipBit place octets) =
      polynomial octets + X ^ (8 * octets.length - 1 - place) := by
  rw [← length_messageBits] at h ⊢
  rw [polynomial, messageBits_flipBit, bitPolynomial_modify h]
  rfl

namespace Checksum

/-! ### Powers of `X` modulo the generator -/

/-- Modulo the generator, the powers of `X` come back after fifteen places, and not before. -/
theorem orderOf_root : orderOf (AdjoinRoot.root generatorPolynomial) = 15 := by
  have hfifteen : AdjoinRoot.root generatorPolynomial ^ 15 = 1 := by
    rw [← AdjoinRoot.mk_X, ← map_pow, ← sub_eq_zero, ← map_one (AdjoinRoot.mk _), ← map_sub,
      AdjoinRoot.mk_eq_zero]
    refine ⟨X ^ 9 + X ^ 7 + X ^ 6 + X ^ 3 + X ^ 2 + 1, ?_⟩
    rw [generatorPolynomial]
    ring_nf
    reduce_mod_char
  have hless {places : Nat} (hpos : 0 < places) (hlt : places < 6) :
      AdjoinRoot.root generatorPolynomial ^ places ≠ 1 := by
    rw [← AdjoinRoot.mk_X, ← map_pow, ← sub_ne_zero, ← map_one (AdjoinRoot.mk _), ← map_sub]
    apply AdjoinRoot.mk_ne_zero_of_degree_lt monic_generatorPolynomial
    · exact X_pow_sub_C_ne_zero hpos 1
    · rw [degree_generatorPolynomial, ← C_1, degree_X_pow_sub_C hpos]
      exact_mod_cast hlt
  -- The order divides fifteen, so it is enough that it divides neither five nor three.
  apply orderOf_eq_of_pow_and_pow_div_prime (by decide) hfifteen
  intro prime hprime hdvd
  rcases hprime.dvd_mul.mp (show prime ∣ 3 * 5 from hdvd) with hthree | hfive
  · rw [(Nat.prime_dvd_prime_iff_eq hprime Nat.prime_three).mp hthree]
    exact hless (by decide) (by decide)
  · rw [(Nat.prime_dvd_prime_iff_eq hprime Nat.prime_five).mp hfive]
    exact hless (by decide) (by decide)

/-- Two powers of `X` cancel if their exponents are a multiple of fifteen apart, and only then. -/
theorem dvd_X_pow_add_iff (first second : Nat) :
    generatorPolynomial ∣ X ^ first + X ^ second ↔ 15 ∣ Nat.dist first second := by
  wlog hle : second ≤ first generalizing first second
  · rw [add_comm, Nat.dist_comm]
    exact this second first (Nat.le_of_not_le hle)
  obtain ⟨places, rfl⟩ := Nat.exists_eq_add_of_le' hle
  have hfactor : (X ^ (places + second) + X ^ second : (ZMod 2)[X]) =
      (X ^ places - 1) * X ^ second := by
    rw [CharTwo.sub_eq_add]
    ring
  rw [hfactor, dvd_mul_X_pow_iff, Nat.dist_eq_sub_of_le_right hle, Nat.add_sub_cancel,
    ← orderOf_root, orderOf_dvd_iff_pow_eq_one, ← AdjoinRoot.mk_eq_zero, map_sub, map_pow, map_one,
    AdjoinRoot.mk_X, sub_eq_zero]

/-! ### Flips in a message -/

theorem polynomial_flipBit_sub {octets : List UInt8} {first second : Nat}
    (hfirst : first < 8 * octets.length) (hsecond : second < 8 * octets.length) :
    polynomial (flipBit first (flipBit second octets)) - polynomial octets =
      X ^ (8 * octets.length - 1 - first) + X ^ (8 * octets.length - 1 - second) := by
  rw [polynomial_flipBit (by rwa [length_flipBit]), polynomial_flipBit hsecond, length_flipBit]
  ring

/-- Places are as far apart when they are counted from the end. -/
theorem dist_sub {count first second : Nat} (hfirst : first < count) (hsecond : second < count) :
    Nat.dist (count - 1 - first) (count - 1 - second) = Nat.dist first second := by
  unfold Nat.dist
  omega

/-- Two flipped bits of a message leave its checksum as it is if they are a multiple of fifteen
places apart, and only then. So they are seen whenever they are at most fourteen places apart, and
never when they are fifteen. -/
theorem detects_double_flips {body : List UInt8} {first second : Nat} (hne : first ≠ second)
    (hfirst : first < 8 * body.length) (hsecond : second < 8 * body.length) :
    (of (flipBit first (flipBit second body)) = of body ↔ 15 ∣ Nat.dist first second) ∧
      (Nat.dist first second ≤ 14 → of (flipBit first (flipBit second body)) ≠ of body) ∧
      (Nat.dist first second = 15 → of (flipBit first (flipBit second body)) = of body) := by
  have hiff : of (flipBit first (flipBit second body)) = of body ↔
      15 ∣ Nat.dist first second := by
    rw [of_eq_of_iff (by simp), polynomial_flipBit_sub hfirst hsecond, dvd_X_pow_add_iff,
      dist_sub hfirst hsecond]
  refine ⟨hiff, ?_, ?_⟩
  · intro hle heq
    have hdist := Nat.le_of_dvd (Nat.dist_pos_of_ne hne) (hiff.mp heq)
    omega
  · intro hdist
    rw [hiff, hdist]

/-- In three octets, the fourth bit and the nineteenth are fifteen places apart, and the fourth and
the eighteenth are not. -/
theorem detects_double_flips_of_three_octets :
    let body : List UInt8 := [0x12, 0x34, 0x56]
    (3 ≠ 18 ∧ 3 < 8 * body.length ∧ 18 < 8 * body.length ∧
      of (flipBit 3 (flipBit 18 body)) = of body) ∧
    3 ≠ 17 ∧ 3 < 8 * body.length ∧ 17 < 8 * body.length ∧
      of (flipBit 3 (flipBit 17 body)) ≠ of body := by
  intro body
  have hfifteen := @detects_double_flips body 3 18 (by decide) (by decide) (by decide)
  have hfourteen := @detects_double_flips body 3 17 (by decide) (by decide) (by decide)
  exact ⟨⟨by decide, by decide, by decide, hfifteen.2.2 (by decide)⟩,
    by decide, by decide, by decide, hfourteen.2.1 (by decide)⟩

end Checksum

end Sdci
