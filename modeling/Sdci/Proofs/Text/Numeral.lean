import Mathlib.Data.List.Forall2
import Mathlib.Data.Nat.Digits.Defs
import Mathlib.Tactic.IntervalCases
import Sdci.Text.Numeral

/-!
# What numerals spell

A numeral is told from its digits: each of them stands for its value, and all of them for a number,
the most significant one first (`Numeral.Spells`). A numeral is read exactly if the number is within
the bound, however many zeros it begins with (`Numeral.read_eq_ok_iff`).
-/

namespace Sdci.Text.Numeral

variable {radix bound value : Nat} {c : Char} {digits text : List Char}

/-- The character is the digit for a value; a letter may be of either case. -/
def IsDigit (radix : Nat) (c : Char) (value : Nat) : Prop :=
  value < radix ∧ (c = value.digitChar ∨ c = value.digitChar.toUpper)

instance : Decidable (IsDigit radix c value) := inferInstanceAs (Decidable (_ ∧ _))

/-- The text spells a number: at most one plus sign, and one or more digits behind it. -/
def Spells (radix : Nat) (text : List Char) (value : Nat) : Prop :=
  ∃ digits values, (text = digits ∨ text = '+' :: digits) ∧ digits ≠ [] ∧
    List.Forall₂ (IsDigit radix) digits values ∧ value = Nat.ofDigits radix values.reverse

/-! ### Digits -/

/-- The digits of a radix up to sixteen are read as their values, and nothing else is. -/
theorem digit?_eq_some_iff (hradix : radix ≤ 16) :
    digit? radix c = some value ↔ IsDigit radix c value := by
  constructor
  · intro h
    obtain ⟨hvalue, hlt⟩ := Option.filter_eq_some_iff.mp h
    rw [decide_eq_true_iff] at hlt
    have hsmall : value < 16 := hlt.trans_le hradix
    refine ⟨hlt, ?_⟩
    rw [← Char.ofNat_toNat c]
    split at hvalue
    · next hrange =>
      have hlow : 48 ≤ c.toNat := hrange.1
      have hhigh : c.toNat ≤ 57 := hrange.2
      have hdigit : c.toNat - 48 = value := Option.some.inj hvalue
      have hten : value < 10 := by omega
      rw [show c.toNat = 48 + value by omega]
      left
      clear hsmall
      interval_cases value <;> rfl
    split at hvalue
    · next hrange =>
      have hlow : 97 ≤ c.toNat := hrange.1
      have hdigit : c.toNat - 97 + 10 = value := Option.some.inj hvalue
      have hten : 10 ≤ value := by omega
      rw [show c.toNat = 87 + value by omega]
      left
      interval_cases value <;> rfl
    split at hvalue
    · next hrange =>
      have hlow : 65 ≤ c.toNat := hrange.1
      have hdigit : c.toNat - 65 + 10 = value := Option.some.inj hvalue
      have hten : 10 ≤ value := by omega
      rw [show c.toNat = 55 + value by omega]
      right
      interval_cases value <;> rfl
    · cases hvalue
  · rintro ⟨hlt, hc⟩
    have hsmall : value < 16 := hlt.trans_le hradix
    refine Option.filter_eq_some_iff.mpr ⟨?_, decide_eq_true hlt⟩
    interval_cases value <;> obtain rfl | rfl := hc <;> rfl

/-- No digit is a plus sign. -/
theorem IsDigit.ne_plus (hradix : radix ≤ 16) (h : IsDigit radix c value) : c ≠ '+' := by
  rintro rfl
  cases (digit?_eq_some_iff hradix).mpr h

/-- Digits are ASCII characters, so each takes one octet. -/
theorem IsDigit.utf8Size (hradix : radix ≤ 16) (h : IsDigit radix c value) : c.utf8Size = 1 := by
  obtain ⟨hlt, hc⟩ := h
  have hsmall : value < 16 := hlt.trans_le hradix
  interval_cases value <;> obtain rfl | rfl := hc <;> rfl

/-- The hexadecimal digits. -/
def hexDigits : List Char := "0123456789abcdefABCDEF".toList

theorem exists_isDigit_iff : (∃ value, IsDigit 16 c value) ↔ c ∈ hexDigits := by
  constructor
  · rintro ⟨value, hlt, hc⟩
    have hall : ∀ value < 16,
        value.digitChar ∈ hexDigits ∧ value.digitChar.toUpper ∈ hexDigits := by decide
    obtain rfl | rfl := hc
    · exact (hall value hlt).1
    · exact (hall value hlt).2
  · intro hmem
    have hall : hexDigits.all fun c => (digit? 16 c).isSome := by decide
    obtain ⟨value, hvalue⟩ := Option.isSome_iff_exists.mp (List.all_eq_true.mp hall c hmem)
    exact ⟨value, (digit?_eq_some_iff (Nat.le_refl 16)).mp hvalue⟩

/-! ### Numbers -/

/-- More digits make no number smaller. -/
theorem le_foldl (hradix : 0 < radix) (start : Nat) (values : List Nat) :
    start ≤ values.foldl (fun number digit => number * radix + digit) start := by
  induction values generalizing start with
  | nil => exact Nat.le_refl start
  | cons digit rest ih =>
    calc start ≤ start * radix := Nat.le_mul_of_pos_right start hradix
      _ ≤ start * radix + digit := Nat.le_add_right ..
      _ ≤ _ := ih _

theorem foldl_eq_ofDigits (values : List Nat) :
    values.foldl (fun number digit => number * radix + digit) 0 =
      Nat.ofDigits radix values.reverse := by
  rw [Nat.ofDigits_eq_foldr, List.foldr_reverse]
  congr 1
  funext number digit
  rw [Nat.add_comm, Nat.mul_comm]
  rfl

/-- Digits are read behind a number exactly if the whole number is within the bound. -/
theorem readDigits_eq_ok_iff (hpos : 0 < radix) (hradix : radix ≤ 16) {start : Nat}
    (hstart : start ≤ bound) :
    readDigits radix bound start digits = .ok value ↔
      ∃ values, List.Forall₂ (IsDigit radix) digits values ∧
        value = values.foldl (fun number digit => number * radix + digit) start ∧
        value ≤ bound := by
  induction digits generalizing start with
  | nil =>
    simp only [readDigits, Except.ok.injEq, List.forall₂_nil_left_iff, exists_eq_left,
      List.foldl_nil]
    exact ⟨fun h => ⟨h.symm, h ▸ hstart⟩, fun h => h.1.symm⟩
  | cons c rest ih =>
    simp only [List.forall₂_cons_left_iff, ← digit?_eq_some_iff hradix]
    rw [readDigits]
    cases hdigit : digit? radix c with
    | none => simp
    | some digit =>
      by_cases hbound : start * radix + digit ≤ bound
      · simp only [if_pos hbound, ih hbound]
        constructor
        · rintro ⟨values, hvalues, hvalue⟩
          exact ⟨digit :: values, ⟨digit, values, rfl, hvalues, rfl⟩, hvalue⟩
        · rintro ⟨_, ⟨_, values, heq, hvalues, rfl⟩, hvalue⟩
          cases heq
          exact ⟨values, hvalues, hvalue⟩
      · simp only [if_neg hbound]
        constructor
        · nofun
        · rintro ⟨_, ⟨_, values, heq, hvalues, rfl⟩, rfl, hle⟩
          cases heq
          exact absurd ((le_foldl hpos _ values).trans hle) hbound

theorem readDigits_plus (hradix : radix ≤ 16) (start : Nat) :
    readDigits radix bound start ('+' :: digits) = .error .invalidDigit := by
  have hplus : digit? radix '+' = none :=
    Option.eq_none_iff_forall_ne_some.mpr fun digit hdigit =>
      ((digit?_eq_some_iff hradix).mp hdigit).ne_plus hradix rfl
  rw [readDigits, hplus]

theorem read_plus (h : digits ≠ []) :
    read radix bound ('+' :: digits) = readDigits radix bound 0 digits := by
  obtain ⟨c, rest, rfl⟩ := List.exists_cons_of_ne_nil h
  rfl

theorem read_cons (h : c ≠ '+') :
    read radix bound (c :: digits) = readDigits radix bound 0 (c :: digits) := by
  simp [read, h]

/-- Of a text, the digits behind a plus sign at its beginning are read, and there must be some. -/
theorem read_eq_ok_iff_readDigits (hradix : radix ≤ 16) :
    read radix bound text = .ok value ↔
      ∃ digits, (text = digits ∨ text = '+' :: digits) ∧ digits ≠ [] ∧
        readDigits radix bound 0 digits = .ok value := by
  constructor
  · intro h
    obtain _ | ⟨c, rest⟩ := text
    · cases h
    by_cases hplus : c = '+'
    · subst hplus
      have hne : rest ≠ [] := by
        rintro rfl
        cases h
      exact ⟨rest, .inr rfl, hne, (read_plus hne).symm.trans h⟩
    · exact ⟨c :: rest, .inl rfl, List.cons_ne_nil _ _, (read_cons hplus).symm.trans h⟩
  · rintro ⟨digits, rfl | rfl, hne, h⟩
    · obtain ⟨c, rest, rfl⟩ := List.exists_cons_of_ne_nil hne
      have hplus : c ≠ '+' := by
        rintro rfl
        cases (readDigits_plus hradix 0).symm.trans h
      exact (read_cons hplus).trans h
    · exact (read_plus hne).trans h

/-- A numeral is read exactly if the number that it spells is within the bound. -/
theorem read_eq_ok_iff (hpos : 0 < radix) (hradix : radix ≤ 16) :
    read radix bound text = .ok value ↔ Spells radix text value ∧ value ≤ bound := by
  simp only [read_eq_ok_iff_readDigits hradix,
    readDigits_eq_ok_iff hpos hradix (Nat.zero_le bound), foldl_eq_ofDigits]
  constructor
  · rintro ⟨digits, htext, hne, values, hvalues, hvalue, hle⟩
    exact ⟨⟨digits, values, htext, hne, hvalues, hvalue⟩, hle⟩
  · rintro ⟨⟨digits, values, htext, hne, hvalues, hvalue⟩, hle⟩
    exact ⟨digits, htext, hne, values, hvalues, hvalue, hle⟩

/-- A text spells at most one number. -/
theorem Spells.unique {other : Nat} (hpos : 0 < radix) (hradix : radix ≤ 16)
    (h : Spells radix text value) (h' : Spells radix text other) : value = other := by
  have hvalue : read radix (value + other) text = .ok value :=
    (read_eq_ok_iff hpos hradix).mpr ⟨h, Nat.le_add_right ..⟩
  have hother : read radix (value + other) text = .ok other :=
    (read_eq_ok_iff hpos hradix).mpr ⟨h', Nat.le_add_left ..⟩
  exact Except.ok.inj (hvalue.symm.trans hother)

/-- A numeral is made of digits and at most a plus sign. -/
theorem Spells.mem (hradix : radix ≤ 16) (h : Spells radix text value) (hmem : c ∈ text) :
    c ∈ '+' :: hexDigits := by
  obtain ⟨digits, values, htext, -, hvalues, -⟩ := h
  have hall : List.Forall₂ (fun c digit => c ∈ hexDigits ∧ IsDigit radix c digit) digits values :=
    hvalues.imp fun c digit hdigit =>
      ⟨exists_isDigit_iff.mp ⟨digit, hdigit.1.trans_le hradix, hdigit.2⟩, hdigit⟩
  have hdigits : ∀ c ∈ digits, c ∈ hexDigits := ((List.forall₂_and_left _ _).mp hall).1
  obtain rfl | rfl := htext
  · exact List.mem_cons_of_mem '+' (hdigits c hmem)
  · obtain rfl | hmem := List.mem_cons.mp hmem
    · exact List.mem_cons_self ..
    · exact List.mem_cons_of_mem '+' (hdigits c hmem)

/-! ### Written numbers -/

/-- The decimal digits of a number. -/
theorem exists_forall₂_toDigits (number : Nat) :
    ∃ values, List.Forall₂ (IsDigit 10) (Nat.toDigits 10 number) values ∧
      number = Nat.ofDigits 10 values.reverse := by
  induction number using Nat.strongRecOn with
  | ind number ih =>
    have hlast (digit : Nat) (h : digit < 10) : IsDigit 10 digit.digitChar digit := ⟨h, .inl rfl⟩
    by_cases hsmall : number < 10
    · rw [Nat.toDigits_of_lt_base hsmall]
      exact ⟨[number], .cons (hlast number hsmall) .nil, by simp⟩
    · obtain ⟨values, hvalues, hnumber⟩ := ih (number / 10) (by omega)
      rw [Nat.toDigits_of_base_le (by decide) (by omega)]
      refine ⟨values ++ [number % 10],
        List.rel_append hvalues (.cons (hlast _ (Nat.mod_lt _ (by decide))) .nil), ?_⟩
      rw [List.reverse_append, List.reverse_singleton, List.singleton_append, Nat.ofDigits_cons,
        ← hnumber, Nat.mod_add_div]

/-- A number is written as a numeral that spells it. -/
theorem spells_toString (number : Nat) : Spells 10 (toString number).toList number := by
  obtain ⟨values, hvalues, hnumber⟩ := exists_forall₂_toDigits number
  have htext : (toString number).toList = Nat.toDigits 10 number := Nat.toList_repr
  refine ⟨_, values, .inl htext, ?_, hvalues, hnumber⟩
  intro hnil
  rw [Nat.toDigits_eq_if (by decide)] at hnil
  split at hnil <;> simp at hnil

end Sdci.Text.Numeral
