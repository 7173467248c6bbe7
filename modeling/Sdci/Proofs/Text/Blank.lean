import Mathlib.Data.List.Basic
import Mathlib.Data.List.TakeWhile
import Sdci.Text.Blank

/-!
# Texts without the blanks at their ends

What is left of a text when the blanks at its ends are dropped (`Text.trim_eq_iff`). No blank is a
letter, so it does not matter whether letters are raised to capitals first.
-/

namespace Sdci.Text

variable {text core : List Char}

/-- The text is its core between blanks, and the core has no blank at its ends. -/
def IsPadded (text core : List Char) : Prop :=
  ∃ front back, text = front ++ core ++ back ∧ (∀ c ∈ front, isBlank c) ∧
    (∀ c ∈ back, isBlank c) ∧ (∀ c, core.head? = some c → ¬isBlank c) ∧
      ∀ c, core.getLast? = some c → ¬isBlank c

section DropWhile

variable {α : Type} {p : α → Bool} {list rest : List α}

/-- What is left when the longest front with a property is dropped. -/
theorem dropWhile_eq_iff :
    list.dropWhile p = rest ↔
      ∃ front, list = front ++ rest ∧ (∀ a ∈ front, p a) ∧ ∀ a, rest.head? = some a → ¬p a := by
  constructor
  · rintro rfl
    refine ⟨list.takeWhile p, List.takeWhile_append_dropWhile.symm,
      fun a => List.mem_takeWhile_imp, fun a hhead => ?_⟩
    have hnot := List.head?_dropWhile_not p list
    rw [hhead] at hnot
    exact Bool.eq_false_iff.mp hnot
  · rintro ⟨front, rfl, hfront, hhead⟩
    rw [List.dropWhile_append_of_pos hfront, List.dropWhile_eq_self_iff]
    intro hlength
    exact hhead _ (List.head?_eq_getElem? .. ▸ List.getElem?_eq_getElem hlength)

end DropWhile

/-- Dropping the blanks at both ends of a text gives its core. -/
theorem trim_eq_iff : trim text = core ↔ IsPadded text core := by
  rw [trim, List.reverse_eq_iff, dropWhile_eq_iff]
  constructor
  · rintro ⟨back, hrest, hback, hlast⟩
    rw [List.reverse_eq_iff, List.reverse_append, List.reverse_reverse, dropWhile_eq_iff] at hrest
    obtain ⟨front, htext, hfront, hhead⟩ := hrest
    refine ⟨front, back.reverse, by rw [htext, List.append_assoc], hfront, by simpa using hback,
      fun c hc => hhead c ?_, fun c hc => hlast c (by rwa [List.head?_reverse])⟩
    rw [List.head?_append, hc]
    rfl
  · rintro ⟨front, back, rfl, hfront, hback, hhead, hlast⟩
    -- Without a core, all blanks belong to the front.
    by_cases hcore : core = []
    · subst hcore
      refine ⟨[], ?_, by simp, by simp⟩
      have hall : ∀ c ∈ front ++ [] ++ back, isBlank c := by
        simpa [or_imp, forall_and] using ⟨hfront, hback⟩
      rw [List.dropWhile_eq_nil_iff.mpr hall]
      rfl
    · have hdrop : (front ++ core ++ back).dropWhile isBlank = core ++ back := by
        refine dropWhile_eq_iff.mpr ⟨front, List.append_assoc .., hfront, fun c hc => hhead c ?_⟩
        rwa [List.head?_append_of_ne_nil _ hcore] at hc
      refine ⟨back.reverse, by rw [hdrop, List.reverse_append], by simpa using hback,
        fun c hc => hlast c ?_⟩
      rwa [List.head?_reverse] at hc

/-- No blank is a letter. -/
theorem toUpper_of_isBlank {c : Char} (h : isBlank c) : c.toUpper = c := by
  refine dif_neg fun ⟨hlow, hhigh⟩ => ?_
  replace hlow : 97 ≤ c.toNat := hlow
  replace hhigh : c.toNat ≤ 122 := hhigh
  simp [isBlank, blankRanges] at h
  omega

end Sdci.Text
