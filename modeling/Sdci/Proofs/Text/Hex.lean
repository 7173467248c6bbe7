import Mathlib.Data.List.Basic
import Sdci.Text.Hex

/-!
# What hexadecimal text tells

Two digits tell an octet (`Text.hexOctet_injective`), and a list in brackets tells all of its octets
(`Text.hexList_injective`).
-/

namespace Sdci.Text

theorem hexDigit_injective : ∀ value < 16, ∀ other < 16,
    hexDigit value = hexDigit other → value = other := by
  decide

theorem hexOctet_injective {octet other : UInt8} (h : hexOctet octet = hexOctet other) :
    octet = other := by
  have hlt := octet.toNat_lt
  have hlt' := other.toNat_lt
  simp only [hexOctet, String.ofList_inj, List.cons.injEq, and_true] at h
  have hupper := hexDigit_injective _ (by omega) _ (by omega) h.1
  have hlower := hexDigit_injective _ (by omega) _ (by omega) h.2
  exact UInt8.toNat_inj.mp (by omega)

/-- Octets, each behind a comma. -/
def behindCommas (octets : List UInt8) : List Char :=
  octets.flatMap fun octet => ',' :: ' ' :: (hexOctet octet).toList

theorem length_toList_hexOctet (octet : UInt8) : (hexOctet octet).toList.length = 2 := by
  rw [hexOctet, String.toList_ofList]
  rfl

/-- Two characters of an octet in front tell it apart from the rest. -/
theorem append_hexOctet_inj {octet other : UInt8} {rest others : List Char}
    (h : (hexOctet octet).toList ++ rest = (hexOctet other).toList ++ others) :
    octet = other ∧ rest = others := by
  obtain ⟨hoctet, hrest⟩ := List.append_inj h (by simp only [length_toList_hexOctet])
  exact ⟨hexOctet_injective (String.toList_inj.mp hoctet), hrest⟩

theorem behindCommas_injective {octets others : List UInt8}
    (h : behindCommas octets = behindCommas others) : octets = others := by
  induction octets generalizing others with
  | nil =>
    cases others with
    | nil => rfl
    | cons other rest => cases h
  | cons octet rest ih =>
    cases others with
    | nil => cases h
    | cons other rest' =>
      simp only [behindCommas, List.flatMap_cons, List.cons_append, List.cons.injEq, true_and] at h
      obtain ⟨rfl, hrest⟩ := append_hexOctet_inj h
      rw [ih hrest]

theorem toList_hexList_cons (octet : UInt8) (rest : List UInt8) :
    (hexList (octet :: rest)).toList =
      '[' :: ((hexOctet octet).toList ++ (behindCommas rest ++ [']'])) := by
  have hcommas : [',', ' '].intercalate (((octet :: rest).map hexOctet).map String.toList) =
      (hexOctet octet).toList ++ behindCommas rest := by
    induction rest generalizing octet with
    | nil => simp [behindCommas]
    | cons second rest ih =>
      rw [List.map_cons, List.map_cons, List.map_cons, List.map_cons,
        List.intercalate_cons_cons, ← List.map_cons, ← List.map_cons, ih]
      simp [behindCommas]
  rw [hexList, String.toList_append, String.toList_append, String.toList_intercalate,
    show ", ".toList = [',', ' '] from rfl, hcommas]
  simp

theorem hexList_injective {octets others : List UInt8} (h : hexList octets = hexList others) :
    octets = others := by
  have htext := congrArg String.toList h
  have hempty : (hexList []).toList = ['[', ']'] := rfl
  -- A list that is not empty has a digit behind the bracket.
  have hne (octet : UInt8) (rest : List UInt8) :
      (hexList (octet :: rest)).toList.length ≠ (hexList []).toList.length := by
    rw [toList_hexList_cons, hempty]
    simp only [List.length_cons, List.length_append, List.length_nil, length_toList_hexOctet]
    omega
  cases octets with
  | nil =>
    cases others with
    | nil => rfl
    | cons other rest => exact absurd (congrArg List.length htext).symm (hne other rest)
  | cons octet rest =>
    cases others with
    | nil => exact absurd (congrArg List.length htext) (hne octet rest)
    | cons other rest' =>
      rw [toList_hexList_cons, toList_hexList_cons, List.cons.injEq] at htext
      obtain ⟨rfl, hrest⟩ := append_hexOctet_inj htext.2
      rw [behindCommas_injective (List.append_cancel_right hrest)]

end Sdci.Text
