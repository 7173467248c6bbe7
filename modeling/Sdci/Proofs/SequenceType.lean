import Sdci.Proofs.Text.Blank
import Sdci.Proofs.Text.Numeral
import Sdci.SequenceType.Reading

/-!
# The texts that stand for a sequence type

Between blanks, and in letters of either case, a type is written as its name, with or without the
leading word, or as its code in decimal digits, with any zeros and a plus sign before them
(`SequenceType.IsText`). A text is accepted exactly if it stands for a type, and then it stands for
no other (`SequenceType.texts_accepted`).
-/

namespace Sdci.SequenceType

open Text

variable {text rest : List Char} {type other : SequenceType}

/-! ### The leading word -/

/-- What remains of a text when one leading `TYPE_` is removed or, failing that, one leading `TYPE`.
-/
def Remains (text rest : List Char) : Prop :=
  text = "TYPE_".toList ++ rest ∨
    ¬"TYPE_".toList <+: text ∧
      (text = "TYPE".toList ++ rest ∨ ¬"TYPE".toList <+: text ∧ text = rest)

theorem stem_eq_iff : stem text = rest ↔ Remains text rest := by
  rw [Remains, show "TYPE_".toList = ['T', 'Y', 'P', 'E', '_'] from rfl,
    show "TYPE".toList = ['T', 'Y', 'P', 'E'] from rfl]
  fun_cases stem text with
  | case1 rest' => simp
  | case2 rest' hne =>
    have hnot : ¬['_'] <+: rest' := fun ⟨others, heq⟩ => hne others heq.symm
    simp only [List.cons_append, List.nil_append, List.cons.injEq, true_and, List.cons_prefix_cons,
      List.nil_prefix, hnot, not_true_eq_false, not_false_eq_true, false_and, or_false]
    exact ⟨.inr, fun h => h.resolve_left fun heq => hne rest heq⟩
  | case3 _ hlong hshort =>
    have hnot : ¬['T', 'Y', 'P', 'E'] <+: text := fun ⟨others, heq⟩ => hshort others heq.symm
    have hnot' : ¬['T', 'Y', 'P', 'E', '_'] <+: text := fun ⟨others, heq⟩ => hlong others heq.symm
    constructor
    · exact fun h => .inr ⟨hnot', .inr ⟨hnot, h⟩⟩
    · rintro (h | ⟨-, h | ⟨-, h⟩⟩)
      · exact absurd h (hlong rest)
      · exact absurd h (hshort rest)
      · exact h

/-! ### Types -/

theorem label_injective (h : type.label.toList = other.label.toList) : type = other := by
  have hlabel := ofLabel?_label type
  rw [h, ofLabel?_label] at hlabel
  exact (Option.some.inj hlabel).symm

theorem ofLabel?_eq_some_iff : ofLabel? rest = some type ↔ rest = type.label.toList := by
  constructor
  · intro h
    have hfound := List.find?_some (p := fun type : SequenceType => type.label.toList == rest) h
    exact (beq_iff_eq.mp hfound).symm
  · rintro rfl
    exact ofLabel?_label type

theorem ofCode_eq_ok_iff {code : Nat} : ofCode code = .ok type ↔ code = type.code := by
  constructor
  · intro h
    unfold ofCode at h
    split at h
    · next found hfind =>
      cases h
      have hfound := List.find?_some (p := fun type : SequenceType => type.code == code) hfind
      exact (beq_iff_eq.mp hfound).symm
    · cases h
  · rintro rfl
    exact ofCode_code type

theorem code_injective (h : type.code = other.code) : type = other :=
  Except.ok.inj ((ofCode_eq_ok_iff.mpr h.symm).symm.trans (ofCode_code other))

theorem code_le_maxOctet (type : SequenceType) : type.code ≤ Numeral.maxOctet := by
  cases type <;> decide

/-- The only label that is a numeral is the one of type 0, and it is the code too. -/
theorem eq_of_spells_label (h : Numeral.Spells 10 type.label.toList other.code) : type = other := by
  have hread : Numeral.read 10 Numeral.maxOctet type.label.toList = .ok other.code :=
    (Numeral.read_eq_ok_iff (by decide) (by decide)).mpr ⟨h, other.code_le_maxOctet⟩
  cases type with
  | type0 =>
    have hcode : type0.code = other.code := Except.ok.inj hread
    exact code_injective hcode
  | type11 | type12 | type1V | type21 | type22 | type2V => cases hread

/-- A label or a numeral is read as the type that it is the label or spells the code of. -/
theorem ofStem_eq_ok_iff :
    ofStem rest = .ok type ↔
      rest = type.label.toList ∨ Numeral.Spells 10 rest type.code := by
  unfold ofStem
  cases hlabel : ofLabel? rest with
  | some found =>
    obtain rfl := ofLabel?_eq_some_iff.mp hlabel
    simp only [Except.ok.injEq]
    constructor
    · rintro rfl
      exact .inl rfl
    · rintro (h | h)
      · exact label_injective h
      · exact eq_of_spells_label h
  | none =>
    have hne : rest ≠ type.label.toList := fun h =>
      nomatch hlabel.symm.trans (ofLabel?_eq_some_iff.mpr h)
    rw [or_iff_right hne]
    cases hread : Numeral.read 10 Numeral.maxOctet rest with
    | ok code =>
      obtain ⟨hspells, hle⟩ := (Numeral.read_eq_ok_iff (by decide) (by decide)).mp hread
      simp only [ofCode_eq_ok_iff]
      constructor
      · rintro rfl
        exact hspells
      · intro h
        exact hspells.unique (by decide) (by decide) h
    | error e =>
      refine ⟨nofun, fun h => ?_⟩
      cases hread.symm.trans ((Numeral.read_eq_ok_iff (by decide) (by decide)).mpr
        ⟨h, type.code_le_maxOctet⟩)

/-- The text is one of the type: between blanks, and in letters of either case, the name with or
without the leading word, or a numeral for the code. -/
def IsText (type : SequenceType) (text : String) : Prop :=
  ∃ core rest, IsPadded text.toList core ∧ Remains (core.map Char.toUpper) rest ∧
    ("TYPE_".toList ++ rest = type.name.toList ∨ Numeral.Spells 10 rest type.code)

variable {input : String}

theorem append_eq_name_iff :
    "TYPE_".toList ++ rest = type.name.toList ↔ rest = type.label.toList := by
  rw [name, String.toList_append]
  exact List.append_right_inj _

/-- A text is read as the type that it is a text of. -/
theorem ofText_eq_ok_iff : ofText input = .ok type ↔ type.IsText input := by
  have hread (rest : List Char) : ofStem rest = .ok type ↔
      "TYPE_".toList ++ rest = type.name.toList ∨ Numeral.Spells 10 rest type.code := by
    rw [ofStem_eq_ok_iff, append_eq_name_iff]
  constructor
  · intro h
    exact ⟨trim input.toList, _, trim_eq_iff.mp rfl, stem_eq_iff.mp rfl, (hread _).mp h⟩
  · rintro ⟨core, rest, hcore, hrest, h⟩
    rw [ofText, Text.normalize, trim_eq_iff.mpr hcore, stem_eq_iff.mpr hrest]
    exact (hread rest).mpr h

/-- There is one way only for a text to be rejected. -/
theorem eq_of_ofText_eq_error {error : SettingError} (h : ofText input = .error error) :
    error = .unknownSequenceType := by
  unfold ofText ofStem at h
  split at h
  · cases h
  split at h
  · unfold ofCode at h
    split at h <;> cases h
    rfl
  · cases h
    rfl

/-- The name of a type is a text of it, in letters of either case and between blanks. -/
theorem isText_of_name {front written back : List Char} (hfront : ∀ c ∈ front, isBlank c)
    (hback : ∀ c ∈ back, isBlank c) (hname : written.map Char.toUpper = type.name.toList) :
    type.IsText (String.ofList (front ++ written ++ back)) := by
  have hnot : ∀ c ∈ written, ¬isBlank c := by
    intro c hmem hblank
    have hupper : c ∈ type.name.toList := by
      rw [← hname, ← toUpper_of_isBlank hblank]
      exact List.mem_map_of_mem hmem
    have hnone : type.name.toList.all fun c => !isBlank c := by
      cases type <;> decide
    have hclear := List.all_eq_true.mp hnone c hupper
    rw [hblank] at hclear
    cases hclear
  refine ⟨written, type.label.toList, ⟨front, back, String.toList_ofList, hfront, hback,
    fun c hc => hnot c (List.mem_of_head? hc), fun c hc => hnot c (List.mem_of_getLast? hc)⟩,
    .inl ?_, .inl (append_eq_name_iff.mpr rfl)⟩
  rw [hname, append_eq_name_iff.mpr rfl]

/-- A text is accepted exactly if it is one of a type, and as no other type. All other texts are
rejected as unknown. The full name is a text of its type, whatever the case of its letters and the
blanks around it. -/
theorem texts_accepted :
    (∀ (input : String) (type : SequenceType), ofText input = .ok type ↔ type.IsText input) ∧
      (∀ input : String, ofText input = .error .unknownSequenceType ↔
        ∀ type : SequenceType, ¬type.IsText input) ∧
      (∀ (input : String) (type other : SequenceType),
        type.IsText input → other.IsText input → type = other) ∧
      ∀ (type : SequenceType) (front written back : List Char), (∀ c ∈ front, isBlank c) →
        (∀ c ∈ back, isBlank c) → written.map Char.toUpper = type.name.toList →
          ofText (String.ofList (front ++ written ++ back)) = .ok type := by
  refine ⟨fun input type => ofText_eq_ok_iff, fun input => ?_, fun input type other h h' => ?_,
    fun type front written back hfront hback hname =>
      ofText_eq_ok_iff.mpr (isText_of_name hfront hback hname)⟩
  · constructor
    · intro h type htext
      cases h.symm.trans (ofText_eq_ok_iff.mpr htext)
    · intro h
      cases hread : ofText input with
      | ok type => exact absurd (ofText_eq_ok_iff.mp hread) (h type)
      | error error => rw [eq_of_ofText_eq_error hread]
  · exact Except.ok.inj ((ofText_eq_ok_iff.mpr h).symm.trans (ofText_eq_ok_iff.mpr h'))

/-- A code behind the leading word, with zeros and a plus sign, and a name in mixed letters. -/
theorem texts_accepted_of_zeros :
    type12.IsText " tYpE+00012\u3000" ∧ (∀ other : SequenceType,
      other.IsText " tYpE+00012\u3000" → other = type12) ∧
      ofText (String.ofList (['\t', '\n'] ++ "tYpE_2_v".toList ++ ['\u00A0'])) = .ok type2V := by
  obtain ⟨haccepted, -, hunique, hnames⟩ := texts_accepted
  have hcode : type12.IsText " tYpE+00012\u3000" := (haccepted _ _).mp (by decide +kernel)
  refine ⟨hcode, fun other h => hunique _ _ _ h hcode, ?_⟩
  exact hnames type2V _ _ _ (List.all_eq_true.mp (by decide)) (List.all_eq_true.mp (by decide))
    (by decide)

end Sdci.SequenceType
