import Mathlib.Data.List.Basic
import Sdci.Geometry
import Sdci.Proofs.Result
import Sdci.Proofs.SequenceType

/-!
# The texts that stand for a geometry

A geometry is written as a type, or as a type and both lengths with colons between them
(`Geometry.IsText`). What is written so is read as it is meant (`Geometry.renderings_read`): the
lengths are given to the type, and a field that stands for nothing is reported before that. But
texts of other forms are read too (`Geometry.fields_taken`): a second length that is missing counts
as zero, and nothing looks at a fourth field.
-/

namespace Sdci

open Text

/-! ### Fields -/

namespace Text

variable {text : String} {field : List Char} {fields rest : List (List Char)}

/-- The text with the given fields, and a colon between any two of them. -/
def ofFields (fields : List (List Char)) : String :=
  String.ofList ([':'].intercalate fields)

/-- The text consists of the fields. None of them has a colon in it, so it has no other ones. -/
def HasFields (text : String) (fields : List (List Char)) : Prop :=
  text = ofFields fields ∧ fields ≠ [] ∧ ∀ field ∈ fields, ':' ∉ field

/-- No piece of a split text has the character in it that the text was split at. -/
theorem notMem_of_mem_splitOn {list piece : List Char} {c : Char}
    (h : piece ∈ list.splitOn c) : c ∉ piece := by
  rw [List.splitOn_eq_splitOnP] at h
  induction list generalizing piece with
  | nil =>
    rw [List.splitOnP_nil, List.mem_singleton] at h
    simp [h]
  | cons first rest ih =>
    rw [List.splitOnP_cons_eq_if_modifyHead] at h
    obtain ⟨piece', pieces, hpieces⟩ :=
      List.exists_cons_of_ne_nil (List.splitOnP_ne_nil (· == c) rest)
    rw [hpieces] at h ih
    split at h
    · obtain rfl | hmem := List.mem_cons.mp h
      · simp
      · exact ih hmem
    · next hne =>
      obtain rfl | hmem := List.mem_cons.mp h
      · have hfirst : c ≠ first := fun heq => hne (beq_iff_eq.mpr heq.symm)
        exact List.not_mem_cons_of_ne_of_not_mem hfirst (ih (List.mem_cons_self ..))
      · exact ih (List.mem_cons_of_mem _ hmem)

/-- A text has the fields that it is split into at its colons. -/
theorem hasFields_iff : HasFields text fields ↔ text.toList.splitOn ':' = fields := by
  constructor
  · rintro ⟨rfl, hne, hfields⟩
    rw [ofFields, String.toList_ofList, List.splitOn_intercalate ':' hfields hne]
  · rintro rfl
    refine ⟨?_, List.splitOn_ne_nil _ _, fun field => notMem_of_mem_splitOn⟩
    rw [ofFields, List.intercalate_splitOn, String.ofList_toList]

/-- The first field ends at the first colon, whatever follows. -/
theorem head?_splitOn_ofFields (h : ':' ∉ field) :
    ((ofFields (field :: rest)).toList.splitOn ':').head? = some field := by
  have hsplit : field.splitOn ':' = [field] := by
    have hback := List.splitOn_intercalate ':' (List.forall_mem_singleton.mpr h) (by simp)
    rwa [List.intercalate_singleton] at hback
  rw [ofFields, String.toList_ofList]
  cases rest with
  | nil => rw [List.intercalate_singleton, hsplit, List.head?_cons]
  | cons second others =>
    rw [List.intercalate_cons_cons, List.append_assoc, List.singleton_append,
      List.splitOn_eq_splitOnP, List.splitOnP_append_cons _ _ (by simp),
      ← List.splitOn_eq_splitOnP, hsplit, List.singleton_append, List.head?_cons]

end Text

/-! ### Types and lengths -/

/-- No text of a type has a colon in it. -/
theorem SequenceType.IsText.colon_notMem {type : SequenceType} {text : String}
    (h : type.IsText text) : ':' ∉ text.toList := by
  obtain ⟨core, rest, ⟨front, back, htext, hfront, hback, -, -⟩, hrest, hmeaning⟩ := h
  have hblank : ¬isBlank ':' := by decide
  have hstem : ':' ∉ rest := by
    obtain hlabel | hspells := hmeaning
    · rw [append_eq_name_iff] at hlabel
      rw [hlabel]
      cases type <;> decide
    · intro hmem
      exact absurd (hspells.mem (by decide) hmem) (by decide)
  -- Neither the leading word nor what remains behind it has a colon.
  have hcore : ':' ∉ core := by
    intro hmem
    have hupper : ':' ∈ core.map Char.toUpper := List.mem_map_of_mem (f := Char.toUpper) hmem
    obtain hlong | ⟨-, hshort | ⟨-, hsame⟩⟩ := hrest
    · rw [hlong, List.mem_append] at hupper
      exact hupper.elim (by decide) hstem
    · rw [hshort, List.mem_append] at hupper
      exact hupper.elim (by decide) hstem
    · exact hstem (hsame ▸ hupper)
  rw [htext, List.mem_append, List.mem_append]
  rintro ((hmem | hmem) | hmem)
  · exact hblank (hfront _ hmem)
  · exact hcore hmem
  · exact hblank (hback _ hmem)

namespace Geometry

variable {text : String} {field : List Char} {length : Nat} {geometry : Geometry}

/-- The field stands for a length: a numeral for it with any blanks around. -/
def IsLength (field : List Char) (length : Nat) : Prop :=
  ∃ front numeral back, field = front ++ numeral ++ back ∧ (∀ c ∈ front, isBlank c) ∧
    (∀ c ∈ back, isBlank c) ∧ Numeral.Spells 10 numeral length ∧ length ≤ Numeral.maxCount

/-- No numeral has a blank or a colon in it. -/
theorem not_isBlank_of_spells {numeral : List Char} (h : Numeral.Spells 10 numeral length)
    {c : Char} (hmem : c ∈ numeral) : ¬isBlank c ∧ c ≠ ':' := by
  have hall : ('+' :: Numeral.hexDigits).all fun c => !isBlank c && c != ':' := by decide
  have hclear := List.all_eq_true.mp hall c (h.mem (by decide) hmem)
  rwa [Bool.and_eq_true, Bool.not_eq_true', bne_iff_ne, ← Bool.not_eq_true] at hclear

theorem IsLength.colon_notMem (h : IsLength field length) : ':' ∉ field := by
  obtain ⟨front, numeral, back, rfl, hfront, hback, hspells, -⟩ := h
  have hblank : ¬isBlank ':' := by decide
  rw [List.mem_append, List.mem_append]
  rintro ((hmem | hmem) | hmem)
  · exact hblank (hfront _ hmem)
  · exact (not_isBlank_of_spells hspells hmem).2 rfl
  · exact hblank (hback _ hmem)

/-- What is left of a field without the blanks around it is the numeral. -/
theorem isLength_iff :
    IsLength field length ↔
      Numeral.Spells 10 (trim field) length ∧ length ≤ Numeral.maxCount := by
  constructor
  · rintro ⟨front, numeral, back, hfield, hfront, hback, hspells, hle⟩
    have hpadded : IsPadded field numeral :=
      ⟨front, back, hfield, hfront, hback,
        fun c hc => (not_isBlank_of_spells hspells (List.mem_of_head? hc)).1,
        fun c hc => (not_isBlank_of_spells hspells (List.mem_of_getLast? hc)).1⟩
    rw [trim_eq_iff.mpr hpadded]
    exact ⟨hspells, hle⟩
  · rintro ⟨hspells, hle⟩
    obtain ⟨front, back, hfield, hfront, hback, -, -⟩ := trim_eq_iff.mp (Eq.refl (trim field))
    exact ⟨front, trim field, back, hfield, hfront, hback, hspells, hle⟩

/-- What a field stands for; one that is missing stands for no process data. -/
def StandsFor : Option (List Char) → Nat → Prop
  | none, length => length = 0
  | some field, length => IsLength field length

variable {type : SequenceType} {field? : Option (List Char)}

theorem lengthOfField_eq_ok_iff :
    lengthOfField type field? = .ok length ↔ StandsFor field? length := by
  cases field? with
  | none =>
    rw [lengthOfField, StandsFor, Except.ok.injEq]
    exact eq_comm
  | some field =>
    rw [StandsFor, isLength_iff, ← Numeral.read_eq_ok_iff (by decide) (by decide), lengthOfField]
    cases Numeral.read 10 Numeral.maxCount (trim field) <;> simp

/-- A field that stands for no length is reported without any lengths. -/
theorem lengthOfField_eq_error (h : ∀ length, ¬StandsFor field? length) :
    lengthOfField type field? = .error (.lengthNotAllowed type 0 0) := by
  cases hread : lengthOfField type field? with
  | ok length => exact absurd (lengthOfField_eq_ok_iff.mp hread) (h length)
  | error error =>
    cases field? with
    | none => cases hread
    | some field =>
      rw [lengthOfField] at hread
      split at hread
      · cases hread
      · exact hread.symm

theorem make_eq_error_iff {inputLength outputLength : Nat} :
    make type inputLength outputLength =
        .error (.lengthNotAllowed type inputLength outputLength) ↔
      ¬(type.Allows inputLength ∧ type.Allows outputLength) := by
  unfold make
  split
  · next hallowed =>
    refine iff_of_false (fun h => ?_) (not_not_intro hallowed)
    cases h
  · next hallowed => exact iff_of_true rfl hallowed

/-! ### Reading field by field -/

variable {typeField : List Char} {lengths rest : List (List Char)}

/-- The fields are looked at in their order, up to the third. -/
theorem ofText_eq (h : HasFields text (typeField :: lengths)) :
    ofText text =
      (SequenceType.ofText (String.ofList typeField) >>= fun type =>
        lengthOfField type lengths[0]? >>= fun inputLength =>
          lengthOfField type lengths[1]? >>= fun outputLength =>
            make type inputLength outputLength) := by
  rw [ofText, hasFields_iff.mp h]
  rfl

/-- A text is accepted exactly if its first field is a text of the type, and the second and the
third, as far as there are any, stand for its lengths. -/
theorem ofText_eq_ok_iff (h : HasFields text (typeField :: lengths)) :
    ofText text = .ok geometry ↔
      geometry.sequenceType.IsText (String.ofList typeField) ∧
        StandsFor lengths[0]? geometry.inputLength ∧
        StandsFor lengths[1]? geometry.outputLength := by
  simp only [ofText_eq h, bind_eq_ok, SequenceType.ofText_eq_ok_iff, lengthOfField_eq_ok_iff,
    make_eq_ok_iff]
  constructor
  · rintro ⟨_, htype, _, hinput, _, houtput, rfl, rfl, rfl⟩
    exact ⟨htype, hinput, houtput⟩
  · rintro ⟨htype, hinput, houtput⟩
    exact ⟨_, htype, _, hinput, _, houtput, rfl, rfl, rfl⟩

/-- A type and two lengths are put together. -/
theorem ofText_of_standsFor {inputLength outputLength : Nat}
    (h : HasFields text (typeField :: lengths)) (htype : type.IsText (String.ofList typeField))
    (hinput : StandsFor lengths[0]? inputLength) (houtput : StandsFor lengths[1]? outputLength) :
    ofText text = make type inputLength outputLength := by
  rw [ofText_eq h, SequenceType.ofText_eq_ok_iff.mpr htype, ok_bind,
    lengthOfField_eq_ok_iff.mpr hinput, ok_bind, lengthOfField_eq_ok_iff.mpr houtput, ok_bind]

/-- A field that stands for no length is reported with the type. -/
theorem ofText_of_not_standsFor (h : HasFields text (typeField :: lengths))
    (htype : type.IsText (String.ofList typeField))
    (hlength : (∀ length, ¬StandsFor lengths[0]? length) ∨
      ∀ length, ¬StandsFor lengths[1]? length) :
    ofText text = .error (.lengthNotAllowed type 0 0) := by
  rw [ofText_eq h, SequenceType.ofText_eq_ok_iff.mpr htype, ok_bind]
  by_cases hinput : ∃ length, StandsFor lengths[0]? length
  · obtain ⟨inputLength, hinput⟩ := hinput
    have houtput := hlength.resolve_left fun hnone => hnone inputLength hinput
    rw [lengthOfField_eq_ok_iff.mpr hinput, ok_bind, lengthOfField_eq_error houtput, error_bind]
  · rw [lengthOfField_eq_error (not_exists.mp hinput), error_bind]

/-- A first field that is no text of a type is reported, whatever follows. -/
theorem ofText_of_not_isText (hcolon : ':' ∉ typeField)
    (h : ∀ type : SequenceType, ¬type.IsText (String.ofList typeField)) :
    ofText (ofFields (typeField :: rest)) = .error .unknownSequenceType := by
  cases hread : SequenceType.ofText (String.ofList typeField) with
  | ok type => exact absurd (SequenceType.ofText_eq_ok_iff.mp hread) (h type)
  | error error =>
    rw [ofText, head?_splitOn_ofFields hcolon, Option.getD_some, hread,
      SequenceType.eq_of_ofText_eq_error hread]
    exact error_bind ..

/-! ### Texts of a geometry -/

variable {pieces : List (List Char)}

/-- The text is one of the geometry: a text of the type alone if there is no process data, or a text
of the type and both lengths. -/
def IsText (geometry : Geometry) (text : String) : Prop :=
  (geometry.sequenceType.IsText text ∧ geometry.inputLength = 0 ∧ geometry.outputLength = 0) ∨
    ∃ typeField input output, text = ofFields [typeField, input, output] ∧
      geometry.sequenceType.IsText (String.ofList typeField) ∧
      IsLength input geometry.inputLength ∧ IsLength output geometry.outputLength

theorem hasFields_singleton (h : ':' ∉ text.toList) : HasFields text [text.toList] := by
  refine ⟨?_, List.cons_ne_nil _ _, by simpa using h⟩
  rw [ofFields, List.intercalate_singleton, String.ofList_toList]

theorem hasFields_three {first second third : List Char} (hfirst : ':' ∉ first)
    (hsecond : ':' ∉ second) (hthird : ':' ∉ third) :
    HasFields (ofFields [first, second, third]) [first, second, third] := by
  refine ⟨rfl, List.cons_ne_nil _ _, ?_⟩
  simp only [List.forall_mem_cons]
  exact ⟨hfirst, hsecond, hthird, nofun⟩

/-- A type and two lengths are three fields. -/
theorem hasFields_of_isText {input output : List Char} {inputLength outputLength : Nat}
    (htype : type.IsText (String.ofList typeField)) (hinput : IsLength input inputLength)
    (houtput : IsLength output outputLength) :
    HasFields (ofFields [typeField, input, output]) [typeField, input, output] :=
  hasFields_three (by simpa using htype.colon_notMem) hinput.colon_notMem houtput.colon_notMem

/-- A text of a geometry has one field or three. -/
theorem IsText.fields (h : geometry.IsText text) (hfields : HasFields text pieces) :
    pieces.length = 1 ∨ pieces.length = 3 := by
  rw [hasFields_iff] at hfields
  obtain ⟨htype, -, -⟩ | ⟨typeField, input, output, rfl, htype, hinput, houtput⟩ := h
  · rw [← hfields, hasFields_iff.mp (hasFields_singleton htype.colon_notMem)]
    exact .inl rfl
  · rw [← hfields, hasFields_iff.mp (hasFields_of_isText htype hinput houtput)]
    exact .inr rfl

/-- Whatever is written as a geometry is read as that geometry. -/
theorem IsText.ofText (h : geometry.IsText text) : ofText text = .ok geometry := by
  obtain ⟨htype, hinput, houtput⟩ | ⟨typeField, input, output, rfl, htype, hinput, houtput⟩ := h
  · rw [ofText_eq_ok_iff (hasFields_singleton htype.colon_notMem), String.ofList_toList]
    exact ⟨htype, hinput, houtput⟩
  · rw [ofText_eq_ok_iff (hasFields_of_isText htype hinput houtput)]
    exact ⟨htype, hinput, houtput⟩

/-- An accepted text with one field or three is one of the geometry that it is read as. -/
theorem isText_of_ofText (hread : Geometry.ofText text = .ok geometry)
    (hfields : HasFields text pieces) (hlength : pieces.length = 1 ∨ pieces.length = 3) :
    geometry.IsText text := by
  obtain hone | hthree := hlength
  · obtain ⟨typeField, rfl⟩ := List.length_eq_one_iff.mp hone
    obtain ⟨htype, hinput, houtput⟩ := (ofText_eq_ok_iff hfields).mp hread
    refine .inl ⟨?_, hinput, houtput⟩
    rwa [hfields.1, ofFields, List.intercalate_singleton]
  · obtain ⟨typeField, input, output, rfl⟩ := List.length_eq_three.mp hthree
    obtain ⟨htype, hinput, houtput⟩ := (ofText_eq_ok_iff hfields).mp hread
    exact .inr ⟨typeField, input, output, hfields.1, htype, hinput, houtput⟩

/-- A type is written with its name and the lengths in decimal digits. -/
def render (geometry : Geometry) : String :=
  s!"{geometry.sequenceType.name}:{geometry.inputLength}:{geometry.outputLength}"

theorem isLength_toString (h : length ≤ Numeral.maxCount) :
    IsLength (toString length).toList length :=
  ⟨[], _, [], by simp, nofun, nofun, Numeral.spells_toString length, h⟩

theorem render_isText (geometry : Geometry) : geometry.IsText geometry.render := by
  have hmax : SequenceType.maxLength ≤ Numeral.maxCount := by decide
  have hname : geometry.sequenceType.name.toList.map Char.toUpper =
      geometry.sequenceType.name.toList := by
    cases geometry.sequenceType <;> decide
  have htype : geometry.sequenceType.IsText
      (String.ofList ([] ++ geometry.sequenceType.name.toList ++ [])) :=
    SequenceType.isText_of_name nofun nofun hname
  rw [List.nil_append, List.append_nil] at htype
  refine .inr ⟨geometry.sequenceType.name.toList, _, _, ?_, htype,
    isLength_toString (geometry.inputLength_le.trans hmax),
    isLength_toString (geometry.outputLength_le.trans hmax)⟩
  rw [← String.toList_inj, render, ofFields]
  simp [List.intercalate, toString]

/-- What is written as a type and two lengths, with any blanks around them, is given to the type: it
is the geometry with these lengths if the type allows them, and otherwise all three are reported. A
field that is no length is reported with the type, and a first field that is no type, before
anything else. -/
theorem renderings_read :
    (∀ (type : SequenceType) (typeField input output : List Char) (inputLength outputLength : Nat),
      type.IsText (String.ofList typeField) → IsLength input inputLength →
        IsLength output outputLength →
          ofText (ofFields [typeField, input, output]) = make type inputLength outputLength ∧
          (∀ geometry : Geometry,
            ofText (ofFields [typeField, input, output]) = .ok geometry ↔
              geometry.sequenceType = type ∧ geometry.inputLength = inputLength ∧
                geometry.outputLength = outputLength) ∧
          (ofText (ofFields [typeField, input, output]) =
              .error (.lengthNotAllowed type inputLength outputLength) ↔
            ¬(type.Allows inputLength ∧ type.Allows outputLength))) ∧
      (∀ (type : SequenceType) (typeField input output : List Char),
        type.IsText (String.ofList typeField) → ':' ∉ input → ':' ∉ output →
          (∀ length, ¬IsLength input length) ∨ (∀ length, ¬IsLength output length) →
            ofText (ofFields [typeField, input, output]) = .error (.lengthNotAllowed type 0 0)) ∧
      (∀ (typeField : List Char) (rest : List (List Char)), ':' ∉ typeField →
        (∀ type : SequenceType, ¬type.IsText (String.ofList typeField)) →
          ofText (ofFields (typeField :: rest)) = .error .unknownSequenceType) ∧
      ∀ geometry : Geometry, ofText geometry.render = .ok geometry := by
  refine ⟨?_, ?_, fun typeField rest => ofText_of_not_isText,
    fun geometry => geometry.render_isText.ofText⟩
  · intro type typeField input output inputLength outputLength htype hinput houtput
    have hread : ofText (ofFields [typeField, input, output]) =
        make type inputLength outputLength :=
      ofText_of_standsFor (hasFields_of_isText htype hinput houtput) htype hinput houtput
    rw [hread]
    exact ⟨rfl, fun geometry => make_eq_ok_iff, make_eq_error_iff⟩
  · intro type typeField input output htype hinput houtput hlength
    exact ofText_of_not_standsFor
      (hasFields_three (by simpa using htype.colon_notMem) hinput houtput) htype hlength

/-- Blanks, a plus sign and zeros in one rendering, and a length out of range in another. -/
theorem renderings_read_of_blanks :
    ofText " type1_v :+02:\t0032\u3000" = make .type1V 2 32 ∧
      ofText "1_V:18446744073709551616:x" = .error (.lengthNotAllowed .type1V 0 0) ∧
      ofText "1_3:18446744073709551616" = .error .unknownSequenceType := by
  obtain ⟨hread, hlengths, htypes, -⟩ := renderings_read
  have htype : SequenceType.type1V.IsText " type1_v " :=
    SequenceType.ofText_eq_ok_iff.mp (by decide)
  have hbare : SequenceType.type1V.IsText "1_V" := SequenceType.ofText_eq_ok_iff.mp (by decide)
  have hlength {field : List Char} {length : Nat}
      (h : lengthOfField .type1V (some field) = .ok length) : IsLength field length :=
    lengthOfField_eq_ok_iff.mp h
  have hnone (length : Nat) : ¬IsLength "18446744073709551616".toList length := fun h => by
    have hread : lengthOfField .type1V (some "18446744073709551616".toList) = .ok length :=
      lengthOfField_eq_ok_iff.mpr h
    cases hread
  refine ⟨?_, ?_, ?_⟩
  · exact (hread .type1V " type1_v ".toList "+02".toList "\t0032\u3000".toList 2 32 htype
      (hlength (by decide)) (hlength (by decide))).1
  · exact hlengths .type1V "1_V".toList "18446744073709551616".toList "x".toList hbare
      (by decide) (by decide) (.inl hnone)
  · exact htypes "1_3".toList ["18446744073709551616".toList] (by decide) fun type h => by
      cases SequenceType.ofText_eq_ok_iff.mpr h

/-- The fields of a text are looked at in their order, up to the third: the first must be a text of
the type, and the others stand for the lengths. One that is missing is as good as a zero, and one
behind the third does not count. So the texts of a geometry are the accepted ones that have one
field or three. -/
theorem fields_taken (text : String) :
    ∃ typeField lengths, HasFields text (typeField :: lengths) ∧
      (∀ geometry : Geometry, ofText text = .ok geometry ↔
        geometry.sequenceType.IsText (String.ofList typeField) ∧
          StandsFor lengths[0]? geometry.inputLength ∧
          StandsFor lengths[1]? geometry.outputLength) ∧
      (∀ geometry : Geometry, geometry.IsText text ↔
        ofText text = .ok geometry ∧ (lengths.length = 0 ∨ lengths.length = 2)) ∧
      (∀ input, lengths = [input] → ofText text = ofText (ofFields [typeField, input, ['0']])) ∧
      ∀ input output others, lengths = input :: output :: others →
        ofText text = ofText (ofFields [typeField, input, output]) := by
  obtain ⟨typeField, lengths, hsplit⟩ :=
    List.exists_cons_of_ne_nil (List.splitOn_ne_nil ':' text.toList)
  have h : HasFields text (typeField :: lengths) := hasFields_iff.mpr hsplit
  refine ⟨typeField, lengths, h, fun geometry => ofText_eq_ok_iff h, fun geometry => ?_, ?_, ?_⟩
  · constructor
    · intro htext
      exact ⟨htext.ofText, by simpa using htext.fields h⟩
    · rintro ⟨hread, hlength⟩
      exact isText_of_ofText hread h (by simpa using hlength)
  · rintro input rfl
    have hcolon : ∀ field ∈ [typeField, input], ':' ∉ field := h.2.2
    have hfields : HasFields (ofFields [typeField, input, ['0']]) [typeField, input, ['0']] :=
      hasFields_three (hcolon typeField (by simp)) (hcolon input (by simp)) (by decide)
    have hzero (type : SequenceType) : lengthOfField type (some ['0']) = lengthOfField type none :=
      rfl
    rw [ofText_eq h, ofText_eq hfields]
    simp only [List.getElem?_cons_zero, List.getElem?_cons_succ, List.getElem?_nil, hzero]
  · rintro input output others rfl
    have hcolon : ∀ field ∈ typeField :: input :: output :: others, ':' ∉ field := h.2.2
    have hfields := hasFields_three (hcolon typeField (by simp)) (hcolon input (by simp))
      (hcolon output (by simp))
    rw [ofText_eq h, ofText_eq hfields]
    rfl

/-- A type with one length, and one with two lengths and something else behind them. -/
theorem fields_taken_of_two :
    ofText "1_2:2" = ofText "1_2:2:0" ∧ ofText "1_2:2:2:x" = ofText "1_2:2:2" := by
  constructor
  · obtain ⟨typeField, lengths, hfields, -, -, hone, -⟩ := fields_taken "1_2:2"
    have hsplit : "1_2:2".toList.splitOn ':' = ["1_2".toList, "2".toList] := by decide
    obtain ⟨rfl, rfl⟩ := List.cons.inj ((hasFields_iff.mp hfields).symm.trans hsplit)
    have htext : ofFields ["1_2".toList, "2".toList, ['0']] = "1_2:2:0" := by decide
    rw [hone _ rfl, htext]
  · obtain ⟨typeField, lengths, hfields, -, -, -, hthree⟩ := fields_taken "1_2:2:2:x"
    have hsplit : "1_2:2:2:x".toList.splitOn ':' =
        ["1_2".toList, "2".toList, "2".toList, "x".toList] := by decide
    obtain ⟨rfl, rfl⟩ := List.cons.inj ((hasFields_iff.mp hfields).symm.trans hsplit)
    have htext : ofFields ["1_2".toList, "2".toList, "2".toList] = "1_2:2:2" := by decide
    rw [hthree _ _ _ rfl, htext]

/-- A text with a field too many is accepted. -/
theorem fourth_field_accepted :
    ¬∀ (text : String) (geometry : Geometry),
      ofText text = .ok geometry → geometry.IsText text := by
  intro h
  have htext : IsText ⟨.type12, 2, 2, by decide, by decide⟩ "1_2:2:2:x" := h _ _ (by decide)
  have hfields : HasFields "1_2:2:2:x" ["1_2".toList, "2".toList, "2".toList, "x".toList] :=
    hasFields_iff.mpr (by decide)
  obtain hone | hthree := htext.fields hfields
  · cases hone
  · cases hthree

end Geometry

end Sdci
