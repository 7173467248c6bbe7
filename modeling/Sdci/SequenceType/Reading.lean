import Sdci.SettingError
import Sdci.Text.Blank
import Sdci.Text.Numeral

/-!
# Reading M-sequence types

A type is given by its code, or by a text: its name with or without the leading word, or the code
as a decimal numeral. Letter case and blanks at the ends of a text do not matter.
-/

namespace Sdci.SequenceType

open Text

/-- The type with the given code. -/
def ofCode (code : Nat) : Except SettingError SequenceType :=
  match all.find? (·.code == code) with
  | some type => .ok type
  | none => .error .unknownSequenceType

/-- A code stands for its type. -/
@[simp]
theorem ofCode_code (type : SequenceType) : ofCode type.code = .ok type := by
  cases type <;> rfl

/-- The type with the given label. -/
def ofLabel? (label : List Char) : Option SequenceType :=
  all.find? (·.label.toList == label)

/-- A label stands for its type. -/
@[simp]
theorem ofLabel?_label (type : SequenceType) : ofLabel? type.label.toList = some type := by
  cases type <;> decide

/-- A normalized text without the leading word of a type's name. -/
def stem : List Char → List Char
  | 'T' :: 'Y' :: 'P' :: 'E' :: '_' :: rest => rest
  | 'T' :: 'Y' :: 'P' :: 'E' :: rest => rest
  | text => text

/-- The type that a label or a numeral stands for. -/
def ofStem (text : List Char) : Except SettingError SequenceType :=
  match ofLabel? text with
  | some type => .ok type
  | none =>
    match Numeral.read 10 Numeral.maxOctet text with
    | .ok code => ofCode code
    | .error _ => .error .unknownSequenceType

/-- The type that a text stands for. -/
def ofText (text : String) : Except SettingError SequenceType :=
  ofStem (stem (normalize text))

end Sdci.SequenceType
