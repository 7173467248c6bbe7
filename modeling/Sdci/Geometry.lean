import Sdci.SequenceType.Reading

/-!
# The frame geometry of a session

A geometry is an M-sequence type with a length for the process data in each direction. The type
allows both lengths, so every frame of every geometry fits the line's limits. The lengths of the
frames themselves follow: `Geometry.requestLength` for those of the master, and
`Geometry.responseLength` for the replies.
-/

namespace Sdci

open Text

/-- An M-sequence type with process data lengths that it allows. -/
structure Geometry where
  sequenceType : SequenceType
  /-- Octets of process data from the device. -/
  inputLength : Nat
  /-- Octets of process data to the device. -/
  outputLength : Nat
  input_allowed : sequenceType.Allows inputLength
  output_allowed : sequenceType.Allows outputLength
deriving DecidableEq, Repr

namespace Geometry

/-- The geometry without process data. -/
def type0 : Geometry := ⟨.type0, 0, 0, rfl, rfl⟩

instance : Inhabited Geometry := ⟨type0⟩

/-- The geometry of a type with the given lengths, if the type allows them. -/
def make (type : SequenceType) (inputLength outputLength : Nat) : Except SettingError Geometry :=
  if h : type.Allows inputLength ∧ type.Allows outputLength then
    .ok ⟨type, inputLength, outputLength, h.1, h.2⟩
  else
    .error (.lengthNotAllowed type inputLength outputLength)

/-- A geometry is made exactly of lengths that its type allows. -/
theorem make_eq_ok_iff {type : SequenceType} {inputLength outputLength : Nat}
    {geometry : Geometry} :
    make type inputLength outputLength = .ok geometry ↔
      geometry.sequenceType = type ∧ geometry.inputLength = inputLength ∧
        geometry.outputLength = outputLength := by
  unfold make
  constructor
  · intro h
    split at h
    · cases h
      exact ⟨rfl, rfl, rfl⟩
    · cases h
  · rintro ⟨rfl, rfl, rfl⟩
    exact dif_pos ⟨geometry.input_allowed, geometry.output_allowed⟩

variable (geometry : Geometry)

theorem inputLength_le : geometry.inputLength ≤ SequenceType.maxLength :=
  geometry.input_allowed.le_maxLength

theorem outputLength_le : geometry.outputLength ≤ SequenceType.maxLength :=
  geometry.output_allowed.le_maxLength

/-- The same type with other lengths. Lengths out of the range of the variable types are rejected
first, and then any change to a type of fixed length. -/
def resize (inputLength outputLength : Nat) : Except SettingError Geometry :=
  if ¬(SequenceType.VariableLength inputLength ∧ SequenceType.VariableLength outputLength) then
    .error (.lengthNotAllowed geometry.sequenceType inputLength outputLength)
  else if !geometry.sequenceType.isVariable then
    .error (.lengthFixed geometry.sequenceType)
  else
    make geometry.sequenceType inputLength outputLength

/-- The number of on-request data octets in a frame. -/
def odWidth : Nat := geometry.sequenceType.odWidth

/-- Process data is exchanged in cyclic frames. -/
def isCyclic : Bool := geometry.sequenceType.isCyclic

/-- The length of the master's frame: command, type octet, process data, on-request data and
checksum, or command and checksum alone for type 0. -/
def requestLength : Nat :=
  if geometry.isCyclic then 2 + geometry.outputLength + geometry.odWidth + 1 else 2

/-- The length of the device's reply: status, process data, on-request data and checksum, or
on-request data and checksum alone for type 0. -/
def responseLength : Nat :=
  if geometry.isCyclic then 1 + geometry.inputLength + geometry.odWidth + 1 else 2

/-- The length in a field of a geometry's text; a missing field is a length of zero. -/
def lengthOfField (type : SequenceType) : Option (List Char) → Except SettingError Nat
  | none => .ok 0
  | some field =>
    match Numeral.read 10 Numeral.maxCount (trim field) with
    | .ok length => .ok length
    | .error _ => .error (.lengthNotAllowed type 0 0)

/-- Read a geometry from colon separated fields: the type, the input length and the output
length. Fields behind the third are not looked at. -/
def ofText (text : String) : Except SettingError Geometry := do
  let fields := text.toList.splitOn ':'
  let type ← SequenceType.ofText (String.ofList (fields.head?.getD []))
  let inputLength ← lengthOfField type fields[1]?
  let outputLength ← lengthOfField type fields[2]?
  make type inputLength outputLength

end Geometry

end Sdci
