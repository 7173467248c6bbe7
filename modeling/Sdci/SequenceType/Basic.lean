/-!
# M-sequence types

The M-sequence type of a session fixes the shape of its frames: how wide the on-request data (OD)
channel is, whether process data (PD) travels in cyclic frames, and whether the length of the
process data may change while the session runs.
-/

namespace Sdci

/-- The M-sequence types. The types ending in `V` have a variable process data length. -/
inductive SequenceType
  | type0
  | type11
  | type12
  | type1V
  | type21
  | type22
  | type2V
deriving DecidableEq, Repr, Inhabited

namespace SequenceType

/-- All types, in the order of their codes. -/
def all : List SequenceType :=
  [type0, type11, type12, type1V, type21, type22, type2V]

/-- The number of on-request data octets in a frame. -/
def odWidth : SequenceType → Nat
  | type0 | type11 | type12 | type1V => 1
  | type21 | type22 | type2V => 2

/-- The process data length may change during a session. -/
def isVariable : SequenceType → Bool
  | type1V | type2V => true
  | _ => false

/-- Process data is exchanged in cyclic frames. -/
def isCyclic : SequenceType → Bool
  | type0 => false
  | _ => true

/-- The numeric code of the type. -/
def code : SequenceType → Nat
  | type0 => 0
  | type11 => 11
  | type12 => 12
  | type1V => 13
  | type21 => 21
  | type22 => 22
  | type2V => 23

/-- The name of the type without the word that all names begin with. -/
def label : SequenceType → String
  | type0 => "0"
  | type11 => "1_1"
  | type12 => "1_2"
  | type1V => "1_V"
  | type21 => "2_1"
  | type22 => "2_2"
  | type2V => "2_V"

/-- The full name of the type. -/
def name (type : SequenceType) : String :=
  "TYPE_" ++ type.label

/-- The longest process data that one frame carries. -/
def maxLength : Nat := 32

/-- The process data lengths that a session may change to. -/
def VariableLength (length : Nat) : Prop :=
  2 ≤ length ∧ length ≤ maxLength

instance (length : Nat) : Decidable (VariableLength length) :=
  inferInstanceAs (Decidable (_ ∧ _))

/-- The process data lengths that a type allows: none for type 0, two to thirty-two octets for the
variable types, and up to thirty-two for the others. -/
def Allows : SequenceType → Nat → Prop
  | type0, length => length = 0
  | type1V, length | type2V, length => VariableLength length
  | type11, length | type12, length | type21, length | type22, length => length ≤ maxLength

instance : (type : SequenceType) → (length : Nat) → Decidable (type.Allows length)
  | type0, _ => inferInstanceAs (Decidable (_ = _))
  | type1V, length | type2V, length => inferInstanceAs (Decidable (VariableLength length))
  | type11, _ | type12, _ | type21, _ | type22, _ => inferInstanceAs (Decidable (_ ≤ _))

/-- No frame has room for more than thirty-two octets of process data. -/
theorem Allows.le_maxLength {type : SequenceType} {length : Nat} (h : type.Allows length) :
    length ≤ maxLength := by
  cases type with
  | type0 => exact h ▸ Nat.zero_le _
  | type1V | type2V => exact h.2
  | type11 | type12 | type21 | type22 => exact h

/-- The on-request data channel is one or two octets wide. -/
theorem odWidth_eq_one_or_two (type : SequenceType) : type.odWidth = 1 ∨ type.odWidth = 2 := by
  cases type <;> decide

end SequenceType

end Sdci
