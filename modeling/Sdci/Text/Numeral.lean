/-!
# Numerals with an upper bound

A numeral is an optional plus sign and one or more digits. It is read from the left, and the first
character that is no digit, or that takes the value above the bound, settles the error.
-/

namespace Sdci.Text

/-- Why a text is no numeral. -/
inductive NumeralError
  | empty
  | invalidDigit
  | tooLarge
deriving DecidableEq, Repr

namespace NumeralError

/-- The sentence shown to the user. -/
def message : NumeralError → String
  | empty => "cannot parse integer from empty string"
  | invalidDigit => "invalid digit found in string"
  | tooLarge => "number too large to fit in target type"

end NumeralError

namespace Numeral

/-- The largest value of an octet. -/
def maxOctet : Nat := 0xFF

/-- The largest value of two octets. -/
def maxWord : Nat := 0xFFFF

/-- The largest length or count. -/
def maxCount : Nat := 0xFFFFFFFFFFFFFFFF

/-- The value of an ASCII digit or letter in the given radix. -/
def digit? (radix : Nat) (c : Char) : Option Nat :=
  let value :=
    if '0' ≤ c ∧ c ≤ '9' then some (c.toNat - '0'.toNat)
    else if 'a' ≤ c ∧ c ≤ 'z' then some (c.toNat - 'a'.toNat + 10)
    else if 'A' ≤ c ∧ c ≤ 'Z' then some (c.toNat - 'A'.toNat + 10)
    else none
  value.filter (· < radix)

/-- Read digits behind those that gave `value`. -/
def readDigits (radix bound : Nat) (value : Nat) : List Char → Except NumeralError Nat
  | [] => .ok value
  | c :: rest =>
    match digit? radix c with
    | none => .error .invalidDigit
    | some d =>
      if value * radix + d ≤ bound then readDigits radix bound (value * radix + d) rest
      else .error .tooLarge

/-- Read a numeral in the given radix with a value up to `bound`. A sign alone is no numeral. -/
def read (radix bound : Nat) : List Char → Except NumeralError Nat
  | [] => .error .empty
  | ['+'] => .error .invalidDigit
  | '+' :: digits => readDigits radix bound 0 digits
  | digits => readDigits radix bound 0 digits

end Numeral

end Sdci.Text
