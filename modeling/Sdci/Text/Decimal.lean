/-!
# Decimal fractions

A decimal fraction is an optional sign, digits with at most one point among them, and an optional
power of ten. At least one digit is needed. The words for infinity and for no number are read too.
-/

namespace Sdci.Text

/-- The value of a decimal fraction. -/
inductive Decimal
  /-- The value `digits * 10 ^ exponent`, or its negative. -/
  | finite (isNegative : Bool) (digits : Nat) (exponent : Int)
  | infinite (isNegative : Bool)
  | notANumber
deriving DecidableEq, Repr

namespace Decimal

/-- The value of a list of digits. -/
def ofDigits (digits : List Char) : Nat :=
  digits.foldl (fun value c => value * 10 + (c.toNat - '0'.toNat)) 0

/-- Drop a sign, and say whether it was a minus sign. -/
def sign : List Char → Bool × List Char
  | '-' :: rest => (true, rest)
  | '+' :: rest => (false, rest)
  | text => (false, text)

/-- The power of ten at the end of a fraction; none is one. -/
def exponent? : List Char → Option Int
  | [] => some 0
  | c :: rest =>
    let (isNegative, digits) := sign rest
    if c.toLower = 'e' ∧ digits ≠ [] ∧ digits.all Char.isDigit then
      some (if isNegative then -(ofDigits digits : Int) else ofDigits digits)
    else
      none

/-- The digits and the power of ten of a fraction without a sign. -/
def magnitude? (text : List Char) : Option (Nat × Int) :=
  let (whole, rest) := text.span Char.isDigit
  let (fraction, rest) := match rest with
    | '.' :: rest => rest.span Char.isDigit
    | rest => ([], rest)
  if whole ++ fraction = [] then none
  else (exponent? rest).map fun exponent =>
    (ofDigits (whole ++ fraction), exponent - fraction.length)

/-- Read a decimal fraction. -/
def read? (text : List Char) : Option Decimal :=
  let (isNegative, text) := sign text
  match magnitude? text with
  | some (digits, exponent) => some (.finite isNegative digits exponent)
  | none =>
    let name := String.ofList (text.map Char.toLower)
    if name = "inf" ∨ name = "infinity" then some (.infinite isNegative)
    else if name = "nan" then some .notANumber
    else none

/-- The greatest power of ten that a time in seconds may have. -/
def maxExponent : Int := 30

/-- Whether a fraction is a time in seconds that can be waited for. It is rounded to single
precision first: what is below half the least step rounds to nothing, and a time is less than
`2 ^ 64`, which the fractions from half a step below it round to. Great powers of ten are not worked
out. -/
def isTime : Decimal → Bool
  | finite isNegative digits exponent =>
    let places := (-exponent).toNat
    if digits = 0 then
      true
    else if maxExponent < exponent then
      false
    else if isNegative then
      digits.log2 + 151 ≤ places ||
        digits * Nat.pow 10 exponent.toNat * Nat.pow 2 150 ≤ Nat.pow 10 places
    else
      digits.log2 < places ||
        digits * Nat.pow 10 exponent.toNat < (Nat.pow 2 64 - Nat.pow 2 39) * Nat.pow 10 places
  | infinite _ | notANumber => false

/-- A time in seconds as whole milliseconds. What is no time counts as none. -/
def milliseconds : Decimal → Nat
  | finite isNegative digits exponent =>
    let places := (-(exponent + 3)).toNat
    if isNegative ∨ maxExponent < exponent ∨ digits.log2 < places then 0
    else digits * Nat.pow 10 (exponent + 3).toNat / Nat.pow 10 places
  | infinite _ | notANumber => 0

end Decimal

end Sdci.Text
