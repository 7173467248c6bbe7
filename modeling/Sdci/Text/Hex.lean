/-!
# Hexadecimal text

Octets are shown with two capital digits, addresses with four.
-/

namespace Sdci.Text

/-- The capital hexadecimal digit of a value below sixteen. -/
def hexDigit (value : Nat) : Char :=
  if value < 10 then Char.ofNat ('0'.toNat + value) else Char.ofNat ('A'.toNat + (value - 10))

/-- An octet as two digits. -/
def hexOctet (octet : UInt8) : String :=
  .ofList [hexDigit (octet.toNat / 16), hexDigit (octet.toNat % 16)]

/-- Two octets as four digits, the upper octet first. -/
def hexWord (word : UInt16) : String :=
  hexOctet (word >>> 8).toUInt8 ++ hexOctet word.toUInt8

/-- A list of octets in square brackets, separated by commas. -/
def hexList (octets : List UInt8) : String :=
  "[" ++ ", ".intercalate (octets.map hexOctet) ++ "]"

end Sdci.Text
