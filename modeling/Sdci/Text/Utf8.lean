/-!
# Reading octets as UTF-8

Octets that are no UTF-8 text are read with replacement characters: each maximal part that could
have begun a character, and each octet that could not, becomes one `U+FFFD`.
-/

namespace Sdci.Text.Utf8

/-- The character that stands for unreadable octets. -/
def replacement : Char := '\uFFFD'

/-- What a leading octet announces. -/
structure Lead where
  /-- How many octets follow. -/
  following : Nat
  /-- The bits that the leading octet contributes. -/
  bits : Nat
  /-- The least value of the next octet. -/
  low : UInt8 := 0x80
  /-- The greatest value of the next octet. -/
  high : UInt8 := 0xBF
deriving DecidableEq, Repr

/-- What an octet above the ASCII range announces, if a character may begin with it. The bounds on
the next octet leave out overlong forms, surrogates and what lies above the last code point. -/
def lead? (octet : UInt8) : Option Lead :=
  let value := octet.toNat
  if octet < 0xC2 then none
  else if octet < 0xE0 then some { following := 1, bits := value - 0xC0 }
  else if octet = 0xE0 then some { following := 2, bits := 0, low := 0xA0 }
  else if octet = 0xED then some { following := 2, bits := value - 0xE0, high := 0x9F }
  else if octet < 0xF0 then some { following := 2, bits := value - 0xE0 }
  else if octet = 0xF0 then some { following := 3, bits := 0, low := 0x90 }
  else if octet < 0xF4 then some { following := 3, bits := value - 0xF0 }
  else if octet = 0xF4 then some { following := 3, bits := 4, high := 0x8F }
  else none

/-- The longest run of up to `count` octets that may follow, the first between `low` and `high`. -/
def following (low high : UInt8) : (count : Nat) → List UInt8 → List UInt8
  | 0, _ | _, [] => []
  | count + 1, octet :: rest =>
    if low ≤ octet ∧ octet ≤ high then octet :: following 0x80 0xBF count rest else []

/-- The code point with the given upper bits, and six more from each octet. -/
def codePoint (bits : Nat) (octets : List UInt8) : Nat :=
  octets.foldl (fun value octet => value * 64 + octet.toNat % 64) bits

/-- The text that the octets spell. -/
def decode : List UInt8 → List Char
  | [] => []
  | octet :: rest =>
    if octet < 0x80 then
      Char.ofNat octet.toNat :: decode rest
    else
      match lead? octet with
      | none => replacement :: decode rest
      | some lead =>
        let run := following lead.low lead.high lead.following rest
        let c := if run.length = lead.following then Char.ofNat (codePoint lead.bits run)
          else replacement
        c :: decode (rest.drop run.length)
termination_by octets => octets.length
decreasing_by all_goals simp only [List.length_cons, List.length_drop]; omega

end Sdci.Text.Utf8
