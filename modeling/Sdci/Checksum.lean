/-!
# The six-bit checksum of an M-sequence

Every frame and every reply ends in a checksum octet. It is computed octet by octet, most
significant bit first, in an eight-bit register whose upper six bits hold the remainder modulo
`x^6 + x^4 + x^3 + x^2 + 1`. Absorbing a list of octets is a left fold, so the octets may come in
any number of pieces (`Checksum.absorbAll_append`). The upper two bits of a checksum octet are zero
(`Checksum.value_le`).
-/

namespace Sdci

/-- The checksum of the octets seen so far. -/
structure Checksum where
  /-- The remainder, two places up. -/
  register : UInt8
deriving DecidableEq, Repr

namespace Checksum

/-- What the register holds before the first octet. -/
def seed : UInt8 := 0x15

/-- The generator without its leading term, aligned with the upper six bits of the register. -/
def generator : UInt8 := (0x1D : UInt8) <<< 2

/-- The checksum of no octets. -/
def start : Checksum := ⟨seed⟩

/-- One bit leaves the register at the top; when it is set, the generator is subtracted. -/
def shift (register : UInt8) : UInt8 :=
  if register &&& 0x80 = 0 then register <<< 1 else register <<< 1 ^^^ generator

/-- Take in one octet. -/
def absorb (sum : Checksum) (octet : UInt8) : Checksum :=
  ⟨Nat.repeat shift 8 (sum.register ^^^ octet)⟩

/-- Take in several octets, in order. -/
def absorbAll (sum : Checksum) (octets : List UInt8) : Checksum :=
  octets.foldl absorb sum

/-- The checksum octet: the six bits of the remainder, below two zero bits. -/
def value (sum : Checksum) : UInt8 :=
  sum.register >>> 2 &&& 0x3F

/-- The checksum octet of a list of octets. -/
def of (octets : List UInt8) : UInt8 :=
  (start.absorbAll octets).value

/-- The octets with their checksum behind them, as a device sends a reply. -/
def attach (body : List UInt8) : List UInt8 :=
  body ++ [of body]

variable (sum : Checksum)

@[simp]
theorem absorbAll_nil : sum.absorbAll [] = sum := rfl

@[simp]
theorem absorbAll_cons (octet : UInt8) (octets : List UInt8) :
    sum.absorbAll (octet :: octets) = (sum.absorb octet).absorbAll octets := rfl

/-- Absorbing two pieces one after the other is absorbing their concatenation. -/
theorem absorbAll_append (xs ys : List UInt8) :
    sum.absorbAll (xs ++ ys) = (sum.absorbAll xs).absorbAll ys :=
  List.foldl_append

/-- A checksum has six bits. -/
theorem value_le : sum.value ≤ 0x3F := by
  rw [UInt8.le_iff_toNat_le, value, UInt8.toNat_and]
  exact Nat.and_le_right

end Checksum

end Sdci
