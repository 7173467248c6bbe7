/-!
# Control octets of a parameter transfer

Every octet of a parameter transfer travels behind a control octet, which marks the first and the
last octet and counts modulo sixty-four.
-/

namespace Sdci.Isdu

/-- A control octet. -/
structure ControlByte where
  octet : UInt8
deriving DecidableEq, Repr

namespace ControlByte

/-- The bit that marks the first octet. -/
def startBit : UInt8 := 0x80

/-- The bit that marks the last octet. -/
def lastBit : UInt8 := 0x40

/-- The bits of the sequence number. -/
def sequenceMask : UInt8 := 0x3F

/-- The control octet with the given marks. The sequence number is taken modulo sixty-four. -/
def make (isStart isLast : Bool) (sequence : UInt8) : ControlByte :=
  ⟨sequence &&& sequenceMask ||| (if isStart then startBit else 0)
    ||| (if isLast then lastBit else 0)⟩

variable (control : ControlByte)

/-- The octet behind it is the first one. -/
def isStart : Bool := control.octet &&& startBit ≠ 0

/-- The octet behind it is the last one. -/
def isLast : Bool := control.octet &&& lastBit ≠ 0

/-- The sequence number. -/
def sequence : UInt8 := control.octet &&& sequenceMask

end ControlByte

end Sdci.Isdu
