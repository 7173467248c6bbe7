import Sdci.Checksum
import Sdci.Geometry
import Sdci.OnRequestData

/-!
# Frames of the master

The master opens every exchange with a frame. Without process data a frame is a command and a
checksum; the type octet in between is checksummed but not sent. A cyclic frame holds the command,
the type octet, the process data, the on-request data and the checksum, and must match the
geometry of the session.
-/

namespace Sdci

/-- What the first octet of a frame asks of the device. -/
inductive Command
  /-- Wake the device up. -/
  | wakeUp
  /-- Ask for a reply and nothing else. -/
  | idle
  /-- Change to cyclic exchange. -/
  | operate
  /-- Ask for a pending event. -/
  | event
deriving DecidableEq, Repr

/-- The octet of a command. -/
def Command.octet : Command → UInt8
  | wakeUp => 0x95
  | idle => 0x00
  | operate => 0x0F
  | event => 0xA2

/-- Why a cyclic frame cannot be built. -/
inductive FrameError
  | notCyclic
  | processDataLength (length expected : Nat)
  | onRequestDataLength (length expected : Nat)
deriving DecidableEq, Repr

/-- The sentence shown to the user. -/
def FrameError.message : FrameError → String
  | notCyclic => "Type 0 sessions have no cyclic frames"
  | processDataLength length expected => s!"PD out has {length} bytes, expected {expected}"
  | onRequestDataLength length expected => s!"OD has {length} bytes, expected {expected}"

namespace Frame

/-- The longest frame of any geometry. -/
def maxLength : Nat := 2 + SequenceType.maxLength + 2 + 1

/-- The checksum of a frame without process data. -/
def plainChecksum (command typeOctet : UInt8) : UInt8 :=
  Checksum.of [command, typeOctet]

/-- The frame without process data. -/
def plain (command typeOctet : UInt8) : List UInt8 :=
  [command, plainChecksum command typeOctet]

/-- The checksum of a cyclic frame. -/
def cyclicChecksum (command typeOctet : UInt8) (processData : List UInt8) (od : OnRequestData) :
    UInt8 :=
  ((Checksum.start.absorbAll [command, typeOctet]).absorbAll processData).absorbAll od.toList
    |>.value

/-- The cyclic frame with the given fields. The geometry is checked for cyclic exchange, then for
the length of the process data, then for the width of the on-request data. -/
def cyclic (geometry : Geometry) (command typeOctet : UInt8) (processData : List UInt8)
    (od : OnRequestData) : Except FrameError (List UInt8) :=
  if !geometry.isCyclic then
    .error .notCyclic
  else if processData.length ≠ geometry.outputLength then
    .error (.processDataLength processData.length geometry.outputLength)
  else if od.width ≠ geometry.odWidth then
    .error (.onRequestDataLength od.width geometry.odWidth)
  else
    .ok (command :: typeOctet :: processData ++ od.toList
      ++ [cyclicChecksum command typeOctet processData od])

/-- The frame with every bit of its last octet inverted. A device has to drop it. -/
def damage : List UInt8 → List UInt8
  | [] => []
  | [checksum] => [checksum ^^^ 0xFF]
  | octet :: rest => octet :: damage rest

@[simp]
theorem length_plain (command typeOctet : UInt8) : (plain command typeOctet).length = 2 := rfl

/-- A cyclic frame has the length that its geometry says. -/
theorem length_cyclic {geometry : Geometry} {command typeOctet : UInt8} {processData : List UInt8}
    {od : OnRequestData} {frame : List UInt8}
    (h : cyclic geometry command typeOctet processData od = .ok frame) :
    frame.length = geometry.requestLength := by
  unfold cyclic at h
  split at h
  · cases h
  split at h
  · cases h
  split at h
  · cases h
  · next hcyclic hlength hwidth =>
    cases h
    simp only [Bool.not_eq_true', Bool.not_eq_false, ne_eq, Decidable.not_not] at *
    simp [Geometry.requestLength, hcyclic, hlength, hwidth]
    omega

@[simp]
theorem length_damage (frame : List UInt8) : (damage frame).length = frame.length := by
  fun_induction damage frame with
  | case1 | case2 => rfl
  | case3 octet rest _ ih => simp [ih]

theorem damage_append (body : List UInt8) (checksum : UInt8) :
    damage (body ++ [checksum]) = body ++ [checksum ^^^ 0xFF] := by
  induction body with
  | nil => rfl
  | cons octet rest ih =>
    cases rest with
    | nil => rfl
    | cons second rest => exact congrArg (octet :: ·) ih

/-- A cyclic frame ends in the checksum of all the octets before it. -/
theorem cyclicChecksum_eq (command typeOctet : UInt8) (processData : List UInt8)
    (od : OnRequestData) :
    cyclicChecksum command typeOctet processData od
      = Checksum.of (command :: typeOctet :: processData ++ od.toList) := by
  simp [cyclicChecksum, Checksum.of, Checksum.absorbAll_append]

end Frame

end Sdci
