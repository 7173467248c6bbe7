import Sdci.Isdu.Collector
import Sdci.Isdu.Segments
import Sdci.Master.Exchange
import Sdci.Transport

/-!
# A simulated device

A device answers every frame whose checksum is right. It assembles parameter requests from the first
on-request data octets of the frames, keeps a map of parameters for them, and gives one octet of its
answers back in each reply. Its events wait in a queue. `Device.Line` is the line to a device that
answers at once.
-/

namespace Sdci

open Isdu

namespace Device

/-- What the next on-request data octet is taken for. -/
inductive Intake
  /-- The control octet that begins a request, if it has the start mark. -/
  | idle
  /-- A service octet, which may be the last one. -/
  | data (isLast : Bool)
  /-- A control octet. -/
  | control
deriving DecidableEq, Repr

/-- The index and the subindex of a parameter. -/
abbrev Key := UInt16 × UInt8

/-- The values of the parameters that a device knows. -/
abbrev Parameters := Key → Option (List UInt8)

end Device

/-- A device at the end of a line. -/
structure Device where
  geometry : Geometry
  /-- The process data for the master, made to fit each reply. -/
  processData : List UInt8
  /-- The events still to be reported, the next one first. -/
  events : List UInt16
  parameters : Device.Parameters
  /-- The zeros in front of each answer. -/
  busyPolls : Nat
  intake : Device.Intake
  /-- The service octets of the request so far. -/
  request : List UInt8
  /-- The octets still to be given back, the next one first. -/
  outbound : List UInt8

namespace Device

/-- A device that has seen no frame yet. -/
def new (geometry : Geometry) (processData : List UInt8) (events : List UInt16)
    (parameters : Parameters) (busyPolls : Nat) : Device :=
  ⟨geometry, processData, events, parameters, busyPolls, .idle, [], []⟩

/-- The number of two octets, the upper one first. -/
def word (upper lower : UInt8) : UInt16 :=
  upper.toUInt16 <<< 8 ||| lower.toUInt16

/-! ### Requests -/

/-- The parameter that a read request asks for. -/
def readKey? : List UInt8 → Option Key
  | [service, upper, lower, subindex] =>
    if service = Request.readService then some (word upper lower, subindex) else none
  | _ => none

/-- The length that a write request states, and the octets behind it. -/
def writeLength (service : UInt8) (rest : List UInt8) : Nat × List UInt8 :=
  if service &&& 0x0F = 0 then ((rest.headD 0).toNat, rest.tail)
  else ((service &&& 0x0F).toNat, rest)

/-- The parameter and the value of a write request, if the value is as long as the request states.
-/
def writtenValue? : List UInt8 → Option (Key × List UInt8)
  | [] => none
  | service :: rest =>
    if service &&& 0xF0 = Request.writeService then
      match writeLength service rest with
      | (length, upper :: lower :: subindex :: data) =>
        if data.length = length then some ((word upper lower, subindex), data) else none
      | _ => none
    else
      none

/-- The octets of an answer: segments, or a single octet of ones for an empty value. -/
def answerOctets (value : List UInt8) : List UInt8 :=
  if value = [] then [emptyAnswer] else (Segments.listFrom 0 value).flatMap Segment.octets

variable (device : Device)

/-- Queue an answer behind the zeros of a busy device. -/
def queue (value : List UInt8) : Device :=
  { device with
    outbound := device.outbound ++ List.replicate device.busyPolls 0 ++ answerOctets value }

/-- The parameters with another value for one of them. -/
def Parameters.set (parameters : Parameters) (key : Key) (value : List UInt8) : Parameters :=
  fun other => if other = key then some value else parameters other

/-- Execute a request. A read of an unknown parameter gets an empty value, a write a zero, and any
other request no answer. -/
def execute (request : List UInt8) : Device :=
  match readKey? request with
  | some key => device.queue ((device.parameters key).getD [])
  | none =>
    match writtenValue? request with
    | some (key, value) =>
      { device with parameters := device.parameters.set key value }.queue [0]
    | none => device

/-- Take one on-request data octet. -/
def takeOctet (octet : UInt8) : Device :=
  match device.intake with
  | .idle =>
    if (ControlByte.mk octet).isStart then
      { device with intake := .data (ControlByte.mk octet).isLast, request := [] }
    else
      device
  | .control => { device with intake := .data (ControlByte.mk octet).isLast }
  | .data isLast =>
    if isLast then
      { device with intake := .idle, request := [] }.execute (device.request ++ [octet])
    else
      { device with intake := .control, request := device.request ++ [octet] }

/-- Take one on-request data octet and give one back, zero if none is queued. -/
def exchange (octet : UInt8) : UInt8 × Device :=
  let device := device.takeOctet octet
  (device.outbound.headD 0, { device with outbound := device.outbound.tail })

/-! ### Frames -/

/-- Forget the request and the answers that are under way. -/
def reset : Device :=
  { device with intake := .idle, request := [], outbound := [] }

/-- The status octet that goes with the events still to be reported. -/
def status (events : List UInt16) : UInt8 :=
  if events.isEmpty then 0 else 1

/-- Report the next event. -/
def reportEvent : Option (List UInt8) × Device :=
  match device.events with
  | [] => (none, device)
  | code :: events =>
    (some (Checksum.attach [(code >>> 8).toUInt8, code.toUInt8, status events]),
      { device with events })

/-- Exchange the octet of a frame without process data. -/
def answerPlain (octet : UInt8) : Option (List UInt8) × Device :=
  let (answer, device) := device.exchange octet
  (some (Checksum.attach [answer]), device)

/-- Handle a frame of two octets. Commands count as such while no request is under way. -/
def handlePlain (command : UInt8) : Option (List UInt8) × Device :=
  if device.intake = .idle then
    if command = Command.wakeUp.octet then (none, device.reset)
    else if command = Command.operate.octet then (none, device)
    else if command = Command.event.octet then device.reportEvent
    else device.answerPlain command
  else
    device.answerPlain command

/-- Handle the octets of a cyclic frame, which end in the on-request data. A second octet of these
comes back as it is. -/
def handleCyclic (body : List UInt8) : Option (List UInt8) × Device :=
  let od := body.drop (2 + device.geometry.outputLength)
  let (answer, after) := device.exchange (od.headD 0)
  (some (Checksum.attach (status device.events ::
    Master.fitLength device.geometry.inputLength device.processData ++ answer :: od.tail)), after)

/-- Handle a frame: the reply, if there is one, and the device behind it. Frames with a wrong
checksum are dropped, and so are those of a length that the geometry does not have. -/
def handle (frame : List UInt8) : Option (List UInt8) × Device :=
  match frame with
  | [command, checksum] =>
    if checksum = Frame.plainChecksum command 0 then device.handlePlain command
    else (none, device)
  | _ =>
    if frame.length = device.geometry.requestLength ∧
        frame.getLast? = some (Checksum.of frame.dropLast) then
      device.handleCyclic frame.dropLast
    else
      (none, device)

/-! ### The line -/

/-- A line to a device. -/
structure Line where
  device : Device
  /-- The reply to the latest frame, unless it was taken or dropped. -/
  reply : Option (List UInt8)

namespace Line

/-- The device handles each frame at once. -/
def send (frame : List UInt8) (line : Line) : Except Failure Unit × Line :=
  let (reply, device) := line.device.handle frame
  (.ok (), ⟨device, reply⟩)

/-- Take the reply. -/
def receive (_count _timeout : Nat) (line : Line) :
    Except Failure (Option (List UInt8)) × Line :=
  (.ok line.reply, { line with reply := none })

/-- Drop the reply. -/
def discard (line : Line) : Except Failure Unit × Line :=
  (.ok (), { line with reply := none })

instance : Transport Line := ⟨send, receive, discard⟩

end Line

end Device

end Sdci
