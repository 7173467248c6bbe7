import Sdci.Master.Action
import Sdci.Response

/-!
# Exchanges

An exchange is a frame and the reply to it. A frame of two octets asks for a reply of two octets,
and a cyclic frame for one of the length that the geometry says. A reply that does not come, has not
the form of a reply, or (unless the settings say otherwise) has a wrong checksum is no response.
-/

namespace Sdci.Master

/-- The response that stands for none. -/
def noResponse : Action Response := do
  return .missing (← get).geometry.odWidth

/-- The response that a reply makes. -/
def decodeReply (reply : Option (List UInt8)) : Action Response := do
  match reply with
  | some octets =>
    note (.received octets)
    return .decode (← get).geometry.odWidth octets
  | none =>
    note .silence
    noResponse

/-- The response, or none if its checksum is wrong and the settings ask for a right one. -/
def checkChecksum (response : Response) : Action Response := do
  if (← get).settings.enforceChecksum then
    match response.verdict with
    | .mismatch expected received =>
      note (.checksumMismatch expected received)
      noResponse
    | .intact | .notReceived => return response
  else
    return response

/-- Send a frame and wait for the response. -/
def exchange (frame : List UInt8) (timeout : Nat) : Action Response := do
  sendFrame frame
  let geometry := (← get).geometry
  let reply ← receive (if frame.length = 2 then 2 else geometry.responseLength) timeout
  checkChecksum (← decodeReply reply)

/-- Send a frame without process data and wait for the response. -/
def exchangePlain (command : UInt8) (timeout : Nat) : Action Response :=
  exchange (Frame.plain command 0) timeout

/-- Send the wake-up frame. No response is expected. -/
def wakeUp : Action Unit :=
  sendFrame (Frame.plain Command.wakeUp.octet 0)

/-- Send an idle frame and wait for the response. -/
def probe : Action Response := do
  exchangePlain Command.idle.octet (← get).settings.idleTimeout

/-- Process data cut, or filled up with zeros, to the given length. -/
def fitLength (length : Nat) (processData : List UInt8) : List UInt8 :=
  (processData.take length).rightpad length 0

/-- The cyclic frame of the session with the given process data and on-request data. -/
def cyclicFrame (processData : List UInt8) (od : OnRequestData) : Action (List UInt8) := do
  let geometry := (← get).geometry
  let length := geometry.outputLength
  if processData.length ≠ length then
    note (.processDataResized processData.length length)
  orThrow .frame (Frame.cyclic geometry Command.idle.octet 0 (fitLength length processData) od)

end Sdci.Master
