import Sdci.Isdu.Acknowledgement
import Sdci.Isdu.Collector
import Sdci.Isdu.Segments
import Sdci.Master.Cycle

/-!
# Parameter transfers

A transfer sends a request, one octet in each exchange, and then hands the first on-request data
octet of each further response to a receiver until that is done. The response to the last octet of
the request is the first one that the receiver looks at. The first exchange without a valid response
ends the transfer.
-/

namespace Sdci.Master

open Isdu

/-- Send one octet in the on-request data and wait for the response. Before startup there is none.
-/
def exchangeOctet (octet : UInt8) : Action Response := do
  let master ← get
  if master.state = .startup then
    noResponse
  else if master.geometry.isCyclic then
    cycle [] octet
  else
    exchangePlain octet master.settings.transferTimeout

/-- Give up a transfer. -/
def failTransfer {α : Type} (error : TransferError) : Action α := do
  note (.transferFailed error)
  throw (.transfer error)

/-- Send one octet of a transfer; the first on-request data octet of the response is the result. -/
def transferOctet (target : Target) (octet : UInt8) : Action UInt8 := do
  let response ← exchangeOctet octet
  if response.isValid then
    return response.onRequestData.first
  else
    failTransfer (.noResponse target)

/-- Send octets one after the other; the result is what came back with the last one, or `answer` if
there are none. -/
def sendOctets (target : Target) (answer : UInt8) : List UInt8 → Action UInt8
  | [] => return answer
  | octet :: rest => do
    let answer ← transferOctet target octet
    sendOctets target answer rest

/-- Hand `octet` and what comes back in further exchanges to a receiver until it is done. -/
def listen {ρ α : Type} [Receiver ρ α] (target : Target) (receiver : ρ) (octet : UInt8) :
    Action α :=
  match _ : Receiver.feed receiver octet with
  | .done (.ok answer) => return answer
  | .done (.error e) => failTransfer e
  | .needData next => do
    let octet ← transferOctet target 0
    listen target next octet
termination_by Receiver.budget receiver
decreasing_by exact Receiver.budget_lt ‹_›

/-- Send a request and hand the answer to a receiver. -/
def transfer {ρ α : Type} [Receiver ρ α] (request : Request) (receiver : ρ) : Action α := do
  let octet ← sendOctets request.target 0 request.odOctets
  listen request.target receiver octet

/-- Read a parameter. -/
def readParameter (index : UInt16) (subindex : UInt8) : Action (List UInt8) := do
  note (.readBegins index subindex)
  let request := Request.read index subindex
  let data ← transfer request (Collector.ofRequest request (← get).settings.pollLimit)
  note (.readEnds data.length)
  return data

/-- Write a parameter. Any octet but zero acknowledges it. -/
def writeParameter (index : UInt16) (subindex : UInt8) (data : List UInt8) : Action Unit := do
  note (.writeBegins index subindex data)
  let request ← orThrow .transfer (Request.ofData index subindex data)
  let answer ← transfer request (Acknowledgement.ofRequest request (← get).settings.pollLimit)
  note (.writeEnds answer)

end Sdci.Master
