import Sdci.Master.Exchange

/-!
# Communication cycles

A cycle sends process data and on-request data and waits for the device's. The first valid cycle
behind the transition command completes the transition to operate. Cycles with a damaged checksum
test how a device takes line errors: none of them should get an answer.
-/

namespace Sdci.Master

/-- Run a cycle with all on-request data octets given. Before startup nothing is sent. -/
def cycleWith (processData : List UInt8) (od : OnRequestData) : Action Response := do
  let master ← get
  if master.state = .startup then
    note .cycleBeforeStartup
    noResponse
  else
    let response ←
      if master.geometry.isCyclic then do
        exchange (← cyclicFrame processData od) master.settings.cycleTimeout
      else
        probe
    if response.isValid ∧ (← get).state = .established then
      moveTo .operate
    return response

/-- Run a cycle with `octet` in the first place of the on-request data. -/
def cycle (processData : List UInt8) (octet : UInt8) : Action Response := do
  cycleWith processData (.ofFirst (← get).geometry.odWidth octet)

/-- Run a cycle with a damaged checksum. The reply is not checked against its own checksum. -/
def damagedCycle (processData : List UInt8) (octet : UInt8) : Action Response := do
  let master ← get
  let frame ←
    if master.geometry.isCyclic then
      cyclicFrame processData (.ofFirst master.geometry.odWidth octet)
    else
      pure (Frame.plain Command.idle.octet 0)
  sendFrame (Frame.damage frame)
  decodeReply (← receive master.geometry.responseLength master.settings.faultTimeout)

/-- Run damaged cycles, and count those that get a valid response on top of `answered`. -/
def countAnswered (answered : Nat) : (count : Nat) → Action Nat
  | 0 => return answered
  | count + 1 => do
    let response ← damagedCycle [] 0
    countAnswered (if response.isValid then answered + 1 else answered) count

/-- Run `count` damaged cycles without data, and count those that get a valid response. -/
def injectFaults (count : Nat) : Action Nat := do
  note (.faultsBegin count)
  let answered ← countAnswered 0 count
  if answered > 0 then
    note (.faultsAnswered answered count)
  return answered

end Sdci.Master
