import Sdci.Master.Exchange

/-!
# Asking for events

A device with an event to report answers the event request with four octets: the event code, upper
octet first, a status octet and the checksum. Any other number of octets is no event.
-/

namespace Sdci.Master

/-- The octets in the reply to an event request. -/
def eventReplyLength : Nat := 4

/-- Ask the device for a pending event. Before startup nothing is sent. -/
def requestEvent : Action (Option UInt16) := do
  let master ← get
  if master.state = .startup then
    note .eventBeforeStartup
    return none
  else
    sendFrame (Frame.plain Command.event.octet 0)
    match ← receive eventReplyLength master.settings.eventTimeout with
    | some [upper, lower, status, checksum] =>
      note (.eventReply [upper, lower, status, checksum])
      if master.settings.enforceChecksum ∧ Checksum.of [upper, lower, status] ≠ checksum then
        note .eventChecksumMismatch
        return none
      else
        let code := upper.toUInt16 <<< 8 ||| lower.toUInt16
        note (.eventReceived code)
        return some code
    | _ => return none

end Sdci.Master
