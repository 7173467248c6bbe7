import Sdci.Master.Cycle

/-!
# Making a connection

The startup sequence wakes the device up and probes it until it answers, which leads to preoperate.
The transition command and a valid cycle behind it lead to operate.
-/

namespace Sdci.Master

/-- Probe the device up to `left` times, the last of `attempts`. -/
def probeUntilValid (attempts : Nat) : (left : Nat) → Action Unit
  | 0 => do
    note .startupFailed
    throw (.startupFailed attempts)
  | left + 1 => do
    if (← probe).isValid then
      note (.communicationEstablished (attempts - left))
      moveTo .preoperate
    else
      if left ≠ 0 then
        pause (← get).settings.retryPause
      probeUntilValid attempts left

/-- Wake the device up and probe it until it answers or the attempts are used up. -/
def startUp : Action Unit := do
  note .startupBegins
  wakeUp
  let settings := (← get).settings
  pause settings.wakeUpPause
  discard
  probeUntilValid settings.startupAttempts settings.startupAttempts

/-- Send the transition command and confirm it with a cycle. Only preoperate allows it. -/
def enterOperate : Action Unit := do
  let master ← get
  if master.state ≠ .preoperate then
    throw (.notAllowed .enterOperate master.state)
  note .operateCommand
  sendFrame (Frame.plain Command.operate.octet 0)
  pause master.settings.operatePause
  discard
  moveTo .established
  let response ← cycle [] 0
  unless response.isValid do
    note .operateNotConfirmed
    throw .notConfirmed

end Sdci.Master
