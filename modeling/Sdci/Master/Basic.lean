import Sdci.Dialogue.Basic
import Sdci.Frame

/-!
# The master of a link

A master talks to one device. It has a geometry, settings, a connection state, a mode of the line
and a transmission rate.
-/

namespace Sdci

/-- The pauses, time limits and counts that a master works with. Times are in milliseconds. -/
structure Settings where
  /-- Pause after the wake-up frame. -/
  wakeUpPause : Nat := 100
  /-- Idle frames sent during startup. -/
  startupAttempts : Nat := 3
  /-- Pause between two attempts. -/
  retryPause : Nat := 50
  idleTimeout : Nat := 500
  cycleTimeout : Nat := 500
  /-- Time limit for the exchanges of a parameter transfer without cyclic frames. -/
  transferTimeout : Nat := 100
  /-- Time limit for the reply to a damaged frame. -/
  faultTimeout : Nat := 100
  eventTimeout : Nat := 100
  /-- Pause after the transition command. -/
  operatePause : Nat := 50
  /-- Cycles to wait for an answer to begin. -/
  pollLimit : Nat := 10
  /-- Drop replies whose checksum does not match. -/
  enforceChecksum : Bool := true
deriving DecidableEq, Repr, Inhabited

/-- A master of a link. -/
structure Master where
  geometry : Geometry
  settings : Settings
  state : ConnectionState
  phyMode : PhyMode
  baudRate : BaudRate
deriving DecidableEq, Repr

/-- The actions that only some states allow. -/
inductive GuardedAction
  | enterOperate
  | changeSequenceType
  | switchPhyMode
deriving DecidableEq, Repr

/-- The name of the action in error messages. -/
def GuardedAction.name : GuardedAction → String
  | enterOperate => "go_to_operate"
  | changeSequenceType => "sequence type change"
  | switchPhyMode => "PHY mode switch"

/-- Why an action of a master fails. -/
inductive MasterError
  /-- A call to the line failed. -/
  | transport (failure : Failure)
  /-- No idle frame of the startup sequence got a valid response. -/
  | startupFailed (attempts : Nat)
  /-- The state does not allow the action. -/
  | notAllowed (action : GuardedAction) (state : ConnectionState)
  /-- No valid response confirmed the transition to operate. -/
  | notConfirmed
  | setting (error : SettingError)
  | frame (error : FrameError)
  | transfer (error : Isdu.TransferError)
deriving DecidableEq, Repr

namespace MasterError

/-- The error below this one, if it reports another's. -/
def cause? : MasterError → Option String
  | transport failure => some failure.text
  | setting error => some error.message
  | frame error => some error.message
  | transfer error => some error.message
  | startupFailed _ | notAllowed .. | notConfirmed => none

/-- The sentence shown to the user. -/
def message : MasterError → String
  | transport failure => s!"Transport error: {failure.text}"
  | startupFailed attempts => s!"Startup failed, no valid response after {attempts} attempts"
  | notAllowed action state => s!"{action.name} not allowed in state {state.name}"
  | notConfirmed => "No valid response after the switch to OPERATE"
  | setting error => error.message
  | frame error => error.message
  | transfer error => error.message

end MasterError

namespace Master

/-- A new master, with default settings unless others are given. -/
def new (geometry : Geometry) (settings : Settings := {}) : Master where
  geometry
  settings
  state := .startup
  phyMode := default
  baudRate := default

end Master

end Sdci
