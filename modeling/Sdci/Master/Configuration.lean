import Sdci.Master.Action

/-!
# Changing the settings of a session

The lengths of the process data may change at any time if the M-sequence type is variable; the type
itself only before the transition to operate, and the mode of the line only in operate. A rejected
change leaves everything as it was.
-/

namespace Sdci.Master

/-- Change the lengths of the process data. -/
def resize (inputLength outputLength : Nat) : Action Unit := do
  let master ← get
  let geometry ← orThrow .setting (master.geometry.resize inputLength outputLength)
  set { master with geometry }
  note (.lengthsChanged inputLength outputLength)

/-- Change the geometry. The same type with other lengths is a change of the lengths. -/
def reconfigure (geometry : Geometry) : Action Unit := do
  let master ← get
  if geometry ≠ master.geometry then
    let geometry ←
      if geometry.sequenceType = master.geometry.sequenceType then
        orThrow .setting (master.geometry.resize geometry.inputLength geometry.outputLength)
      else if master.state = .startup ∨ master.state = .preoperate then
        pure geometry
      else
        throw (.notAllowed .changeSequenceType master.state)
    note (.reconfigured geometry.sequenceType geometry.inputLength geometry.outputLength)
    set { master with geometry }

/-- Change the mode of the line. Only operate allows it. -/
def switchPhyMode (phyMode : PhyMode) : Action Unit := do
  let master ← get
  if master.state ≠ .operate then
    throw (.notAllowed .switchPhyMode master.state)
  note (.phyModeChanged master.phyMode phyMode)
  set { master with phyMode }

/-- Change the transmission rate. -/
def useBaudRate (baudRate : BaudRate) : Action Unit := do
  note (.baudRateSet baudRate)
  modify fun master => { master with baudRate }

/-- Change the transmission rate to the one with the given name. -/
def selectBaudRate (name : String) : Action Unit := do
  match BaudRate.ofText name with
  | .ok baudRate => useBaudRate baudRate
  | .error e =>
    note (.baudRateRejected name)
    throw (.setting e)

end Sdci.Master
