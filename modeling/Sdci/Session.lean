import Sdci.Master.Operation
import Sdci.Script

/-!
# Scripted sessions

A session is a master and the scripted transport it talks over. Every operation that does not break
off leaves a report: its result, the calls that reached the transport, and the notices of the
master.
-/

namespace Sdci

/-- A master over a scripted transport. -/
structure Session where
  master : Master
  script : Script
deriving DecidableEq, Repr

namespace Session

/-- What an operation of a session leaves behind. -/
structure Report where
  result : Except MasterError Outcome
  /-- The calls that reached the transport, in order. -/
  calls : List Script.Record
  /-- The notices of the master, in order. -/
  notices : List Notice

/-- Perform an operation; `none` if it breaks off. -/
def perform (session : Session) (operation : Operation) : Option (Report × Session) :=
  if operation.breaksOff session.master then
    none
  else
    let ((result, master), script, events) :=
      (operation.perform session.master).run { session.script with record := [] }
    some (⟨result, script.record.reverse, events.filterMap Event.notice?⟩, ⟨master, script⟩)

/-- A new master over the same transport, where the script goes on. -/
def restart (session : Session) (geometry : Geometry) (settings : Settings) : Session :=
  { session with master := .new geometry settings }

end Session

end Sdci
