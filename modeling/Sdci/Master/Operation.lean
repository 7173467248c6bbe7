import Sdci.Master.Configuration
import Sdci.Master.Connection
import Sdci.Master.Parameter
import Sdci.Master.PendingEvent

/-!
# The operations of a master

Everything that a user can ask of a master, as one type. A session is a list of operations,
performed one after the other.
-/

namespace Sdci

/-- What a user can ask of a master. -/
inductive Operation
  | wakeUp
  | probe
  | startUp
  | enterOperate
  | cycle (processData : List UInt8) (octet : UInt8)
  | cycleWith (processData : List UInt8) (od : OnRequestData)
  | damagedCycle (processData : List UInt8) (octet : UInt8)
  | injectFaults (count : Nat)
  | resize (inputLength outputLength : Nat)
  | reconfigure (geometry : Geometry)
  | switchPhyMode (mode : PhyMode)
  | selectBaudRate (name : String)
  | useBaudRate (rate : BaudRate)
  | requestEvent
  | readParameter (index : UInt16) (subindex : UInt8)
  | writeParameter (index : UInt16) (subindex : UInt8) (data : List UInt8)
deriving DecidableEq, Repr

/-- What a successful operation gives back. -/
inductive Outcome
  | nothing
  | response (response : Response)
  | count (count : Nat)
  | event (code : Option UInt16)
  | data (octets : List UInt8)
deriving DecidableEq, Repr

namespace Operation

open Master

/-- The action that an operation asks for. -/
def action : Operation → Action Outcome
  | wakeUp => do Master.wakeUp; return .nothing
  | probe => return .response (← Master.probe)
  | startUp => do Master.startUp; return .nothing
  | enterOperate => do Master.enterOperate; return .nothing
  | cycle processData octet => return .response (← Master.cycle processData octet)
  | cycleWith processData od => return .response (← Master.cycleWith processData od)
  | damagedCycle processData octet => return .response (← Master.damagedCycle processData octet)
  | injectFaults count => return .count (← Master.injectFaults count)
  | resize inputLength outputLength => do
    Master.resize inputLength outputLength
    return .nothing
  | reconfigure geometry => do Master.reconfigure geometry; return .nothing
  | switchPhyMode mode => do Master.switchPhyMode mode; return .nothing
  | selectBaudRate name => do Master.selectBaudRate name; return .nothing
  | useBaudRate rate => do Master.useBaudRate rate; return .nothing
  | requestEvent => return .event (← Master.requestEvent)
  | readParameter index subindex => return .data (← Master.readParameter index subindex)
  | writeParameter index subindex data => do
    Master.writeParameter index subindex data
    return .nothing

/-- The dialogue of a master that performs an operation. -/
def perform (operation : Operation) (master : Master) :
    Dialogue (Except MasterError Outcome × Master) :=
  operation.action.start master

/-- The operation is a transfer whose receiver has no count for its looks, and ends the program
before anything goes out. -/
def breaksOff (master : Master) : Operation → Bool
  | readParameter index subindex =>
    (Isdu.Collector.ofRequest? (.read index subindex) master.settings.pollLimit).isNone
  | writeParameter index subindex data =>
    match Isdu.Request.ofData index subindex data with
    | .ok request => (Isdu.Acknowledgement.ofRequest? request master.settings.pollLimit).isNone
    | .error _ => false
  | _ => false

end Operation

end Sdci
