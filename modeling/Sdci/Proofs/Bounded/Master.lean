import Sdci.Proofs.Bounded.Transfers
import Sdci.Proofs.Isdu.Feeding

/-!
# A master within bounds

The actions of a master, built on the operations with a range in place of those without. An action
that leaves a range ends in nothing at all, with the calls before it made.

None of them does: each action is the one without bounds, brought over by `within`, which commutes
with all that actions are made of. Transfers need a receiver that is ready, and a poll limit that
leaves room for one look more.
-/

namespace Sdci.Bounded

open Isdu
open Master (note pause discard receive sendFrame moveTo orThrow noResponse failTransfer)

variable {α β : Type}

/-! ### Actions -/

/-- The actions of a master that may leave a range. -/
abbrev Action (α : Type) := ExceptT MasterError (StateT Master (OptionT Dialogue)) α

/-- The dialogue of a master that takes an action; `none` if that leaves a range. -/
def start (action : Action α) (master : Master) :
    Dialogue (Option (Except MasterError α × Master)) :=
  ((ExceptT.run action).run master).run

/-- An action that leaves no range. -/
def within (action : Master.Action α) : Action α :=
  ExceptT.mk fun master => OptionT.lift (action.start master)

instance : MonadLift Master.Action Action := ⟨within⟩

/-- The value of an operation with a range. -/
def inRange : Option α → Action α
  | some value => return value
  | none => ExceptT.mk fun _ => OptionT.fail

theorem liftM_eq (action : Master.Action α) : (liftM action : Action α) = within action := rfl

theorem within_pure (value : α) : within (pure value) = pure value := rfl

theorem within_throw (error : MasterError) :
    within (throw error : Master.Action α) = throw error := rfl

theorem throw_bind (error : MasterError) (next : α → Action β) :
    (throw error >>= next) = throw error := rfl

theorem within_get : within get = get := rfl

theorem inRange_some (value : α) : inRange (some value) = pure value := rfl

theorem within_bind (action : Master.Action α) (next : α → Master.Action β) :
    within (action >>= next) = within action >>= fun value => within (next value) := by
  funext master
  show (Master.Action.start (action >>= next) master).bind (fun outcome => .done (some outcome)) =
    Dialogue.bind ((action.start master).bind fun outcome => .done (some outcome)) _
  rw [Master.Action.start_bind, Dialogue.bind_assoc, Dialogue.bind_assoc]
  refine congrArg (Dialogue.bind _) (funext fun (result, target) => ?_)
  cases result <;> rfl

theorem within_ite (condition : Prop) [Decidable condition] (action other : Master.Action α) :
    within (if condition then action else other) =
      if condition then within action else within other :=
  apply_ite within _ _ _

/-! ### Exchanges -/

/-- The response that a reply makes. -/
def decodeReply (reply : Option (List UInt8)) : Action Response := do
  match reply with
  | some octets =>
    note (.received octets)
    inRange (decode (← get).geometry.odWidth octets)
  | none =>
    note .silence
    noResponse

/-- The response, or none if its checksum is wrong and the settings ask for a right one. -/
def checkChecksum (response : Response) : Action Response := do
  if (← get).settings.enforceChecksum then
    match ← inRange (verdict response) with
    | .mismatch expected received =>
      note (.checksumMismatch expected received)
      noResponse
    | .intact | .notReceived => return response
  else
    return response

/-- Send a frame and wait for the response. -/
def exchange (frame : List UInt8) (timeout : Nat) : Action Response := do
  sendFrame frame
  let geometry := (← get).geometry
  let reply ← receive (if frame.length = 2 then 2 else geometry.responseLength) timeout
  checkChecksum (← decodeReply reply)

/-- Send a frame without process data and wait for the response. -/
def exchangePlain (command : UInt8) (timeout : Nat) : Action Response := do
  exchange (← inRange (plain command 0)) timeout

/-- Send the wake-up frame. -/
def wakeUp : Action Unit := do
  sendFrame (← inRange (plain Command.wakeUp.octet 0))

/-- Send an idle frame and wait for the response. -/
def probe : Action Response := do
  exchangePlain Command.idle.octet (← get).settings.idleTimeout

/-- The cyclic frame of the session with the given process data and on-request data. -/
def cyclicFrame (processData : List UInt8) (od : OnRequestData) : Action (List UInt8) := do
  let geometry := (← get).geometry
  let length := geometry.outputLength
  let fitted ← inRange (fitLength length processData)
  if processData.length ≠ length then
    note (.processDataResized processData.length length)
  orThrow .frame (← inRange (cyclic geometry Command.idle.octet 0 fitted od))

theorem decodeReply_eq (reply : Option (List UInt8)) :
    decodeReply reply = within (Master.decodeReply reply) := by
  cases reply with
  | some octets =>
    simp only [decodeReply, Master.decodeReply, within_bind, within_get, decode_eq, inRange_some]
    rfl
  | none =>
    simp only [decodeReply, Master.decodeReply, within_bind]
    rfl

theorem checkChecksum_eq (response : Response) :
    checkChecksum response = within (Master.checkChecksum response) := by
  simp only [checkChecksum, Master.checkChecksum, within_bind, within_get, verdict_eq, inRange_some,
    pure_bind, within_ite]
  cases response.verdict with
  | mismatch expected received => simp only [within_bind, within_pure]; rfl
  | intact | notReceived => rfl

theorem exchange_eq (frame : List UInt8) (timeout : Nat) :
    exchange frame timeout = within (Master.exchange frame timeout) := by
  simp only [exchange, Master.exchange, within_bind, within_get, decodeReply_eq, checkChecksum_eq]
  rfl

theorem exchangePlain_eq (command : UInt8) (timeout : Nat) :
    exchangePlain command timeout = within (Master.exchangePlain command timeout) := by
  simp only [exchangePlain, plain_eq, inRange_some, pure_bind, exchange_eq, Master.exchangePlain]

theorem wakeUp_eq : wakeUp = within Master.wakeUp := by
  simp only [wakeUp, plain_eq, inRange_some, pure_bind, Master.wakeUp]
  rfl

theorem probe_eq : probe = within Master.probe := by
  simp only [probe, Master.probe, within_bind, within_get, exchangePlain_eq]

theorem cyclicFrame_eq (processData : List UInt8) (od : OnRequestData) :
    cyclicFrame processData od = within (Master.cyclicFrame processData od) := by
  simp only [cyclicFrame, Master.cyclicFrame, within_bind, within_get, fitLength_eq, cyclic_eq,
    inRange_some, pure_bind, within_ite]
  rfl

/-! ### Cycles and the connection -/

/-- Run a cycle with all on-request data octets given. -/
def cycleWith (processData : List UInt8) (od : OnRequestData) : Action Response := do
  let master ← get
  if master.state = .startup then
    note .cycleBeforeStartup
    noResponse
  else
    let response ←
      if master.geometry.isCyclic then do
        exchange (← cyclicFrame processData od) master.settings.cycleTimeout
      else
        probe
    if response.isValid ∧ (← get).state = .established then
      moveTo .operate
    return response

/-- Run a cycle with `octet` in the first place of the on-request data. -/
def cycle (processData : List UInt8) (octet : UInt8) : Action Response := do
  cycleWith processData (.ofFirst (← get).geometry.odWidth octet)

/-- Run a cycle with a damaged checksum. -/
def damagedCycle (processData : List UInt8) (octet : UInt8) : Action Response := do
  let master ← get
  let frame ←
    if master.geometry.isCyclic then
      cyclicFrame processData (.ofFirst master.geometry.odWidth octet)
    else
      inRange (plain Command.idle.octet 0)
  sendFrame (Frame.damage frame)
  decodeReply (← receive master.geometry.responseLength master.settings.faultTimeout)

/-- Run damaged cycles, and count those that get a valid response on top of `answered`. -/
def countAnswered (answered : Nat) : (count : Nat) → Action Nat
  | 0 => return answered
  | count + 1 => do
    let response ← damagedCycle [] 0
    countAnswered (if response.isValid then answered + 1 else answered) count

/-- Run `count` damaged cycles without data, and count those that get a valid response. -/
def injectFaults (count : Nat) : Action Nat := do
  note (.faultsBegin count)
  let answered ← countAnswered 0 count
  if answered > 0 then
    note (.faultsAnswered answered count)
  return answered

/-- Probe the device up to `left` times, the last of `attempts`. -/
def probeUntilValid (attempts : Nat) : (left : Nat) → Action Unit
  | 0 => do
    note .startupFailed
    throw (.startupFailed attempts)
  | left + 1 => do
    if (← probe).isValid then
      note (.communicationEstablished (attempts - left))
      moveTo .preoperate
    else
      if left ≠ 0 then
        pause (← get).settings.retryPause
      probeUntilValid attempts left

/-- Wake the device up and probe it until it answers or the attempts are used up. -/
def startUp : Action Unit := do
  note .startupBegins
  wakeUp
  let settings := (← get).settings
  pause settings.wakeUpPause
  discard
  probeUntilValid settings.startupAttempts settings.startupAttempts

/-- Send the transition command and confirm it with a cycle. -/
def enterOperate : Action Unit := do
  let master ← get
  if master.state ≠ .preoperate then
    throw (.notAllowed .enterOperate master.state)
  note .operateCommand
  sendFrame (← inRange (plain Command.operate.octet 0))
  pause master.settings.operatePause
  discard
  moveTo .established
  let response ← cycle [] 0
  unless response.isValid do
    note .operateNotConfirmed
    throw .notConfirmed

theorem cycleWith_eq (processData : List UInt8) (od : OnRequestData) :
    cycleWith processData od = within (Master.cycleWith processData od) := by
  simp only [cycleWith, Master.cycleWith, within_bind, within_get, within_ite, cyclicFrame_eq,
    exchange_eq, probe_eq, within_pure]
  rfl

theorem cycle_eq (processData : List UInt8) (octet : UInt8) :
    cycle processData octet = within (Master.cycle processData octet) := by
  simp only [cycle, Master.cycle, within_bind, within_get, cycleWith_eq]

theorem damagedCycle_eq (processData : List UInt8) (octet : UInt8) :
    damagedCycle processData octet = within (Master.damagedCycle processData octet) := by
  simp only [damagedCycle, Master.damagedCycle, within_bind, within_get, within_ite, cyclicFrame_eq,
    plain_eq, inRange_some, within_pure, decodeReply_eq]
  rfl

theorem countAnswered_eq (answered count : Nat) :
    countAnswered answered count = within (Master.countAnswered answered count) := by
  induction count generalizing answered with
  | zero => rfl
  | succ count ih =>
    simp only [countAnswered, Master.countAnswered, within_bind, damagedCycle_eq, ih]

theorem injectFaults_eq (count : Nat) :
    injectFaults count = within (Master.injectFaults count) := by
  simp only [injectFaults, Master.injectFaults, within_bind, countAnswered_eq, within_ite,
    within_pure]
  rfl

theorem probeUntilValid_eq (attempts left : Nat) :
    probeUntilValid attempts left = within (Master.probeUntilValid attempts left) := by
  induction left with
  | zero =>
    simp only [probeUntilValid, Master.probeUntilValid, within_bind, within_throw]
    rfl
  | succ left ih =>
    simp only [probeUntilValid, Master.probeUntilValid, within_bind, within_get, within_ite,
      probe_eq, ih]
    rfl

theorem startUp_eq : startUp = within Master.startUp := by
  simp only [startUp, Master.startUp, within_bind, within_get, wakeUp_eq, probeUntilValid_eq]
  rfl

theorem enterOperate_eq : enterOperate = within Master.enterOperate := by
  simp only [enterOperate, Master.enterOperate, within_bind, within_get, within_ite, within_throw,
    within_pure, plain_eq, inRange_some, pure_bind, cycle_eq]
  rfl

/-! ### Events -/

/-- Ask the device for a pending event. -/
def requestEvent : Action (Option UInt16) := do
  let master ← get
  if master.state = .startup then
    note .eventBeforeStartup
    return none
  else
    sendFrame (← inRange (plain Command.event.octet 0))
    match ← receive Master.eventReplyLength master.settings.eventTimeout with
    | some octets =>
      if octets.length = Master.eventReplyLength then
        note (.eventReply octets)
        if ← inRange (eventMismatch master.settings.enforceChecksum octets) then
          note .eventChecksumMismatch
          return none
        else
          let code ← inRange (eventCode octets)
          note (.eventReceived code)
          return some code
      else
        return none
    | none => return none

theorem requestEvent_eq : requestEvent = within Master.requestEvent := by
  simp only [requestEvent, Master.requestEvent, within_bind, within_get, within_ite, within_pure,
    plain_eq, inRange_some, pure_bind]
  refine bind_congr fun master => ?_
  split
  · rfl
  refine bind_congr fun _ => bind_congr fun reply => ?_
  rcases reply with _ | _ | ⟨upper, _ | ⟨lower, _ | ⟨status, _ | ⟨checksum, _ | ⟨fifth, rest⟩⟩⟩⟩⟩
  case some.cons.cons.cons.cons.nil =>
    have hlength : [upper, lower, status, checksum].length = Master.eventReplyLength := rfl
    simp only [if_pos hlength, eventMismatch_eq, eventCode_eq, inRange_some, pure_bind,
      within_bind, within_ite, within_pure, decide_eq_true_eq]
    rfl
  all_goals rfl

/-! ### Transfers -/

/-- Send one octet in the on-request data and wait for the response. -/
def exchangeOctet (octet : UInt8) : Action Response := do
  let master ← get
  if master.state = .startup then
    noResponse
  else if master.geometry.isCyclic then
    cycle [] octet
  else
    exchangePlain octet master.settings.transferTimeout

/-- Send one octet of a transfer; the first on-request data octet of the response is the result. -/
def transferOctet (target : Target) (octet : UInt8) : Action UInt8 := do
  let response ← exchangeOctet octet
  if response.isValid then
    return response.onRequestData.first
  else
    failTransfer (.noResponse target)

/-- Send octets one after the other; the result is what came back with the last one. -/
def sendOctets (target : Target) (answer : UInt8) : List UInt8 → Action UInt8
  | [] => return answer
  | octet :: rest => do
    let answer ← transferOctet target octet
    sendOctets target answer rest

/-- Hand `octet` and what comes back in further exchanges to a receiver until it is done. -/
def listen {ρ : Type} [Receiver ρ α] (target : Target) (receiver : ρ) (octet : UInt8) :
    Action α :=
  match _ : Receiver.feed? receiver octet with
  | none => inRange none
  | some (.done (.ok answer)) => return answer
  | some (.done (.error e)) => failTransfer e
  | some (.needData next) => do
    let octet ← transferOctet target 0
    listen target next octet
termination_by Isdu.Receiver.budget receiver
decreasing_by exact Isdu.Receiver.budget_lt (Receiver.eq_of_feed? ‹_›).symm

/-- Send a request and hand the answer to a receiver. -/
def transfer {ρ : Type} [Receiver ρ α] (request : Request) (receiver : ρ) : Action α := do
  let octet ← sendOctets request.target 0 (← inRange (odOctets? request))
  listen request.target receiver octet

/-- Read a parameter. -/
def readParameter (index : UInt16) (subindex : UInt8) : Action (List UInt8) := do
  note (.readBegins index subindex)
  let request := Request.read index subindex
  let collector ← inRange (Collector.ofRequest? request (← get).settings.pollLimit)
  let data ← transfer request collector
  note (.readEnds data.length)
  return data

/-- Write a parameter. -/
def writeParameter (index : UInt16) (subindex : UInt8) (data : List UInt8) : Action Unit := do
  note (.writeBegins index subindex data)
  let request ← orThrow .transfer (Request.ofData index subindex data)
  let waiter ← inRange (Acknowledgement.ofRequest? request (← get).settings.pollLimit)
  let answer ← transfer request waiter
  note (.writeEnds answer)

theorem exchangeOctet_eq (octet : UInt8) :
    exchangeOctet octet = within (Master.exchangeOctet octet) := by
  simp only [exchangeOctet, Master.exchangeOctet, within_bind, within_get, within_ite, cycle_eq,
    exchangePlain_eq]
  rfl

theorem transferOctet_eq (target : Target) (octet : UInt8) :
    transferOctet target octet = within (Master.transferOctet target octet) := by
  simp only [transferOctet, Master.transferOctet, within_bind, within_ite, within_pure,
    exchangeOctet_eq]
  rfl

theorem sendOctets_eq (target : Target) (answer : UInt8) (octets : List UInt8) :
    sendOctets target answer octets = within (Master.sendOctets target answer octets) := by
  induction octets generalizing answer with
  | nil => rfl
  | cons octet rest ih =>
    simp only [sendOctets, Master.sendOctets, within_bind, transferOctet_eq, ih]

section Receiver

variable {ρ : Type} [Receiver ρ α] (target : Target)

/-- A receiver that is ready stays within its bounds. -/
theorem listen_eq {receiver : ρ} (h : Receiver.Ready receiver) (octet : UInt8) :
    listen target receiver octet = within (Master.listen target receiver octet) := by
  induction receiver, octet using Isdu.Receiver.feed_induction with
  | done receiver octet result hdone =>
    have hfeed : Receiver.feed? receiver octet = some (.done result) := by
      rw [Receiver.feed?_eq octet h, hdone]
    rw [listen, Master.listen_of_done target hdone]
    split
    · next heq => cases hfeed.symm.trans heq
    · next heq =>
      cases hfeed.symm.trans heq
      rfl
    · next heq =>
      cases hfeed.symm.trans heq
      rfl
    · next heq => cases hfeed.symm.trans heq
  | needData receiver octet next hneeds ih =>
    have hfeed : Receiver.feed? receiver octet = some (.needData next) := by
      rw [Receiver.feed?_eq octet h, hneeds]
    rw [listen, Master.listen_of_needData target hneeds, within_bind, ← transferOctet_eq]
    split
    · next heq => cases hfeed.symm.trans heq
    · next heq => cases hfeed.symm.trans heq
    · next heq => cases hfeed.symm.trans heq
    · next heq =>
      cases hfeed.symm.trans heq
      exact bind_congr fun answer => ih answer (Receiver.ready_of_feed h hneeds)

theorem transfer_eq {receiver : ρ} (h : Receiver.Ready receiver) (request : Request) :
    transfer request receiver = within (Master.transfer request receiver) := by
  simp only [transfer, Master.transfer, within_bind, odOctets?_eq, inRange_some, pure_bind,
    sendOctets_eq, listen_eq _ h]

end Receiver

variable {master : Master}

/-- Two actions that look at the master behind a notice agree if they do for this master. -/
theorem note_get_congr {f g : Master → Action α} (notice : Notice) (h : f master = g master) :
    start (within (note notice) >>= fun _ => get >>= f) master =
      start (within (note notice) >>= fun _ => get >>= g) master := by
  show Dialogue.ask (.note notice) (fun _ => start (f master) master) =
    Dialogue.ask (.note notice) (fun _ => start (g master) master)
  rw [h]

/-- A read stays within bounds if one look more than the limit is a number. -/
theorem start_readParameter (h : master.settings.pollLimit + 1 < Reply.lengthModulus)
    (index : UInt16) (subindex : UInt8) :
    start (readParameter index subindex) master =
      start (within (Master.readParameter index subindex)) master := by
  simp only [readParameter, Master.readParameter, within_bind, within_get]
  refine note_get_congr _ ?_
  simp only [Collector.ofRequest?_of_lt h, inRange_some, pure_bind,
    transfer_eq (Collector.ready_ofRequest _ _), within_pure]
  rfl

theorem start_writeParameter {index : UInt16} {subindex : UInt8} {data : List UInt8}
    (h : ∀ request, Request.ofData index subindex data = .ok request →
      master.settings.pollLimit + 1 < Reply.lengthModulus) :
    start (writeParameter index subindex data) master =
      start (within (Master.writeParameter index subindex data)) master := by
  simp only [writeParameter, Master.writeParameter, within_bind, within_get]
  cases hdata : Request.ofData index subindex data with
  | error error =>
    have hrequest : (orThrow .transfer (.error error : Except TransferError Request) :
      Master.Action Request) = throw (.transfer error) := rfl
    simp only [hrequest, liftM_eq, within_throw, throw_bind]
  | ok request =>
    have hrequest : (orThrow .transfer (.ok request) : Master.Action Request) = pure request := rfl
    simp only [hrequest, liftM_eq, within_pure, pure_bind]
    refine note_get_congr _ ?_
    simp only [Acknowledgement.ofRequest?_of_lt (h request hdata), inRange_some, pure_bind,
      transfer_eq (Acknowledgement.ready_ofRequest _ _)]

/-- Otherwise a transfer ends before its receiver is there. -/
theorem start_readParameter_of_le (h : Reply.lengthModulus ≤ master.settings.pollLimit + 1)
    (index : UInt16) (subindex : UInt8) :
    start (readParameter index subindex) master =
      .ask (.note (.readBegins index subindex)) fun _ => .done none := by
  show Dialogue.ask _ (fun _ => start (inRange (Collector.ofRequest? (.read index subindex)
    master.settings.pollLimit) >>= _) master) = _
  rw [Collector.ofRequest?_eq_none_iff.mpr h]
  rfl

theorem start_writeParameter_of_le (h : Reply.lengthModulus ≤ master.settings.pollLimit + 1)
    {index : UInt16} {subindex : UInt8} {data : List UInt8} {request : Request}
    (hrequest : Request.ofData index subindex data = .ok request) :
    start (writeParameter index subindex data) master =
      .ask (.note (.writeBegins index subindex data)) fun _ => .done none := by
  rw [writeParameter, hrequest]
  show Dialogue.ask _ (fun _ => start (inRange (Acknowledgement.ofRequest? request
    master.settings.pollLimit) >>= _) master) = _
  rw [Acknowledgement.ofRequest?_eq_none_iff.mpr h]
  rfl

end Sdci.Bounded
