import Sdci.Proofs.Master.Wire

/-!
# Every action of a master, seen from the line

An action that is answered is a round trip, one that is not is a command (`Master.announce`), and
the loops are round trips one behind the other. The lemmas here are all that proofs about the
master's actions open.
-/

namespace Sdci

/-- The cyclic frame of a geometry with the given process data, made to fit, and on-request data. -/
def Geometry.cyclicFrame (geometry : Geometry) (processData : List UInt8) (od : OnRequestData) :
    List UInt8 :=
  Checksum.attach (Command.idle.octet :: 0 ::
    Master.fitLength geometry.outputLength processData ++ od.toList)

theorem Geometry.odWidth_eq_one_or_two (geometry : Geometry) :
    geometry.odWidth = 1 ∨ geometry.odWidth = 2 :=
  geometry.sequenceType.odWidth_eq_one_or_two

@[simp]
theorem Geometry.width_ofFirst (geometry : Geometry) (octet : UInt8) :
    (OnRequestData.ofFirst geometry.odWidth octet).width = geometry.odWidth :=
  OnRequestData.width_ofFirst geometry.odWidth_eq_one_or_two octet

theorem Geometry.responseLength_of_not_isCyclic {geometry : Geometry} (h : ¬geometry.isCyclic) :
    geometry.responseLength = 2 :=
  if_neg h

namespace Master

open Master.Action Isdu

variable {α : Type} (master : Master)

@[simp]
theorem length_fitLength (length : Nat) (processData : List UInt8) :
    (fitLength length processData).length = length := by
  simp only [fitLength, List.length_rightpad, List.length_take]
  omega

theorem fitLength_nil (length : Nat) : fitLength length [] = List.replicate length 0 := by
  simp [fitLength]

/-! ### Frames -/

/-- A cyclic frame can be built when the on-request data has the width of the session. -/
theorem wire_cyclicFrame (h : master.geometry.isCyclic) (processData : List UInt8)
    (od : OnRequestData) :
    wire (cyclicFrame processData od) master =
      .done (if od.width = master.geometry.odWidth then
          .ok (master.geometry.cyclicFrame processData od)
        else
          .error (.frame (.onRequestDataLength od.width master.geometry.odWidth)), master) := by
  simp only [cyclicFrame, wire_bind, wire_get, Dialogue.done_bind, andThen_ok, wire_ite, wire_note,
    ite_self, wire_orThrow]
  by_cases hwidth : od.width = master.geometry.odWidth
  · simp [Frame.cyclic, h, hwidth, Frame.cyclicChecksum_eq, Geometry.cyclicFrame, Checksum.attach]
  · simp [Frame.cyclic, h, hwidth]

/-- The frame that carries one octet of a transfer: the first octet of the on-request data of a
cyclic frame without process data, or the command of a frame of two octets. -/
def octetFrame (octet : UInt8) : List UInt8 :=
  if master.geometry.isCyclic then
    Checksum.attach (Command.idle.octet :: 0 :: List.replicate master.geometry.outputLength 0 ++
      (OnRequestData.ofFirst master.geometry.odWidth octet).toList)
  else
    Frame.plain octet 0

/-- The time limit for an exchange of a transfer. -/
def octetTimeout : Nat :=
  if master.geometry.isCyclic then master.settings.cycleTimeout
  else master.settings.transferTimeout

/-- The frame of a cycle: an idle frame if the session has no cyclic ones. -/
def cycleFrame (processData : List UInt8) (od : OnRequestData) : List UInt8 :=
  if master.geometry.isCyclic then master.geometry.cyclicFrame processData od
  else Frame.plain Command.idle.octet 0

/-- The time limit for a cycle. -/
def cycleLimit : Nat :=
  if master.geometry.isCyclic then master.settings.cycleTimeout else master.settings.idleTimeout

@[simp]
theorem cycleFrame_enter (state : ConnectionState) :
    (master.enter state).cycleFrame = master.cycleFrame := rfl

@[simp]
theorem cycleLimit_enter (state : ConnectionState) :
    (master.enter state).cycleLimit = master.cycleLimit := rfl

@[simp]
theorem octetFrame_enter (state : ConnectionState) :
    (master.enter state).octetFrame = master.octetFrame := rfl

/-- A cyclic frame is longer than two octets, so it asks for a whole reply. -/
theorem length_cyclicFrame_ne_two (geometry : Geometry) (processData : List UInt8)
    (od : OnRequestData) : (geometry.cyclicFrame processData od).length ≠ 2 := by
  have hwidth : 1 ≤ od.width := by cases od <;> simp [OnRequestData.width]
  simp only [Geometry.cyclicFrame, Checksum.attach, List.length_append, List.length_cons,
    length_fitLength, OnRequestData.length_toList, List.length_nil]
  omega

/-! ### Cycles -/

/-- The master behind a cycle: a valid response completes the transition to operate. -/
def confirm (response : Response) : Master :=
  if response.isValid ∧ master.state = .established then master.enter .operate else master

theorem wire_probe :
    wire probe master =
      roundTrip master (Frame.plain Command.idle.octet 0) 2 master.settings.idleTimeout
        fun reply => .done (.ok (master.responseTo reply), master) := by
  simp [probe, exchangePlain, wire_exchange]

theorem wire_cycleWith_of_startup (h : master.state = .startup) (processData : List UInt8)
    (od : OnRequestData) :
    wire (cycleWith processData od) master =
      .done (.ok (.missing master.geometry.odWidth), master) := by
  simp [cycleWith, noResponse, h]

/-- On-request data of another width than the session's cannot be sent. -/
theorem wire_cycleWith_of_width (hstate : master.state ≠ .startup)
    (hcyclic : master.geometry.isCyclic) (processData : List UInt8) {od : OnRequestData}
    (hwidth : od.width ≠ master.geometry.odWidth) :
    wire (cycleWith processData od) master =
      .done (.error (.frame (.onRequestDataLength od.width master.geometry.odWidth)), master) := by
  simp [cycleWith, hstate, hcyclic, wire_cyclicFrame master hcyclic, hwidth]

/-- A cycle is a round trip, and a valid response may complete the transition to operate. -/
theorem wire_cycleWith (hstate : master.state ≠ .startup) (processData : List UInt8)
    {od : OnRequestData}
    (hwidth : master.geometry.isCyclic → od.width = master.geometry.odWidth) :
    wire (cycleWith processData od) master =
      roundTrip master (master.cycleFrame processData od) master.geometry.responseLength
        master.cycleLimit fun reply =>
          .done (.ok (master.responseTo reply), master.confirm (master.responseTo reply)) := by
  by_cases hcyclic : master.geometry.isCyclic
  · simp only [cycleWith, cycleFrame, cycleLimit, wire_bind, wire_get, wire_ite, wire_moveTo,
      wire_pure, Dialogue.done_bind, andThen_ok, wire_cyclicFrame master hcyclic, wire_exchange,
      length_cyclicFrame_ne_two, hwidth hcyclic, roundTrip_bind, hcyclic, hstate, if_true, if_false]
    refine congrArg (roundTrip _ _ _ _) (funext fun reply => ?_)
    rw [confirm]
    split <;> rfl
  · simp only [cycleWith, cycleFrame, cycleLimit, wire_bind, wire_get, wire_ite, wire_moveTo,
      wire_pure, Dialogue.done_bind, andThen_ok, wire_probe, roundTrip_bind, hcyclic, hstate,
      if_false, Geometry.responseLength_of_not_isCyclic hcyclic]
    refine congrArg (roundTrip _ _ _ _) (funext fun reply => ?_)
    rw [confirm]
    split <;> rfl

theorem wire_cycle_eq (processData : List UInt8) (octet : UInt8) :
    wire (cycle processData octet) master =
      wire (cycleWith processData (.ofFirst master.geometry.odWidth octet)) master := by
  rw [cycle, wire_bind, wire_get, Dialogue.done_bind, andThen_ok]

theorem wire_cycle (hstate : master.state ≠ .startup) (processData : List UInt8) (octet : UInt8) :
    wire (cycle processData octet) master =
      roundTrip master
        (master.cycleFrame processData (.ofFirst master.geometry.odWidth octet))
        master.geometry.responseLength master.cycleLimit fun reply =>
          .done (.ok (master.responseTo reply), master.confirm (master.responseTo reply)) := by
  rw [wire_cycle_eq, wire_cycleWith master hstate _ fun _ => master.geometry.width_ofFirst octet]

/-- A damaged cycle sends the frame of a cycle with a damaged checksum, in every state, and takes
the reply as it is. -/
theorem wire_damagedCycle (processData : List UInt8) (octet : UInt8) :
    wire (damagedCycle processData octet) master =
      roundTrip master
        (Frame.damage (master.cycleFrame processData (.ofFirst master.geometry.odWidth octet)))
        master.geometry.responseLength master.settings.faultTimeout fun reply =>
          .done (.ok (master.decoded reply), master) := by
  by_cases hcyclic : master.geometry.isCyclic
  · simp [damagedCycle, cycleFrame, hcyclic, wire_cyclicFrame master hcyclic, roundTrip]
  · simp [damagedCycle, cycleFrame, hcyclic, roundTrip]

theorem wire_countAnswered_succ (answered count : Nat) :
    wire (countAnswered answered (count + 1)) master =
      roundTrip master
        (Frame.damage (master.cycleFrame [] (.ofFirst master.geometry.odWidth 0)))
        master.geometry.responseLength master.settings.faultTimeout fun reply =>
          wire (countAnswered (if (master.decoded reply).isValid then answered + 1 else answered)
            count) master := by
  simp [countAnswered, wire_damagedCycle]

/-! ### Making a connection -/

theorem wire_probeUntilValid_zero (attempts : Nat) :
    wire (probeUntilValid attempts 0) master =
      .done (.error (.startupFailed attempts), master) := by
  simp [probeUntilValid]

/-- The first valid response ends the probing, and every other one leads to the next probe. -/
theorem wire_probeUntilValid_succ (attempts left : Nat) :
    wire (probeUntilValid attempts (left + 1)) master =
      roundTrip master (Frame.plain Command.idle.octet 0) 2 master.settings.idleTimeout
        fun reply =>
          if (master.responseTo reply).isValid then
            .done (.ok (), master.enter .preoperate)
          else
            wire (probeUntilValid attempts left) master := by
  rw [probeUntilValid, wire_bind, wire_probe, roundTrip_bind]
  refine congrArg (roundTrip _ _ _ _) (funext fun reply => ?_)
  by_cases hvalid : (master.responseTo reply).isValid
  · simp [hvalid]
  · by_cases hleft : left = 0
    · simp [hvalid, hleft]
    · simp [hvalid, hleft]

/-- The startup sequence wakes the device up and probes it. -/
theorem wire_startUp :
    wire startUp master =
      announce master .wakeUp (wire (probeUntilValid master.settings.startupAttempts
        master.settings.startupAttempts) master) := by
  simp [startUp, wakeUp, announce]

theorem wire_enterOperate_of_state (h : master.state ≠ .preoperate) :
    wire enterOperate master = .done (.error (.notAllowed .enterOperate master.state), master) := by
  simp [enterOperate, h]

/-- Behind the transition command the master is established, and the reply to one cycle decides
whether it gets to operate. -/
theorem wire_enterOperate (h : master.state = .preoperate) :
    wire enterOperate master =
      announce master .operate
        (roundTrip (master.enter .established)
          (master.cycleFrame [] (.ofFirst master.geometry.odWidth 0))
          master.geometry.responseLength master.cycleLimit fun reply =>
            if (master.responseTo reply).isValid then
              .done (.ok (), master.enter .operate)
            else
              .done (.error .notConfirmed, master.enter .established)) := by
  have hcycle := wire_cycle (master.enter .established) (by simp) [] 0
  simp only [enter_geometry, cycleFrame_enter, cycleLimit_enter, responseTo_enter] at hcycle
  simp only [enterOperate, announce, h, wire_bind, wire_get, wire_note, wire_pause, wire_discard,
    wire_sendFrame, wire_moveTo, hcycle, Dialogue.done_bind, Dialogue.ask_bind, orFail_bind,
    andThen_ok, roundTrip_bind, ne_eq, not_true_eq_false, if_false]
  refine congrArg (announce master .operate) (congrArg (roundTrip _ _ _ _)
    (funext fun reply => ?_))
  by_cases hvalid : (master.responseTo reply).isValid
  · simp [hvalid, confirm]
  · simp [hvalid, confirm]

/-! ### Settings -/

theorem wire_resize (inputLength outputLength : Nat) :
    wire (resize inputLength outputLength) master =
      match master.geometry.resize inputLength outputLength with
      | .ok geometry => .done (.ok (), { master with geometry })
      | .error error => .done (.error (.setting error), master) := by
  rw [resize, wire_bind, wire_get, Dialogue.done_bind, andThen_ok, wire_bind, wire_orThrow,
    Dialogue.done_bind]
  cases master.geometry.resize inputLength outputLength <;> simp

/-- A change of the geometry makes no call; what it changes it to is one of three. -/
theorem wire_reconfigure (geometry : Geometry) :
    wire (reconfigure geometry) master =
      if geometry = master.geometry then
        .done (.ok (), master)
      else if geometry.sequenceType = master.geometry.sequenceType then
        wire (resize geometry.inputLength geometry.outputLength) master
      else if master.state = .startup ∨ master.state = .preoperate then
        .done (.ok (), { master with geometry })
      else
        .done (.error (.notAllowed .changeSequenceType master.state), master) := by
  rw [reconfigure, wire_bind, wire_get, Dialogue.done_bind, andThen_ok]
  by_cases heq : geometry = master.geometry
  · simp [heq]
  by_cases htype : geometry.sequenceType = master.geometry.sequenceType
  · rw [wire_resize]
    cases master.geometry.resize geometry.inputLength geometry.outputLength <;>
      simp [heq, htype]
  by_cases hstate : master.state = .startup ∨ master.state = .preoperate
  · simp [heq, htype, hstate]
  · simp [heq, htype, hstate]

theorem wire_switchPhyMode (phyMode : PhyMode) :
    wire (switchPhyMode phyMode) master =
      if master.state = .operate then
        .done (.ok (), { master with phyMode })
      else
        .done (.error (.notAllowed .switchPhyMode master.state), master) := by
  by_cases hstate : master.state = .operate
  · simp [switchPhyMode, hstate]
  · simp [switchPhyMode, hstate]

theorem wire_useBaudRate (baudRate : BaudRate) :
    wire (useBaudRate baudRate) master = .done (.ok (), { master with baudRate }) := by
  simp [useBaudRate]

theorem wire_selectBaudRate (name : String) :
    wire (selectBaudRate name) master =
      match BaudRate.ofText name with
      | .ok baudRate => .done (.ok (), { master with baudRate })
      | .error error => .done (.error (.setting error), master) := by
  rw [selectBaudRate]
  cases BaudRate.ofText name <;> simp [wire_useBaudRate]

/-! ### Events -/

/-- The event that a reply reports: four octets with a right checksum, unless the settings do not
ask for one. -/
def eventIn (master : Master) : Option (List UInt8) → Option UInt16
  | some [upper, lower, status, checksum] =>
    if master.settings.enforceChecksum ∧ Checksum.of [upper, lower, status] ≠ checksum then none
    else some (upper.toUInt16 <<< 8 ||| lower.toUInt16)
  | _ => none

theorem wire_requestEvent_of_startup (h : master.state = .startup) :
    wire requestEvent master = .done (.ok none, master) := by
  simp [requestEvent, h]

theorem wire_requestEvent (h : master.state ≠ .startup) :
    wire requestEvent master =
      roundTrip master (Frame.plain Command.event.octet 0) 4 master.settings.eventTimeout
        fun reply => .done (.ok (master.eventIn reply), master) := by
  simp only [requestEvent, roundTrip, wire_bind, wire_get, wire_sendFrame, wire_receive,
    Dialogue.done_bind, Dialogue.ask_bind, orFail_bind, andThen_ok, h, if_false]
  refine congrArg (roundTrip _ _ _ _) (funext fun reply => ?_)
  rcases reply with _ | _ | ⟨upper, _ | ⟨lower, _ | ⟨status, _ | ⟨checksum, _ | ⟨fifth, rest⟩⟩⟩⟩⟩
  case some.cons.cons.cons.cons.nil =>
    simp only [wire_bind, wire_note, Dialogue.done_bind, andThen_ok, wire_ite, wire_pure, eventIn]
    split <;> rfl
  all_goals rfl

/-! ### Transfers -/

/-- The master behind an exchange of a transfer: only a cycle can complete the transition. -/
def advance (response : Response) : Master :=
  if master.geometry.isCyclic then master.confirm response else master

theorem wire_exchangeOctet_of_startup (h : master.state = .startup) (octet : UInt8) :
    wire (exchangeOctet octet) master = .done (.ok (.missing master.geometry.odWidth), master) := by
  simp [exchangeOctet, noResponse, h]

theorem wire_exchangeOctet (h : master.state ≠ .startup) (octet : UInt8) :
    wire (exchangeOctet octet) master =
      roundTrip master (master.octetFrame octet) master.geometry.responseLength
        master.octetTimeout fun reply =>
          .done (.ok (master.responseTo reply), master.advance (master.responseTo reply)) := by
  by_cases hcyclic : master.geometry.isCyclic
  · simp [exchangeOctet, h, hcyclic, wire_cycle master h, octetFrame, cycleFrame, octetTimeout,
      cycleLimit, advance, Geometry.cyclicFrame, fitLength_nil]
  · simp [exchangeOctet, exchangePlain, h, hcyclic, wire_exchange, octetFrame, octetTimeout,
      advance, Geometry.responseLength_of_not_isCyclic hcyclic]

theorem wire_failTransfer (error : TransferError) :
    wire (failTransfer error : Action α) master = .done (.error (.transfer error), master) := by
  simp [failTransfer]

theorem wire_transferOctet_of_startup (h : master.state = .startup) (target : Target)
    (octet : UInt8) :
    wire (transferOctet target octet) master =
      .done (.error (.transfer (.noResponse target)), master) := by
  simp [transferOctet, wire_exchangeOctet_of_startup master h, Response.isValid, wire_failTransfer]

/-- An octet of a transfer is a round trip, and a missing response gives the transfer up. -/
theorem wire_transferOctet (h : master.state ≠ .startup) (target : Target) (octet : UInt8) :
    wire (transferOctet target octet) master =
      roundTrip master (master.octetFrame octet) master.geometry.responseLength
        master.octetTimeout fun reply =>
          if (master.responseTo reply).isValid then
            .done (.ok (master.responseTo reply).onRequestData.first,
              master.advance (master.responseTo reply))
          else
            .done (.error (.transfer (.noResponse target)), master) := by
  rw [transferOctet, wire_bind, wire_exchangeOctet master h, roundTrip_bind]
  refine congrArg (roundTrip _ _ _ _) (funext fun reply => ?_)
  by_cases hvalid : (master.responseTo reply).isValid
  · simp [hvalid]
  · simp [hvalid, wire_failTransfer, advance, confirm]

variable {ρ α : Type} [Receiver ρ α] (target : Target) {receiver : ρ} {octet : UInt8}

/-- A receiver that is done ends a transfer. -/
theorem listen_of_done {result : Except TransferError α}
    (h : Receiver.feed receiver octet = .done result) :
    (listen target receiver octet : Action α) =
      match result with
      | .ok answer => pure answer
      | .error error => failTransfer error := by
  rw [listen]
  split
  · next heq =>
    cases h.symm.trans heq
    rfl
  · next heq =>
    cases h.symm.trans heq
    rfl
  · next heq => cases h.symm.trans heq

theorem wire_listen_of_done {result : Except TransferError α}
    (h : Receiver.feed receiver octet = .done result) :
    wire (listen target receiver octet) master = .done (result.mapError .transfer, master) := by
  rw [listen_of_done target h]
  cases result with
  | ok answer => rfl
  | error error => exact wire_failTransfer master error

/-- A receiver that needs more takes what comes back with a zero. -/
theorem listen_of_needData {next : ρ} (h : Receiver.feed receiver octet = .needData next) :
    (listen target receiver octet : Action α) =
      transferOctet target 0 >>= fun answer => listen target next answer := by
  rw [listen]
  split
  · next heq => cases h.symm.trans heq
  · next heq => cases h.symm.trans heq
  · next heq =>
    cases h.symm.trans heq
    rfl

/-! ### Parameters -/

theorem wire_readParameter (index : UInt16) (subindex : UInt8) :
    wire (readParameter index subindex) master =
      wire (transfer (.read index subindex)
        (Collector.ofRequest (.read index subindex) master.settings.pollLimit)) master := by
  simp only [readParameter, wire_bind, wire_note, wire_get, Dialogue.done_bind, andThen_ok]
  refine (congrArg (Dialogue.bind _) (funext fun (result, target) => ?_)).trans
    (Dialogue.bind_done _)
  cases result with
  | error error => rfl
  | ok data => simp

theorem wire_writeParameter (index : UInt16) (subindex : UInt8) {data : List UInt8}
    (length_le : data.length ≤ maxWriteLength) :
    wire (writeParameter index subindex data) master =
      wire (transfer (.write index subindex data length_le)
        (Acknowledgement.ofRequest (.write index subindex data length_le)
          master.settings.pollLimit) >>= fun _ => pure ()) master := by
  have hrequest : Request.ofData index subindex data = .ok (.write index subindex data length_le) :=
    dif_pos length_le
  simp only [writeParameter, hrequest, wire_bind, wire_note, wire_orThrow, mapError_ok, wire_get,
    Dialogue.done_bind, andThen_ok]
  refine congrArg (Dialogue.bind _) (funext fun (result, target) => ?_)
  cases result with
  | error error => rfl
  | ok answer => simp

/-- A write whose data is too long makes no call. -/
theorem wire_writeParameter_of_lt (index : UInt16) (subindex : UInt8) {data : List UInt8}
    (h : maxWriteLength < data.length) :
    wire (writeParameter index subindex data) master =
      .done (.error (.transfer (.dataTooLong data.length)), master) := by
  have hrequest : Request.ofData index subindex data = .error (.dataTooLong data.length) :=
    dif_neg (Nat.not_le.mpr h)
  simp [writeParameter, hrequest]

end Master

end Sdci
