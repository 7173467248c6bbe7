import Sdci.Proofs.Master.Connection

/-!
# Operations that are rejected

Which operations a master rejects, and with which error, follows from the master alone
(`Operation.refusal?`). A rejected operation does nothing at all (`Step.of_refusal`), and one that
is not rejected never ends in a rejection later on, whatever the line answers (`Step.rejected_iff`).
-/

namespace Sdci

/-- The error rejects an operation: its arguments, or the state, do not allow it. -/
@[simp]
def MasterError.isRejection : MasterError → Bool
  | setting _ | notAllowed .. | frame _ | transfer (.dataTooLong _) => true
  | transport _ | startupFailed _ | notConfirmed | transfer _ => false

/-! ### What is rejected -/

namespace Operation

/-- The rejection of a setting, if it is rejected. -/
def settingRefusal? {α : Type} : Except SettingError α → Option MasterError
  | .ok _ => none
  | .error error => some (.setting error)

/-- The error that a master rejects an operation with, if it rejects it. -/
def refusal? (operation : Operation) (master : Master) : Option MasterError :=
  match operation with
  | enterOperate =>
    if master.state = .preoperate then none
    else some (.notAllowed .enterOperate master.state)
  | cycleWith _ od =>
    if master.state ≠ .startup ∧ master.geometry.isCyclic ∧ od.width ≠ master.geometry.odWidth then
      some (.frame (.onRequestDataLength od.width master.geometry.odWidth))
    else none
  | resize inputLength outputLength =>
    settingRefusal? (master.geometry.resize inputLength outputLength)
  | reconfigure geometry =>
    if geometry = master.geometry then none
    else if geometry.sequenceType = master.geometry.sequenceType then
      settingRefusal? (master.geometry.resize geometry.inputLength geometry.outputLength)
    else if master.state = .startup ∨ master.state = .preoperate then none
    else some (.notAllowed .changeSequenceType master.state)
  | switchPhyMode _ =>
    if master.state = .operate then none else some (.notAllowed .switchPhyMode master.state)
  | selectBaudRate name => settingRefusal? (BaudRate.ofText name)
  | writeParameter _ _ data =>
    if data.length ≤ Isdu.maxWriteLength then none
    else some (.transfer (.dataTooLong data.length))
  | wakeUp | probe | startUp | cycle .. | damagedCycle .. | injectFaults _ | useBaudRate _
  | requestEvent | readParameter .. => none

end Operation

namespace Master

open Master.Action Isdu

variable {α β : Type} {master : Master}

/-- The outcome is not that of a rejected operation. -/
def NotRejected (outcome : Except MasterError α × Master) : Prop :=
  ∀ error, outcome.1 = .error error → error.isRejection = false

@[simp]
theorem notRejected_ok (value : α) : NotRejected (.ok value, master) := fun _ => nofun

@[simp]
theorem notRejected_error {error : MasterError} :
    NotRejected ((.error error, master) : Except MasterError α × Master) ↔
      error.isRejection = false := by
  simp [NotRejected]

/-- An action that is not rejected, and what follows it. -/
theorem notRejected_bind {action : Action α} {f : α → Action β}
    (h : (action.wire master).Always NotRejected)
    (hf : ∀ value target, ((f value).wire target).Always NotRejected) :
    (wire (action >>= f) master).Always NotRejected := by
  rw [always_wire_bind]
  refine h.mono fun ⟨result, target⟩ hresult => ?_
  cases result with
  | error error => exact fun other heq => hresult other (congrArg _ (Except.error.inj heq))
  | ok value => exact hf value target

/-! ### Actions that are not rejected -/

theorem notRejected_wakeUp : (wire wakeUp master).Always NotRejected := by
  rw [wakeUp, wire_sendFrame, Dialogue.always_ask, always_orFail]
  simp

theorem notRejected_probe : (wire probe master).Always NotRejected := by
  rw [wire_probe, always_roundTrip]
  simp

theorem notRejected_probeUntilValid (attempts left : Nat) :
    (wire (probeUntilValid attempts left) master).Always NotRejected := by
  induction left with
  | zero =>
    rw [wire_probeUntilValid_zero]
    simp
  | succ left ih =>
    rw [wire_probeUntilValid_succ, always_roundTrip]
    refine ⟨by simp, fun reply => ?_⟩
    split
    · simp
    · exact ih

theorem notRejected_startUp : (wire startUp master).Always NotRejected := by
  rw [wire_startUp, always_announce]
  exact ⟨by simp, notRejected_probeUntilValid _ _⟩

theorem notRejected_enterOperate (h : master.state = .preoperate) :
    (wire enterOperate master).Always NotRejected := by
  rw [wire_enterOperate _ h, always_announce, always_roundTrip]
  refine ⟨by simp, by simp, fun reply => ?_⟩
  split <;> simp

theorem notRejected_cycleWith {processData : List UInt8} {od : OnRequestData}
    (h : master.state ≠ .startup → master.geometry.isCyclic → od.width = master.geometry.odWidth) :
    (wire (cycleWith processData od) master).Always NotRejected := by
  by_cases hstate : master.state = .startup
  · rw [wire_cycleWith_of_startup master hstate]
    simp
  · rw [wire_cycleWith master hstate _ (h hstate), always_roundTrip]
    simp

theorem notRejected_cycle (processData : List UInt8) (octet : UInt8) :
    (wire (cycle processData octet) master).Always NotRejected := by
  rw [wire_cycle_eq]
  exact notRejected_cycleWith fun _ _ => master.geometry.width_ofFirst octet

theorem notRejected_damagedCycle (processData : List UInt8) (octet : UInt8) :
    (wire (damagedCycle processData octet) master).Always NotRejected := by
  rw [wire_damagedCycle, always_roundTrip]
  simp

theorem notRejected_countAnswered (answered count : Nat) :
    (wire (countAnswered answered count) master).Always NotRejected := by
  induction count generalizing answered with
  | zero => exact notRejected_ok _
  | succ count ih =>
    rw [wire_countAnswered_succ, always_roundTrip]
    exact ⟨by simp, fun _ => ih _⟩

theorem notRejected_injectFaults (count : Nat) :
    (wire (injectFaults count) master).Always NotRejected := by
  rw [injectFaults, wire_bind, wire_note, Dialogue.done_bind, andThen_ok]
  refine notRejected_bind (notRejected_countAnswered 0 count) fun answered target => ?_
  by_cases hpos : answered > 0 <;> simp [hpos]

theorem notRejected_requestEvent : (wire requestEvent master).Always NotRejected := by
  by_cases hstate : master.state = .startup
  · rw [wire_requestEvent_of_startup master hstate]
    simp
  · rw [wire_requestEvent master hstate, always_roundTrip]
    simp

/-! ### Transfers -/

theorem notRejected_transferOctet (target : Target) (octet : UInt8) :
    (wire (transferOctet target octet) master).Always NotRejected := by
  by_cases hstate : master.state = .startup
  · rw [wire_transferOctet_of_startup master hstate]
    simp
  · rw [wire_transferOctet master hstate, always_roundTrip]
    refine ⟨by simp, fun reply => ?_⟩
    split <;> simp

theorem notRejected_sendOctets (target : Target) (answer : UInt8) (octets : List UInt8) :
    (wire (sendOctets target answer octets) master).Always NotRejected := by
  induction octets generalizing answer master with
  | nil => exact notRejected_ok _
  | cons octet rest ih =>
    exact notRejected_bind (notRejected_transferOctet target octet) fun answer _ => ih answer

theorem notRejected_listen {ρ : Type} [Receiver ρ α]
    (hfeed : ∀ (receiver : ρ) octet error, Receiver.feed receiver octet = .done (.error error) →
      (MasterError.transfer error).isRejection = false)
    (target : Target) (receiver : ρ) (octet : UInt8) :
    (wire (listen target receiver octet : Action α) master).Always NotRejected := by
  induction receiver, octet using Receiver.feed_induction generalizing master with
  | done receiver octet result hdone =>
    rw [wire_listen_of_done master target hdone]
    cases result with
    | ok answer => exact notRejected_ok answer
    | error error => exact notRejected_error.mpr (hfeed receiver octet error hdone)
  | needData receiver octet next hnext ih =>
    rw [listen_of_needData target hnext]
    exact notRejected_bind (notRejected_transferOctet target 0) fun answer _ => ih answer

theorem notRejected_transfer {ρ : Type} [Receiver ρ α]
    (hfeed : ∀ (receiver : ρ) octet error, Receiver.feed receiver octet = .done (.error error) →
      (MasterError.transfer error).isRejection = false)
    (request : Request) (receiver : ρ) :
    (wire (transfer request receiver : Action α) master).Always NotRejected :=
  notRejected_bind (notRejected_sendOctets request.target 0 request.odOctets) fun answer _ =>
    notRejected_listen hfeed request.target receiver answer

/-- A collector fails for want of a start or of an end. -/
theorem notRejected_of_collector (collector : Collector) (octet : UInt8) (error : TransferError)
    (h : Receiver.feed collector octet = .done (.error error)) :
    (MasterError.transfer error).isRejection = false := by
  change collector.feed octet = .done (.error error) at h
  rw [Collector.feed] at h
  split at h
  · split at h
    · cases h
    split at h
    · cases h
    split at h
    · cases h
      rfl
    · cases h
  · split at h
    · cases h
      rfl
    split at h <;> cases h
  · cases h

/-- A waiter for an acknowledgement fails for want of one. -/
theorem notRejected_of_acknowledgement (waiter : Acknowledgement) (octet : UInt8)
    (error : TransferError) (h : Receiver.feed waiter octet = .done (.error error)) :
    (MasterError.transfer error).isRejection = false := by
  change waiter.feed octet = .done (.error error) at h
  rw [Acknowledgement.feed] at h
  split at h
  · cases h
  split at h
  · cases h
    rfl
  · cases h

/-! ### Actions that may be rejected -/

/-- The dialogue is the rejection with the given error, or it never ends in one. -/
inductive Refuses (master : Master) :
    Option MasterError → Dialogue (Except MasterError α × Master) → Prop
  | rejected (error : MasterError) : Refuses master (some error) (.done (.error error, master))
  | proceeds {dialogue : Dialogue (Except MasterError α × Master)}
    (h : dialogue.Always NotRejected) : Refuses master none dialogue

theorem Refuses.eq_done {error : MasterError} {dialogue : Dialogue (Except MasterError α × Master)}
    (h : Refuses master (some error) dialogue) : dialogue = .done (.error error, master) := by
  cases h
  rfl

/-- Giving back something else rejects the same. -/
theorem Refuses.bind_pure {refusal? : Option MasterError} {action : Action α} {f : α → β}
    (h : Refuses master refusal? (action.wire master)) :
    Refuses master refusal? (wire (action >>= fun value => pure (f value)) master) := by
  rw [wire_bind]
  generalize action.wire master = dialogue at h
  cases h with
  | rejected error => exact .rejected error
  | proceeds h =>
    refine .proceeds (Dialogue.always_bind.mpr (h.mono fun ⟨result, target⟩ hresult => ?_))
    cases result with
    | error error => exact fun other heq => hresult other (congrArg _ (Except.error.inj heq))
    | ok value => exact notRejected_ok _

theorem refuses_enterOperate :
    Refuses master (Operation.enterOperate.refusal? master) (wire enterOperate master) := by
  rw [Operation.refusal?]
  split
  · next hstate => exact .proceeds (notRejected_enterOperate hstate)
  · next hstate =>
    rw [wire_enterOperate_of_state _ hstate]
    exact .rejected _

theorem refuses_cycleWith (processData : List UInt8) (od : OnRequestData) :
    Refuses master ((Operation.cycleWith processData od).refusal? master)
      (wire (cycleWith processData od) master) := by
  rw [Operation.refusal?]
  split
  · next h =>
    rw [wire_cycleWith_of_width _ h.1 h.2.1 _ h.2.2]
    exact .rejected _
  · next h =>
    refine .proceeds (notRejected_cycleWith fun hstate hcyclic => ?_)
    exact Decidable.byContradiction fun hne => h ⟨hstate, hcyclic, hne⟩

theorem refuses_resize (inputLength outputLength : Nat) :
    Refuses master ((Operation.resize inputLength outputLength).refusal? master)
      (wire (resize inputLength outputLength) master) := by
  rw [wire_resize, Operation.refusal?]
  cases master.geometry.resize inputLength outputLength with
  | ok geometry => exact .proceeds (notRejected_ok ())
  | error error => exact .rejected _

theorem refuses_reconfigure (geometry : Geometry) :
    Refuses master ((Operation.reconfigure geometry).refusal? master)
      (wire (reconfigure geometry) master) := by
  rw [wire_reconfigure, Operation.refusal?]
  split
  · exact .proceeds (notRejected_ok ())
  split
  · exact refuses_resize _ _
  split
  · exact .proceeds (notRejected_ok ())
  · exact .rejected _

theorem refuses_switchPhyMode (mode : PhyMode) :
    Refuses master ((Operation.switchPhyMode mode).refusal? master)
      (wire (switchPhyMode mode) master) := by
  rw [wire_switchPhyMode, Operation.refusal?]
  split
  · exact .proceeds (notRejected_ok ())
  · exact .rejected _

theorem refuses_selectBaudRate (name : String) :
    Refuses master ((Operation.selectBaudRate name).refusal? master)
      (wire (selectBaudRate name) master) := by
  rw [wire_selectBaudRate, Operation.refusal?]
  cases BaudRate.ofText name with
  | ok rate => exact .proceeds (notRejected_ok ())
  | error error => exact .rejected _

theorem refuses_writeParameter (index : UInt16) (subindex : UInt8) (data : List UInt8) :
    Refuses master ((Operation.writeParameter index subindex data).refusal? master)
      (wire (writeParameter index subindex data) master) := by
  rw [Operation.refusal?]
  split
  · next hlength =>
    rw [wire_writeParameter _ _ _ hlength]
    exact .proceeds (notRejected_bind (notRejected_transfer notRejected_of_acknowledgement _ _)
      fun _ _ => notRejected_ok ())
  · next hlength =>
    rw [wire_writeParameter_of_lt _ _ _ (Nat.not_le.mp hlength)]
    exact .rejected _

end Master

/-! ### Steps -/

open Master Master.Action

/-- What is rejected is rejected at once, and all the rest is not rejected at all. -/
theorem Operation.refuses (operation : Operation) (master : Master) :
    Refuses master (operation.refusal? master) (operation.action.wire master) := by
  have hproceeds {α : Type} {action : Action α} {f : α → Outcome}
      (h : (action.wire master).Always NotRejected) :
      Refuses master none (wire (action >>= fun value => pure (f value)) master) :=
    (Refuses.proceeds h).bind_pure
  cases operation with
  | wakeUp => exact hproceeds notRejected_wakeUp
  | probe => exact hproceeds notRejected_probe
  | startUp => exact hproceeds notRejected_startUp
  | enterOperate => exact refuses_enterOperate.bind_pure
  | cycle processData octet => exact hproceeds (notRejected_cycle processData octet)
  | cycleWith processData od => exact (refuses_cycleWith processData od).bind_pure
  | damagedCycle processData octet => exact hproceeds (notRejected_damagedCycle processData octet)
  | injectFaults count => exact hproceeds (notRejected_injectFaults count)
  | resize inputLength outputLength => exact (refuses_resize inputLength outputLength).bind_pure
  | reconfigure geometry => exact (refuses_reconfigure geometry).bind_pure
  | switchPhyMode mode => exact (refuses_switchPhyMode mode).bind_pure
  | selectBaudRate name => exact (refuses_selectBaudRate name).bind_pure
  | useBaudRate rate =>
    apply hproceeds
    rw [wire_useBaudRate]
    exact notRejected_ok ()
  | requestEvent => exact hproceeds notRejected_requestEvent
  | readParameter index subindex =>
    apply hproceeds
    rw [wire_readParameter]
    exact notRejected_transfer notRejected_of_collector _ _
  | writeParameter index subindex data => exact (refuses_writeParameter index subindex data).bind_pure

namespace Step

variable {step : Step} {error : MasterError}

/-- A rejected step makes no call and leaves the master as it is. -/
theorem of_refusal (h : step.operation.refusal? step.source = some error) :
    step.traffic = [] ∧ step.result = .error error ∧ step.target = step.source := by
  have hrefuses := step.operation.refuses step.source
  rw [h] at hrefuses
  exact step.of_wire_eq_done hrefuses.eq_done

/-- The rejections of a step are those of its operation. -/
theorem rejected_iff (h : error.isRejection) :
    step.result = .error error ↔ step.operation.refusal? step.source = some error := by
  refine ⟨fun hresult => ?_, fun hrefusal => (of_refusal hrefusal).2.1⟩
  have hrefuses := step.operation.refuses step.source
  cases hrefusal : step.operation.refusal? step.source with
  | some other =>
    rw [(of_refusal hrefusal).2.1] at hresult
    exact congrArg some (Except.error.inj hresult)
  | none =>
    rw [hrefusal] at hrefuses
    cases hrefuses with
    | proceeds hproceeds =>
      have hnot : error.isRejection = false := hproceeds.of_path step.path_wire error hresult
      rw [h] at hnot
      cases hnot

end Step

end Sdci
