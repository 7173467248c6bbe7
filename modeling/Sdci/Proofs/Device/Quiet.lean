import Sdci.Proofs.Device.Line

/-!
# Operations that begin no request

Most operations of a master only poll a device: it loses octets that it has queued and nothing else
(`Operation.drained_step`).
-/

namespace Sdci

/-- The operation leaves the geometry alone and begins no request of its own. -/
def Operation.sparesDevice : Operation → Bool
  | resize .. | reconfigure _ => false
  | cycle _ octet => !(Isdu.ControlByte.mk octet).isStart
  | cycleWith _ od => !(Isdu.ControlByte.mk od.first).isStart
  | _ => true

/-- The operation has a result that depends on what the device knows. -/
def Operation.isService : Operation → Bool
  | startUp | requestEvent | readParameter .. | writeParameter .. => true
  | _ => false

namespace Device

variable {device before after : Device}

/-- Of the device before, some octets of its queue are gone, and the request is another one. -/
def Drained (before after : Device) : Prop :=
  ∃ count request, after = { before with request, outbound := before.outbound.drop count }

theorem Drained.refl (device : Device) : device.Drained device := ⟨0, device.request, rfl⟩

theorem drained_tail (device : Device) :
    device.Drained { device with outbound := device.outbound.tail } :=
  ⟨1, device.request, by rw [List.drop_one]⟩

theorem drained_reset (hidle : device.intake = .idle) : device.Drained device.reset := by
  refine ⟨device.outbound.length, [], ?_⟩
  rw [List.drop_length, reset, ← hidle]

/-- A queue of one octet at most stays one. -/
theorem Drained.tail_outbound (h : before.Drained after) (hout : before.outbound.tail = []) :
    after.outbound.tail = [] := by
  obtain ⟨count, request, rfl⟩ := h
  rw [← List.drop_one] at hout ⊢
  rw [List.drop_drop, Nat.add_comm, ← List.drop_drop, hout, List.drop_nil]

end Device

namespace Master

open Master.Action Isdu

variable {master : Master} {device : Device}

theorem Reaches.drained {frame : List UInt8} {octet : UInt8}
    (h : master.Reaches device frame octet) (hidle : device.intake = .idle)
    (hstart : (ControlByte.mk octet).isStart = false) :
    device.Drained (device.handle frame).2 := by
  obtain ⟨reply, hhandle, -⟩ := h
  rw [hhandle, Device.exchange_of_idle hidle hstart]
  exact Device.drained_tail device

theorem drained_idleFrame (hidle : device.intake = .idle) :
    device.Drained (device.handle (Frame.plain Command.idle.octet 0)).2 := by
  have hhandle : device.handle (Frame.plain Command.idle.octet 0) = device.answerPlain 0 :=
    handle_of_spares (spares_zero device)
  rw [hhandle]
  show device.Drained (device.exchange 0).2
  rw [Device.exchange_of_idle hidle rfl]
  exact Device.drained_tail device

theorem drained_cycleFrame (hidle : device.intake = .idle)
    (hgeometry : device.geometry = master.geometry) {od : OnRequestData}
    (hwidth : master.geometry.isCyclic → od.width = master.geometry.odWidth)
    (hstart : (ControlByte.mk od.first).isStart = false) (processData : List UInt8) :
    device.Drained (device.handle (master.cycleFrame processData od)).2 := by
  by_cases hcyclic : master.geometry.isCyclic
  · rw [cycleFrame, if_pos hcyclic]
    exact (reaches_cyclic hgeometry hcyclic (hwidth hcyclic) processData).drained hidle hstart
  · rw [cycleFrame, if_neg hcyclic]
    exact drained_idleFrame hidle

theorem handle_damage_cycleFrame (processData : List UInt8) (od : OnRequestData) :
    device.handle (Frame.damage (master.cycleFrame processData od)) = (none, device) := by
  by_cases hcyclic : master.geometry.isCyclic
  · rw [cycleFrame, if_pos hcyclic, Geometry.cyclicFrame_eq, Device.handle_damage]
    rw [master.geometry.length_cyclicBody]
    omega
  · rw [cycleFrame, if_neg hcyclic, Device.handle_damage_plain]

/-! ### Actions -/

section Play

variable {α : Type} {line : Device.Line}

theorem drained_roundTrip {frame : List UInt8} {count timeout : Nat}
    {next : Option (List UInt8) → Dialogue (Except MasterError α × Master)}
    (hframe : line.device.Drained (line.device.handle frame).2)
    (hnext : ∀ reply, ∃ outcome, next reply = .done outcome) :
    line.device.Drained ((roundTrip master frame count timeout next).play line).2.device := by
  obtain ⟨outcome, hdone⟩ := hnext (line.device.handle frame).1
  rw [play_roundTrip, hdone]
  exact hframe

variable (hidle : line.device.intake = .idle) (hgeometry : line.device.geometry = master.geometry)

include hidle

theorem drained_wakeUp : line.device.Drained ((wire wakeUp master).play line).2.device := by
  rw [wakeUp, wire_sendFrame, play_send, Device.handle_wakeUp hidle]
  exact Device.drained_reset hidle

theorem drained_probe : line.device.Drained ((wire probe master).play line).2.device := by
  rw [wire_probe]
  exact drained_roundTrip (drained_idleFrame hidle) fun _ => ⟨_, rfl⟩

include hgeometry

theorem drained_cycleWith (processData : List UInt8) {od : OnRequestData}
    (hstart : (ControlByte.mk od.first).isStart = false) :
    line.device.Drained ((wire (cycleWith processData od) master).play line).2.device := by
  by_cases hstate : master.state = .startup
  · rw [wire_cycleWith_of_startup _ hstate]
    exact .refl _
  by_cases hwidth : master.geometry.isCyclic → od.width = master.geometry.odWidth
  · rw [wire_cycleWith _ hstate _ hwidth]
    exact drained_roundTrip (drained_cycleFrame hidle hgeometry hwidth hstart processData)
      fun _ => ⟨_, rfl⟩
  · obtain ⟨hcyclic, hne⟩ := Classical.not_imp.mp hwidth
    rw [wire_cycleWith_of_width _ hstate hcyclic _ hne]
    exact .refl _

theorem drained_cycle (processData : List UInt8) {octet : UInt8}
    (hstart : (ControlByte.mk octet).isStart = false) :
    line.device.Drained ((wire (cycle processData octet) master).play line).2.device := by
  rw [wire_cycle_eq]
  apply drained_cycleWith hidle hgeometry
  rw [OnRequestData.first_ofFirst]
  exact hstart

theorem drained_enterOperate :
    line.device.Drained ((wire enterOperate master).play line).2.device := by
  by_cases hstate : master.state = .preoperate
  · have hcycle : line.device.Drained (line.device.handle
        (master.cycleFrame [] (.ofFirst master.geometry.odWidth 0))).2 := by
      apply drained_cycleFrame hidle hgeometry
      · intro _
        exact master.geometry.width_ofFirst 0
      · rw [OnRequestData.first_ofFirst]
        rfl
    rw [wire_enterOperate _ hstate, play_announce, Device.handle_operate hidle]
    exact @drained_roundTrip _ _ ⟨line.device, none⟩ _ _ _ _ hcycle fun reply => by
      split <;> exact ⟨_, rfl⟩
  · rw [wire_enterOperate_of_state _ hstate]
    exact .refl _

omit hidle hgeometry

/-- Damaged frames do nothing to a device. -/
theorem device_damagedCycle (processData : List UInt8) (octet : UInt8) :
    ((wire (damagedCycle processData octet) master).play line).2.device = line.device := by
  rw [wire_damagedCycle, play_roundTrip, handle_damage_cycleFrame]
  rfl

theorem device_countAnswered (answered count : Nat) :
    ((wire (countAnswered answered count) master).play line).2.device = line.device := by
  induction count generalizing answered line with
  | zero => rfl
  | succ count ih =>
    rw [wire_countAnswered_succ, play_roundTrip, handle_damage_cycleFrame, ih]

theorem device_injectFaults (count : Nat) :
    ((wire (injectFaults count) master).play line).2.device = line.device := by
  have hcount : ((wire (countAnswered 0 count) master).play line).2.device = line.device :=
    device_countAnswered 0 count
  rw [injectFaults, wire_bind, wire_note, Dialogue.done_bind, andThen_ok, wire_bind,
    Dialogue.play_bind]
  rcases ((wire (countAnswered 0 count) master).play line).1 with ⟨error | answered, target⟩
  · exact hcount
  · by_cases hpos : answered > 0 <;> simpa [hpos] using hcount

end Play

end Master

/-! ### Operations -/

namespace Operation

open Master Master.Action

variable {operation : Operation} {α : Type}

theorem drained_step (hspares : operation.sparesDevice = true)
    (hservice : operation.isService = false) {master : Master} {line : Device.Line}
    (hidle : line.device.intake = .idle) (hgeometry : line.device.geometry = master.geometry) :
    line.device.Drained (operation.step master line).2.device := by
  have hstep {α : Type} {action : Action α} {f : α → Outcome}
      (h : operation.action = action >>= fun value => pure (f value))
      (hplay : line.device.Drained ((wire action master).play line).2.device) :
      line.device.Drained (operation.step master line).2.device := by
    rw [(step_eq action operation h master line).2.2]
    exact hplay
  cases operation with
  | wakeUp => exact hstep rfl (drained_wakeUp hidle)
  | probe => exact hstep rfl (drained_probe hidle)
  | enterOperate => exact hstep rfl (drained_enterOperate hidle hgeometry)
  | cycle processData octet =>
    apply hstep rfl
    exact drained_cycle hidle hgeometry processData (by simpa [sparesDevice] using hspares)
  | cycleWith processData od =>
    apply hstep rfl
    exact drained_cycleWith hidle hgeometry processData (by simpa [sparesDevice] using hspares)
  | damagedCycle processData octet =>
    apply hstep rfl
    rw [device_damagedCycle]
    exact .refl _
  | injectFaults count =>
    apply hstep rfl
    rw [device_injectFaults]
    exact .refl _
  | switchPhyMode mode =>
    apply hstep rfl
    rw [wire_switchPhyMode]
    split <;> exact .refl _
  | selectBaudRate name =>
    apply hstep rfl
    rw [wire_selectBaudRate]
    split <;> exact .refl _
  | useBaudRate rate =>
    apply hstep rfl
    rw [wire_useBaudRate]
    exact .refl _
  | resize inputLength outputLength | reconfigure geometry => cases hspares
  | startUp | requestEvent | readParameter index subindex | writeParameter index subindex data =>
    cases hservice

end Operation

namespace Step

open Master

variable {step : Step}

/-- An operation that spares the device keeps the geometry. -/
theorem target_geometry (hspares : step.operation.sparesDevice = true) :
    step.target.geometry = step.source.geometry := by
  by_cases hconfigures : step.operation.configures = true
  · have hkeep {action : Action Unit}
        (h : step.operation.action = action >>= fun _ => pure .nothing)
        (hgeometry : (action.wire step.source).Always
          fun outcome => outcome.2.geometry = step.source.geometry) :
        step.target.geometry = step.source.geometry :=
      target_of_always (p := fun target => target.geometry = step.source.geometry) h hgeometry
    cases h : step.operation with
    | switchPhyMode mode =>
      apply hkeep (by rw [h]; rfl)
      rw [wire_switchPhyMode]
      split <;> exact rfl
    | selectBaudRate name =>
      apply hkeep (by rw [h]; rfl)
      rw [wire_selectBaudRate]
      split <;> exact rfl
    | useBaudRate rate =>
      apply hkeep (by rw [h]; rfl)
      rw [wire_useBaudRate]
      exact rfl
    | _ => simp_all [Operation.sparesDevice, Operation.configures]
  · obtain ⟨state, htarget⟩ := step.target_entered (by simpa using hconfigures)
    rw [htarget, enter_geometry]

end Step

/-- What an operation that spares the device keeps of a master in a connection. -/
theorem Operation.target_of_sparesDevice {σ : Type} [Transport σ] {operation : Operation}
    (hspares : operation.sparesDevice = true) {master : Master} {line : σ}
    (hstate : master.state ≠ .startup) {outcome : Step × σ}
    (hstep : operation.step master line = outcome) :
    outcome.1.target.geometry = master.geometry ∧ outcome.1.target.settings = master.settings ∧
      outcome.1.target.state ≠ .startup := by
  subst hstep
  exact ⟨Step.target_geometry hspares, Step.target_settings _, Step.target_connected hstate⟩

end Sdci
