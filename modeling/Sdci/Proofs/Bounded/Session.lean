import Sdci.Proofs.Bounded.Master
import Sdci.Proofs.Master.Connection
import Sdci.Script

/-!
# Sessions within bounds

No operation of a session leaves the range of anything it is built on, whatever the line answers:
the geometry stays within the limits of its type, and every step is performed within bounds as it is
without (`Master.session_within_bounds`). Only a transfer at the largest poll limit breaks off
(`Bounded.perform_of_breaksOff`).
-/

namespace Sdci

/-- The lengths of the process data are within the limits of the type. -/
def Geometry.WithinLimits (geometry : Geometry) : Prop :=
  match geometry.sequenceType with
  | .type0 => geometry.inputLength = 0 ∧ geometry.outputLength = 0
  | .type1V | .type2V =>
    (2 ≤ geometry.inputLength ∧ geometry.inputLength ≤ 32) ∧
      2 ≤ geometry.outputLength ∧ geometry.outputLength ≤ 32
  | .type11 | .type12 | .type21 | .type22 =>
    geometry.inputLength ≤ 32 ∧ geometry.outputLength ≤ 32

theorem Geometry.withinLimits (geometry : Geometry) : geometry.WithinLimits := by
  obtain ⟨type, inputLength, outputLength, hinput, houtput⟩ := geometry
  cases type <;> exact ⟨hinput, houtput⟩

namespace Bounded

/-- The action that an operation asks for. -/
def action : Operation → Action Outcome
  | .wakeUp => do wakeUp; return .nothing
  | .probe => return .response (← probe)
  | .startUp => do startUp; return .nothing
  | .enterOperate => do enterOperate; return .nothing
  | .cycle processData octet => return .response (← cycle processData octet)
  | .cycleWith processData od => return .response (← cycleWith processData od)
  | .damagedCycle processData octet => return .response (← damagedCycle processData octet)
  | .injectFaults count => return .count (← injectFaults count)
  | .resize inputLength outputLength => do
    Master.resize inputLength outputLength
    return .nothing
  | .reconfigure geometry => do Master.reconfigure geometry; return .nothing
  | .switchPhyMode mode => do Master.switchPhyMode mode; return .nothing
  | .selectBaudRate name => do Master.selectBaudRate name; return .nothing
  | .useBaudRate rate => do Master.useBaudRate rate; return .nothing
  | .requestEvent => return .event (← requestEvent)
  | .readParameter index subindex => return .data (← readParameter index subindex)
  | .writeParameter index subindex data => do
    writeParameter index subindex data
    return .nothing

/-- The dialogue of a master that performs an operation; `none` if it leaves a range. -/
def perform (operation : Operation) (master : Master) :
    Dialogue (Option (Except MasterError Outcome × Master)) :=
  start (action operation) master

variable {α β : Type} {master : Master}

theorem start_within (action : Master.Action α) :
    start (within action) master = some <$> action.start master := rfl

theorem start_bind_congr {first second : Action α} (h : start first master = start second master)
    (next : α → Action β) : start (first >>= next) master = start (second >>= next) master :=
  congrArg (fun dialogue => Dialogue.bind dialogue _) h

/-- An operation breaks off if it is a transfer with a request, and one look more than the limit is
no number. -/
theorem breaksOff_iff (operation : Operation) :
    operation.breaksOff master = true ↔
      Reply.lengthModulus ≤ master.settings.pollLimit + 1 ∧
        ((∃ index subindex, operation = .readParameter index subindex) ∨
          ∃ index subindex data request, operation = .writeParameter index subindex data ∧
            Isdu.Request.ofData index subindex data = .ok request) := by
  cases operation with
  | readParameter index subindex =>
    simp [Operation.breaksOff, Isdu.Collector.ofRequest?_eq_none_iff]
  | writeParameter index subindex data =>
    cases hrequest : Isdu.Request.ofData index subindex data with
    | error error => simp [Operation.breaksOff, hrequest]
    | ok request =>
      rw [Operation.breaksOff, hrequest]
      simp only [Option.isNone_iff_eq_none, Isdu.Acknowledgement.ofRequest?_eq_none_iff]
      constructor
      · intro hlimit
        exact ⟨hlimit, .inr ⟨index, subindex, data, request, rfl, hrequest⟩⟩
      · exact And.left
  | _ => simp [Operation.breaksOff]

/-- An operation that does not break off is performed within bounds. -/
theorem perform_eq {operation : Operation} (h : operation.breaksOff master = false) :
    perform operation master = some <$> operation.perform master := by
  rw [Bool.eq_false_iff, ne_eq, breaksOff_iff] at h
  rw [perform, Operation.perform, ← start_within]
  cases operation with
  | readParameter index subindex =>
    have hlimit : master.settings.pollLimit + 1 < Reply.lengthModulus :=
      Nat.lt_of_not_le fun hle => h ⟨hle, .inl ⟨_, _, rfl⟩⟩
    rw [action, Operation.action, within_bind]
    exact start_bind_congr (start_readParameter hlimit index subindex) _
  | writeParameter index subindex data =>
    rw [action, Operation.action, within_bind]
    refine start_bind_congr (start_writeParameter fun request hrequest => ?_) _
    exact Nat.lt_of_not_le fun hle => h ⟨hle, .inr ⟨_, _, _, request, rfl, hrequest⟩⟩
  | resize | reconfigure | switchPhyMode | selectBaudRate | useBaudRate =>
    rw [action, Operation.action, within_bind]
    rfl
  | _ =>
    simp only [action, Operation.action, within_bind, within_pure, wakeUp_eq, probe_eq, startUp_eq,
      enterOperate_eq, cycle_eq, cycleWith_eq, damagedCycle_eq, injectFaults_eq, requestEvent_eq]

/-- An operation that breaks off has written a notice, and no more. -/
theorem perform_of_breaksOff {operation : Operation} (h : operation.breaksOff master = true) :
    ∃ notice, perform operation master = .ask (.note notice) fun _ => .done none := by
  obtain ⟨hlimit, ⟨index, subindex, rfl⟩ | ⟨index, subindex, data, request, rfl, hrequest⟩⟩ :=
    (breaksOff_iff operation).mp h
  · exact ⟨_, congrArg (Dialogue.bind · _) (start_readParameter_of_le hlimit index subindex)⟩
  · exact ⟨_, congrArg (Dialogue.bind · _) (start_writeParameter_of_le hlimit hrequest)⟩

end Bounded

/-- In every session whose poll limit leaves room for one look more, whatever is done and whatever
the line answers, the geometry is within the limits of its type, and every step can be performed
without leaving any range, with the calls and the results that it has. -/
theorem Master.session_within_bounds {geometry : Geometry} {settings : Settings}
    (h : settings.pollLimit + 1 < Reply.lengthModulus) {steps : List Step} {target : Master}
    (run : Run (Master.new geometry settings) steps target) :
    target.geometry.WithinLimits ∧
      ∀ step ∈ steps, step.source.geometry.WithinLimits ∧
        Bounded.perform step.operation step.source =
          some <$> step.operation.perform step.source := by
  refine ⟨target.geometry.withinLimits, fun step hmem => ⟨step.source.geometry.withinLimits, ?_⟩⟩
  apply Bounded.perform_eq
  rw [Bool.eq_false_iff, ne_eq, Bounded.breaksOff_iff, run.source_settings step hmem]
  exact fun hbreaks => Nat.not_le.mpr h hbreaks.1

/-- The largest frames, and replies of no form. -/
theorem Master.session_within_bounds_of_garbage :
    let settings : Settings := { pollLimit := Reply.lengthModulus - 2 }
    let answers : Script :=
      { replies := [.octets [], .octets (Checksum.attach [0]), .octets (List.replicate 40 7)] }
    let operations := [.startUp, .cycle [] 0, .readParameter 0x10 0, .requestEvent]
    let session := (Master.new ⟨.type2V, 32, 32, by decide, by decide⟩ settings).steps answers operations
    session.1.map Step.operation = operations ∧
      ∀ step ∈ session.1, Bounded.perform step.operation step.source =
        some <$> step.operation.perform step.source := by
  intro settings answers operations session
  have hlimit : settings.pollLimit + 1 < Reply.lengthModulus := by decide
  refine ⟨map_operation_steps _ _ _, fun step hmem => ?_⟩
  exact ((session_within_bounds hlimit (run_steps _ answers operations)).2 step hmem).2

end Sdci
