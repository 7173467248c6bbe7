import Sdci.Proofs.Master.Refusal
import Sdci.Script

/-!
# Who changes the settings of a master

An operation that configures a master is rejected, or sets one thing and nothing else
(`Step.target_cases`). So over a run each of the geometry, the mode of the line and the transmission
rate is what the operations that own it have set last (`Master.settings_owned`), and a session that
is established or operates keeps its M-sequence type (`Master.geometry_settled`).
-/

namespace Sdci

open SequenceType (VariableLength)

/-! ### Geometries -/

/-- A variable type allows the lengths that a session may change to. -/
theorem SequenceType.allows_iff_of_isVariable {type : SequenceType} (h : type.isVariable)
    (length : Nat) : type.Allows length ↔ VariableLength length := by
  cases type with
  | type1V | type2V => rfl
  | type0 | type11 | type12 | type21 | type22 => cases h

namespace Geometry

variable {geometry other : Geometry} {inputLength outputLength : Nat}

/-- The lengths change in the range of the variable types, if the type is one of them. -/
theorem resize_eq_ok_iff :
    geometry.resize inputLength outputLength = .ok other ↔
      geometry.sequenceType.isVariable ∧ VariableLength inputLength ∧
        VariableLength outputLength ∧
          make geometry.sequenceType inputLength outputLength = .ok other := by
  rw [resize]
  by_cases hlengths : VariableLength inputLength ∧ VariableLength outputLength
  · by_cases hvariable : geometry.sequenceType.isVariable
    · simp [hlengths, hvariable]
    · simp [hlengths, hvariable]
  · simp only [hlengths, not_false_eq_true, if_true]
    constructor
    · intro h
      cases h
    · rintro ⟨-, hinput, houtput, -⟩
      exact absurd ⟨hinput, houtput⟩ hlengths

/-- A variable type has a geometry for each pair of lengths in its range. -/
theorem exists_resize (hvariable : geometry.sequenceType.isVariable)
    (hinput : VariableLength inputLength) (houtput : VariableLength outputLength) :
    ∃ other, geometry.resize inputLength outputLength = .ok other := by
  have hallows := SequenceType.allows_iff_of_isVariable hvariable
  refine ⟨⟨geometry.sequenceType, inputLength, outputLength, (hallows _).mpr hinput,
    (hallows _).mpr houtput⟩, resize_eq_ok_iff.mpr ⟨hvariable, hinput, houtput, ?_⟩⟩
  exact make_eq_ok_iff.mpr ⟨rfl, rfl, rfl⟩

/-- A geometry is one of its own type with its own lengths. -/
theorem eq_of_resize (htype : other.sequenceType = geometry.sequenceType) {result : Geometry}
    (h : geometry.resize other.inputLength other.outputLength = .ok result) : result = other := by
  have hmake := (resize_eq_ok_iff.mp h).2.2.2
  rw [← htype, make_eq_ok_iff.mpr ⟨rfl, rfl, rfl⟩] at hmake
  exact (Except.ok.inj hmake).symm

end Geometry

namespace Master

open Master.Action

variable {master : Master}

/-- The master may take on a geometry: it is the one it has, one with other lengths of the same
variable type, or one of another type before the transition to operate. -/
def Admits (master : Master) (geometry : Geometry) : Prop :=
  geometry = master.geometry ∨
    (geometry.sequenceType = master.geometry.sequenceType ∧ geometry.sequenceType.isVariable) ∨
      (geometry.sequenceType ≠ master.geometry.sequenceType ∧
        (master.state = .startup ∨ master.state = .preoperate))

/-- What becomes of a master when an operation configures it. -/
inductive Adopts (master : Master) : Operation → Master → Prop
  | lengths {inputLength outputLength : Nat} {geometry : Geometry}
    (h : master.geometry.resize inputLength outputLength = .ok geometry) :
    Adopts master (.resize inputLength outputLength) { master with geometry }
  | geometry {geometry : Geometry} (h : master.Admits geometry) :
    Adopts master (.reconfigure geometry) { master with geometry }
  | phyMode {phyMode : PhyMode} (h : master.state = .operate) :
    Adopts master (.switchPhyMode phyMode) { master with phyMode }
  | namedRate {name : String} {baudRate : BaudRate} (h : BaudRate.ofText name = .ok baudRate) :
    Adopts master (.selectBaudRate name) { master with baudRate }
  | baudRate (baudRate : BaudRate) : Adopts master (.useBaudRate baudRate) { master with baudRate }

/-- A geometry is rejected exactly if the master may not take it on. -/
theorem refusal_reconfigure_eq_none_iff {geometry : Geometry} :
    (Operation.reconfigure geometry).refusal? master = none ↔ master.Admits geometry := by
  rw [Operation.refusal?, Admits]
  by_cases heq : geometry = master.geometry
  · simp [heq]
  by_cases htype : geometry.sequenceType = master.geometry.sequenceType
  · simp only [heq, htype, if_true, if_false, false_or, ne_eq, not_true_eq_false, false_and,
      or_false, true_and]
    constructor
    · intro h
      cases hresize : master.geometry.resize geometry.inputLength geometry.outputLength with
      | ok other => exact (Geometry.resize_eq_ok_iff.mp hresize).1
      | error error =>
        rw [hresize] at h
        cases h
    · intro hvariable
      have hallows := SequenceType.allows_iff_of_isVariable hvariable
      obtain ⟨other, hother⟩ := Geometry.exists_resize hvariable
        ((hallows _).mp (htype ▸ geometry.input_allowed))
        ((hallows _).mp (htype ▸ geometry.output_allowed))
      rw [hother]
      rfl
  · simp only [heq, htype, if_false, false_or, false_and, ne_eq, not_false_eq_true, true_and]
    by_cases hstate : master.state = .startup ∨ master.state = .preoperate
    · simp [hstate]
    · simp [hstate]

/-- A master that may take on a geometry does so. -/
theorem wire_reconfigure_of_admits {geometry : Geometry} (h : master.Admits geometry) :
    wire (reconfigure geometry) master = .done (.ok (), { master with geometry }) := by
  rw [wire_reconfigure]
  have hrefusal := refusal_reconfigure_eq_none_iff.mpr h
  rw [Operation.refusal?] at hrefusal
  split
  · next heq => rw [heq]
  next heq =>
  rw [if_neg heq] at hrefusal
  split
  · next htype =>
    rw [if_pos htype] at hrefusal
    rw [wire_resize]
    cases hresize : master.geometry.resize geometry.inputLength geometry.outputLength with
    | ok other => rw [Geometry.eq_of_resize htype hresize]
    | error error =>
      rw [hresize] at hrefusal
      cases hrefusal
  next htype =>
  rw [if_neg htype] at hrefusal
  split
  · rfl
  · next hstate =>
    rw [if_neg hstate] at hrefusal
    cases hrefusal

end Master

open Master Master.Action

/-- An operation that configures a master and is not rejected makes no call either. -/
theorem Operation.exists_adopts {operation : Operation} {master : Master}
    (hop : operation.configures) (h : operation.refusal? master = none) :
    ∃ target, operation.action.wire master = .done (.ok .nothing, target) ∧
      master.Adopts operation target := by
  cases operation with
  | resize inputLength outputLength =>
    cases hresize : master.geometry.resize inputLength outputLength with
    | ok geometry =>
      refine ⟨_, ?_, .lengths hresize⟩
      rw [action, wire_bind, wire_resize, hresize]
      rfl
    | error error =>
      rw [refusal?, hresize] at h
      cases h
  | reconfigure geometry =>
    have hadmits : master.Admits geometry := refusal_reconfigure_eq_none_iff.mp h
    refine ⟨_, ?_, .geometry hadmits⟩
    rw [action, wire_bind, wire_reconfigure_of_admits hadmits]
    rfl
  | switchPhyMode phyMode =>
    rw [refusal?] at h
    split at h
    · next hstate =>
      refine ⟨_, ?_, .phyMode hstate⟩
      rw [action, wire_bind, wire_switchPhyMode, if_pos hstate]
      rfl
    · cases h
  | selectBaudRate name =>
    cases hrate : BaudRate.ofText name with
    | ok baudRate =>
      refine ⟨_, ?_, .namedRate hrate⟩
      rw [action, wire_bind, wire_selectBaudRate, hrate]
      rfl
    | error error =>
      rw [refusal?, hrate] at h
      cases h
  | useBaudRate baudRate =>
    refine ⟨_, ?_, .baudRate baudRate⟩
    rw [action, wire_bind, wire_useBaudRate]
    rfl
  | _ => cases hop

/-! ### Steps -/

namespace Step

variable {step : Step}

/-- What a step that configures its master and is not rejected does. -/
theorem adopts (hop : step.operation.configures)
    (h : step.operation.refusal? step.source = none) :
    step.traffic = [] ∧ step.result = .ok .nothing ∧
      step.source.Adopts step.operation step.target := by
  obtain ⟨target, hwire, hadopts⟩ := Operation.exists_adopts hop h
  obtain ⟨htraffic, hresult, rfl⟩ := step.of_wire_eq_done hwire
  exact ⟨htraffic, hresult, hadopts⟩

/-- A step configures nothing, is rejected, or configures what its operation is for. -/
theorem target_cases (step : Step) :
    (step.operation.configures = false ∧ step.source.Entered step.target) ∨
      (∃ error, step.operation.refusal? step.source = some error ∧
        step.result = .error error ∧ step.target = step.source) ∨
      (step.result = .ok .nothing ∧ step.source.Adopts step.operation step.target) := by
  cases hop : step.operation.configures with
  | false => exact .inl ⟨rfl, target_entered hop⟩
  | true =>
    cases hrefusal : step.operation.refusal? step.source with
    | some error => exact .inr (.inl ⟨error, rfl, (of_refusal hrefusal).2⟩)
    | none => exact .inr (.inr (adopts hop hrefusal).2)

/-- An operation that configures a master fails exactly if it is rejected. -/
theorem succeeds_iff_of_configures (hop : step.operation.configures) :
    step.Succeeds ↔ step.operation.refusal? step.source = none := by
  constructor
  · rintro ⟨outcome, houtcome⟩
    cases hrefusal : step.operation.refusal? step.source with
    | none => rfl
    | some error => cases houtcome.symm.trans (of_refusal hrefusal).2.1
  · intro hrefusal
    exact ⟨_, (adopts hop hrefusal).2.1⟩

/-- What fails to configure a master leaves it as it is. -/
theorem target_of_not_succeeds (hop : step.operation.configures) (h : ¬step.Succeeds) :
    step.target = step.source := by
  obtain ⟨hnot, -⟩ | ⟨error, -, -, htarget⟩ | ⟨hresult, -⟩ := step.target_cases
  · rw [hop] at hnot
    cases hnot
  · exact htarget
  · exact absurd ⟨_, hresult⟩ h

/-! ### The owners -/

/-- The geometry that a step gives its master, if it gives it one. -/
def geometrySet? (step : Step) : Option Geometry :=
  match step.operation, step.result with
  | .resize inputLength outputLength, .ok _ =>
    (step.source.geometry.resize inputLength outputLength).toOption
  | .reconfigure geometry, .ok _ => some geometry
  | _, _ => none

/-- The mode of the line that a step sets, if it sets one. -/
def phyModeSet? (step : Step) : Option PhyMode :=
  match step.operation, step.source.state with
  | .switchPhyMode phyMode, .operate => some phyMode
  | _, _ => none

/-- The transmission rate that a step sets, if it sets one. -/
def baudRateSet? (step : Step) : Option BaudRate :=
  match step.operation, step.result with
  | .useBaudRate baudRate, _ => some baudRate
  | .selectBaudRate name, .ok _ => (BaudRate.ofText name).toOption
  | _, _ => none

/-- A step that sets something configures its master. -/
theorem set_eq_none (hop : step.operation.configures = false) :
    step.geometrySet? = none ∧ step.phyModeSet? = none ∧ step.baudRateSet? = none := by
  rw [geometrySet?, phyModeSet?, baudRateSet?]
  cases h : step.operation with
  | resize | reconfigure | switchPhyMode | selectBaudRate | useBaudRate =>
    rw [h] at hop
    cases hop
  | _ => exact ⟨rfl, rfl, rfl⟩

/-- A rejected step sets nothing. -/
theorem set_eq_none_of_refusal {error : MasterError}
    (h : step.operation.refusal? step.source = some error) :
    step.geometrySet? = none ∧ step.phyModeSet? = none ∧ step.baudRateSet? = none := by
  rw [geometrySet?, phyModeSet?, baudRateSet?, (of_refusal h).2.1]
  cases hop : step.operation with
  | switchPhyMode phyMode =>
    rw [hop, Operation.refusal?] at h
    cases hstate : step.source.state with
    | operate =>
      rw [hstate] at h
      cases h
    | _ => exact ⟨rfl, rfl, rfl⟩
  | useBaudRate baudRate =>
    rw [hop] at h
    cases h
  | _ => exact ⟨rfl, rfl, rfl⟩

/-- Each setting behind a step is the one that the step sets, or the one before. -/
theorem target_settings_eq (step : Step) :
    step.target.geometry = step.geometrySet?.getD step.source.geometry ∧
      step.target.phyMode = step.phyModeSet?.getD step.source.phyMode ∧
      step.target.baudRate = step.baudRateSet?.getD step.source.baudRate := by
  obtain ⟨hop, state, htarget⟩ | ⟨error, hrefusal, -, htarget⟩ | ⟨hresult, hadopts⟩ :=
    step.target_cases
  · obtain ⟨hgeometry, hphyMode, hbaudRate⟩ := set_eq_none hop
    rw [htarget, hgeometry, hphyMode, hbaudRate]
    exact ⟨rfl, rfl, rfl⟩
  · obtain ⟨hgeometry, hphyMode, hbaudRate⟩ := set_eq_none_of_refusal hrefusal
    rw [htarget, hgeometry, hphyMode, hbaudRate]
    exact ⟨rfl, rfl, rfl⟩
  · rw [geometrySet?, phyModeSet?, baudRateSet?, hresult]
    generalize step.operation = operation at hadopts
    generalize step.target = target at hadopts
    cases hadopts with
    | lengths h =>
      simp only [h]
      exact ⟨rfl, rfl, rfl⟩
    | geometry => exact ⟨rfl, rfl, rfl⟩
    | phyMode h =>
      simp only [h]
      exact ⟨rfl, rfl, rfl⟩
    | namedRate h =>
      simp only [h]
      exact ⟨rfl, rfl, rfl⟩
    | baudRate => exact ⟨rfl, rfl, rfl⟩

/-- The only frame that cannot be built is a cyclic one with on-request data of another width. -/
theorem result_eq_frame_iff {error : FrameError} :
    step.result = .error (.frame error) ↔
      ∃ processData od, step.operation = .cycleWith processData od ∧
        step.source.state ≠ .startup ∧ step.source.geometry.isCyclic ∧
          od.width ≠ step.source.geometry.odWidth ∧
            error = .onRequestDataLength od.width step.source.geometry.odWidth := by
  rw [rejected_iff rfl]
  have hsetting {α : Type} {result : Except SettingError α} :
      Operation.settingRefusal? result ≠ some (.frame error) := by
    cases result <;> nofun
  cases hop : step.operation with
  | cycleWith processData od =>
    rw [Operation.refusal?]
    constructor
    · intro h
      split at h
      · next hwidth =>
        cases h
        exact ⟨processData, od, rfl, hwidth.1, hwidth.2.1, hwidth.2.2, rfl⟩
      · cases h
    · rintro ⟨_, _, heq, hstate, hcyclic, hwidth, rfl⟩
      cases heq
      rw [if_pos ⟨hstate, hcyclic, hwidth⟩]
  | resize | selectBaudRate => simp [Operation.refusal?, hsetting]
  | reconfigure geometry =>
    rw [Operation.refusal?]
    simp only [reduceCtorEq, false_and, exists_false, iff_false]
    intro h
    split at h
    · cases h
    split at h
    · exact hsetting h
    split at h <;> cases h
  | _ => simp [Operation.refusal?]

end Step

/-- What the steps of a run set last is there behind it. -/
theorem Run.eq_getLastD {α : Type} {read : Master → α} {set? : Step → Option α}
    (hstep : ∀ step : Step, read step.target = (set? step).getD (read step.source))
    {master target : Master} {steps : List Step} (run : Run master steps target) :
    read target = (steps.filterMap set?).getLastD (read master) := by
  induction run with
  | nil master => rfl
  | cons step rest ih =>
    rw [ih, hstep, List.filterMap_cons]
    cases set? step with
    | none => rfl
    | some value => rw [List.getLastD_cons, Option.getD_some]

/-- A rejected operation makes no call and changes nothing, and only a cycle with on-request data of
another width is rejected for its frame. Every setting has one owner: behind a run it is what the
owner has set last, or what it was before the run. -/
theorem Master.settings_owned {master target : Master} {steps : List Step}
    (run : Run master steps target) :
    (∀ step ∈ steps, ∀ error, step.result = .error error → error.isRejection →
      step.traffic = [] ∧ step.target = step.source) ∧
    (∀ step ∈ steps, ∀ error, step.result = .error (.frame error) ↔
      ∃ processData od, step.operation = .cycleWith processData od ∧
        step.source.state ≠ .startup ∧ step.source.geometry.isCyclic ∧
          od.width ≠ step.source.geometry.odWidth ∧
            error = .onRequestDataLength od.width step.source.geometry.odWidth) ∧
    target.settings = master.settings ∧
    target.geometry = (steps.filterMap Step.geometrySet?).getLastD master.geometry ∧
    target.phyMode = (steps.filterMap Step.phyModeSet?).getLastD master.phyMode ∧
    target.baudRate = (steps.filterMap Step.baudRateSet?).getLastD master.baudRate := by
  refine ⟨fun step _ error hresult hrejection => ?_, fun step _ error => Step.result_eq_frame_iff,
    ?_, ?_, ?_, ?_⟩
  · obtain ⟨htraffic, -, htarget⟩ :=
      Step.of_refusal ((Step.rejected_iff hrejection).mp hresult)
    exact ⟨htraffic, htarget⟩
  · exact run.induct (p := fun other => other.settings = master.settings)
      (fun step _ h => step.target_settings.trans h) rfl
  · exact run.eq_getLastD fun step => step.target_settings_eq.1
  · exact run.eq_getLastD fun step => step.target_settings_eq.2.1
  · exact run.eq_getLastD fun step => step.target_settings_eq.2.2

/-- A session sets the rate twice and the mode once; what it tries to change besides is rejected. -/
theorem Master.settings_owned_of_session :
    let answers : Script := { replies := [.octets (Checksum.attach [0]),
      .octets (Checksum.attach [0, 0, 0])] }
    let run := (Master.new ⟨.type12, 1, 1, by decide, by decide⟩).steps answers
      [.switchPhyMode .sio, .startUp, .useBaudRate .com1, .enterOperate, .cycleWith [] (.two 1 2),
        .switchPhyMode .sio, .resize 4 4, .selectBaudRate "com3", .selectBaudRate "com4"]
    (∃ step ∈ run.1, step.result = .error (.frame (.onRequestDataLength 2 1)) ∧
      step.traffic = []) ∧
    run.2.1.geometry = ⟨.type12, 1, 1, by decide, by decide⟩ ∧ run.2.1.phyMode = .sio ∧
      run.2.1.baudRate = .com3 := by
  intro answers run
  have hcycle : run.1[4]?.map (fun step => (step.operation, step.source.state,
      step.source.geometry)) = some (.cycleWith [] (.two 1 2), .operate,
        ⟨.type12, 1, 1, by decide, by decide⟩) := by decide +kernel
  have hphyMode : run.1.filterMap Step.phyModeSet? = [.sio] := by decide +kernel
  have hbaudRate : run.1.filterMap Step.baudRateSet? = [.com1, .com3] := by decide +kernel
  have hgeometry : run.1.filterMap Step.geometrySet? = [] := by decide +kernel
  obtain ⟨hrejected, hframe, -, htype, hmode, hrate⟩ := settings_owned (run_steps _ answers _)
  rw [hgeometry] at htype
  rw [hphyMode] at hmode
  rw [hbaudRate] at hrate
  obtain ⟨step, hstep, hcycle⟩ := Option.map_eq_some_iff.mp hcycle
  obtain ⟨hop, hstate, hsource⟩ : step.operation = .cycleWith [] (.two 1 2) ∧
      step.source.state = .operate ∧
        step.source.geometry = ⟨.type12, 1, 1, by decide, by decide⟩ := by simpa using hcycle
  have hmem : step ∈ run.1 := List.mem_of_getElem? hstep
  have hresult : step.result = .error (.frame (.onRequestDataLength 2 1)) := by
    rw [hframe step hmem, hstate, hsource]
    exact ⟨_, _, hop, by decide, rfl, by decide, rfl⟩
  exact ⟨⟨step, hmem, hresult, (hrejected step hmem _ hresult rfl).1⟩, htype, hmode, hrate⟩

/-! ### Geometries that are settled -/

namespace Step

variable {step : Step} {inputLength outputLength : Nat} {geometry : Geometry}

theorem succeeds_reconfigure_iff (hop : step.operation = .reconfigure geometry) :
    step.Succeeds ↔ step.source.Admits geometry := by
  rw [succeeds_iff_of_configures (by rw [hop]; rfl), hop, refusal_reconfigure_eq_none_iff]

/-- What an operation that succeeds to configure its master does. -/
theorem adopts_of_succeeds {operation : Operation} (hop : step.operation = operation)
    (hconfigures : operation.configures) (h : step.Succeeds) :
    step.source.Adopts operation step.target := by
  subst hop
  exact (adopts hconfigures ((succeeds_iff_of_configures hconfigures).mp h)).2.2

theorem target_of_reconfigure (hop : step.operation = .reconfigure geometry)
    (h : step.Succeeds) : step.target = { step.source with geometry } := by
  have hadopts := adopts_of_succeeds hop rfl h
  generalize step.target = target at hadopts
  cases hadopts
  rfl

theorem exists_resize_of_succeeds (hop : step.operation = .resize inputLength outputLength)
    (h : step.Succeeds) :
    ∃ geometry, step.source.geometry.resize inputLength outputLength = .ok geometry ∧
      step.target = { step.source with geometry } := by
  have hadopts := adopts_of_succeeds hop rfl h
  generalize step.target = target at hadopts
  cases hadopts with
  | lengths hresize => exact ⟨_, hresize, rfl⟩

theorem succeeds_resize_iff (hop : step.operation = .resize inputLength outputLength) :
    step.Succeeds ↔ step.source.geometry.sequenceType.isVariable ∧
      VariableLength inputLength ∧ VariableLength outputLength := by
  constructor
  · intro h
    obtain ⟨geometry, hresize, -⟩ := exists_resize_of_succeeds hop h
    obtain ⟨hvariable, hinput, houtput, -⟩ := Geometry.resize_eq_ok_iff.mp hresize
    exact ⟨hvariable, hinput, houtput⟩
  · rintro ⟨hvariable, hinput, houtput⟩
    obtain ⟨geometry, hresize⟩ := Geometry.exists_resize hvariable hinput houtput
    rw [succeeds_iff_of_configures (by rw [hop]; rfl), hop, Operation.refusal?, hresize]
    rfl

/-- Other lengths are another geometry of the same type. -/
theorem wire_resize_eq_reconfigure {master : Master}
    (h : master.geometry.resize inputLength outputLength = .ok geometry) :
    (Operation.resize inputLength outputLength).action.wire master =
      (Operation.reconfigure geometry).action.wire master := by
  obtain ⟨hvariable, -, -, hmake⟩ := Geometry.resize_eq_ok_iff.mp h
  have htype : geometry.sequenceType = master.geometry.sequenceType :=
    (Geometry.make_eq_ok_iff.mp hmake).1
  have hadmits : master.Admits geometry := .inr (.inl ⟨htype, htype ▸ hvariable⟩)
  rw [Operation.action, Operation.action, wire_bind, wire_bind, wire_resize, h,
    wire_reconfigure_of_admits hadmits]

/-- Once the transition to operate is announced a step keeps the M-sequence type, and with a type of
fixed length all of the geometry. -/
theorem keeps_sequenceType
    (h : step.source.state = .established ∨ step.source.state = .operate) :
    step.target.geometry.sequenceType = step.source.geometry.sequenceType ∧
      (step.source.geometry.sequenceType.isVariable = false →
        step.target.geometry = step.source.geometry) := by
  obtain ⟨-, state, htarget⟩ | ⟨error, -, -, htarget⟩ | ⟨-, hadopts⟩ := step.target_cases
  · rw [htarget]
    exact ⟨rfl, fun _ => rfl⟩
  · rw [htarget]
    exact ⟨rfl, fun _ => rfl⟩
  · generalize step.operation = operation at hadopts
    generalize step.target = target at hadopts
    cases hadopts with
    | lengths hresize =>
      obtain ⟨hvariable, -, -, hmake⟩ := Geometry.resize_eq_ok_iff.mp hresize
      refine ⟨(Geometry.make_eq_ok_iff.mp hmake).1, fun hfixed => ?_⟩
      rw [hvariable] at hfixed
      cases hfixed
    | geometry hadmits =>
      obtain heq | ⟨htype, hvariable⟩ | ⟨-, hstate⟩ := hadmits
      · exact ⟨congrArg _ heq, fun _ => heq⟩
      · refine ⟨htype, fun hfixed => ?_⟩
        rw [← htype, hvariable] at hfixed
        cases hfixed
      · obtain hstate' | hstate' := h <;> rw [hstate'] at hstate <;> simp at hstate
    | phyMode | namedRate | baudRate => exact ⟨rfl, fun _ => rfl⟩

end Step

/-- Which changes of the geometry a master accepts, and what it has then. A change of the lengths is
one to another geometry of the same type. While every step of a run finds the master established or
in operate, the type stays, and with a type of fixed length so do the lengths. -/
theorem Master.geometry_settled {master target : Master} {steps : List Step}
    (run : Run master steps target) :
    (∀ step ∈ steps, ∀ geometry, step.operation = .reconfigure geometry →
      (step.Succeeds ↔ step.source.Admits geometry) ∧
        (step.Succeeds → step.target = { step.source with geometry }) ∧
          (¬step.Succeeds → step.target = step.source)) ∧
    (∀ step ∈ steps, ∀ inputLength outputLength,
      step.operation = .resize inputLength outputLength →
        (step.Succeeds ↔ step.source.geometry.sequenceType.isVariable ∧
          VariableLength inputLength ∧ VariableLength outputLength) ∧
        (step.Succeeds → ∃ geometry,
          Geometry.make step.source.geometry.sequenceType inputLength outputLength =
            .ok geometry ∧
          step.target = { step.source with geometry } ∧
          step.operation.action.wire step.source =
            (Operation.reconfigure geometry).action.wire step.source) ∧
        (¬step.Succeeds → step.target = step.source)) ∧
    ((∀ step ∈ steps, step.source.state = .established ∨ step.source.state = .operate) →
      target.geometry.sequenceType = master.geometry.sequenceType ∧
        target.geometry.odWidth = master.geometry.odWidth ∧
          target.geometry.isCyclic = master.geometry.isCyclic ∧
            (master.geometry.sequenceType.isVariable = false →
              target.geometry = master.geometry)) := by
  refine ⟨fun step _ geometry hop => ?_, fun step _ inputLength outputLength hop => ?_,
    fun hstates => ?_⟩
  · exact ⟨Step.succeeds_reconfigure_iff hop, Step.target_of_reconfigure hop,
      Step.target_of_not_succeeds (by rw [hop]; rfl)⟩
  · refine ⟨Step.succeeds_resize_iff hop, fun h => ?_,
      Step.target_of_not_succeeds (by rw [hop]; rfl)⟩
    obtain ⟨geometry, hresize, htarget⟩ := Step.exists_resize_of_succeeds hop h
    rw [hop]
    exact ⟨geometry, (Geometry.resize_eq_ok_iff.mp hresize).2.2.2, htarget,
      Step.wire_resize_eq_reconfigure hresize⟩
  · have hkeeps : target.geometry.sequenceType = master.geometry.sequenceType ∧
        (master.geometry.sequenceType.isVariable = false → target.geometry = master.geometry) := by
      refine run.induct (p := fun other => other.geometry.sequenceType =
        master.geometry.sequenceType ∧ (master.geometry.sequenceType.isVariable = false →
          other.geometry = master.geometry)) (fun step hmem h => ?_) ⟨rfl, fun _ => rfl⟩
      obtain ⟨htype, hfixed⟩ := Step.keeps_sequenceType (hstates step hmem)
      rw [h.1] at htype hfixed
      exact ⟨htype, fun hvariable => (hfixed hvariable).trans (h.2 hvariable)⟩
    exact ⟨hkeeps.1, congrArg SequenceType.odWidth hkeeps.1,
      congrArg SequenceType.isCyclic hkeeps.1, hkeeps.2⟩

/-- In operate a variable type takes other lengths, and no other type. -/
theorem Master.geometry_settled_of_variable :
    let master := (Master.new ⟨.type2V, 2, 2, by decide, by decide⟩).enter .operate
    let silence : Script := { replies := [] }
    let run := master.steps silence [.resize 4 5, .reconfigure .type0]
    (∃ step ∈ run.1, step.operation = .resize 4 5 ∧ step.Succeeds) ∧
      (∃ step ∈ run.1, step.operation = .reconfigure .type0 ∧ step.target = step.source) ∧
        run.2.1.geometry.odWidth = 2 := by
  intro master silence run
  obtain ⟨hreconfigure, hresize, hkeeps⟩ :=
    geometry_settled (run_steps master silence [.resize 4 5, .reconfigure .type0])
  have hstates : ∀ step ∈ run.1,
      step.source.state = .established ∨ step.source.state = .operate := by decide
  let outcome := (Operation.resize 4 5).step master silence
  let first := outcome.1
  let second := ((Operation.reconfigure .type0).step first.target outcome.2).1
  have hrun : run.1 = [first, second] := by
    show (master.steps silence [_, _]).1 = _
    rw [steps_cons, steps_cons]
    rfl
  have hfirst : first ∈ run.1 := by simp [hrun]
  have hsecond : second ∈ run.1 := by simp [hrun]
  have hsucceeds : first.Succeeds :=
    (hresize first hfirst 4 5 rfl).1.mpr ⟨rfl, by decide, by decide⟩
  have hrefused : ¬second.Succeeds := by
    rw [(hreconfigure second hsecond .type0 rfl).1]
    rintro (heq | ⟨htype, -⟩ | ⟨-, hstate⟩)
    · exact absurd (congrArg Geometry.sequenceType heq) (by decide)
    · exact absurd htype (by decide)
    · exact absurd hstate (by decide)
  exact ⟨⟨first, hfirst, rfl, hsucceeds⟩,
    ⟨second, hsecond, rfl, (hreconfigure second hsecond .type0 rfl).2.2 hrefused⟩,
    (hkeeps hstates).2.1⟩

end Sdci
