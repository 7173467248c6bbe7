import Sdci.Proofs.Master.Connection
import Sdci.Script

/-!
# The connection state over a run

The state is a summary of the run (`Master.connection_state`): it is startup until a startup
sequence succeeds, and operate exactly when, since the latest one that did, a transition was
announced and a valid cycle has confirmed it. The proof goes from the edges of one step
(`Step.edge_cases`) to the runs from each state.
-/

namespace Sdci

open Master

/-! ### One step -/

namespace Step

variable {step : Step}

/-- The step has a valid cycle in it, one that confirms an announced transition to operate. -/
def Confirms (step : Step) : Prop :=
  match step.operation with
  | .enterOperate => step.Announces ∧ step.Succeeds
  | .cycle .. | .cycleWith .. => step.ReturnsValid
  | .readParameter .. | .writeParameter .. =>
    step.source.geometry.isCyclic ∧ step.FirstExchangeValid
  | _ => False

theorem target_state_of_startsUp (h : step.StartsUp) : step.target.state = .preoperate := by
  have hedge := step.followsEdge
  rw [FollowsEdge, h.1] at hedge
  exact hedge.1 h.2

/-- A step that is no successful startup sequence announces the transition, confirms it, or keeps
the state. -/
theorem edge_cases (h : ¬step.StartsUp) :
    (step.Announces ∧ step.target.state = .established) ∨
    (step.Announces ∧ step.Confirms ∧ step.target.state = .operate) ∨
    (step.source.state = .established ∧ step.Confirms ∧ step.target.state = .operate) ∨
    step.target.state = step.source.state := by
  have hedge := step.followsEdge
  have hmoves {condition : Prop} (hconfirms : condition → step.Confirms)
      (hmove : step.MovesTo .operate (step.source.state = .established ∧ condition)) :
      (step.source.state = .established ∧ step.Confirms ∧ step.target.state = .operate) ∨
        step.target.state = step.source.state := by
    by_cases hcondition : step.source.state = .established ∧ condition
    · exact .inl ⟨hcondition.1, hconfirms hcondition.2, hmove.1 hcondition⟩
    · exact .inr (hmove.2 hcondition)
  rw [FollowsEdge] at hedge
  cases hop : step.operation with
  | startUp =>
    rw [hop] at hedge
    exact .inr (.inr (.inr (hedge.2 fun hsucceeds => h ⟨hop, hsucceeds⟩)))
  | enterOperate =>
    rw [hop] at hedge
    obtain ⟨hoperate, hestablished, hstay⟩ := hedge
    by_cases hannounces : step.Announces
    · by_cases hsucceeds : step.Succeeds
      · have hconfirms : step.Confirms := by
          rw [Confirms, hop]
          exact ⟨hannounces, hsucceeds⟩
        exact .inr (.inl ⟨hannounces, hconfirms, hoperate hannounces hsucceeds⟩)
      · exact .inl ⟨hannounces, hestablished hannounces hsucceeds⟩
    · exact .inr (.inr (.inr (hstay hannounces)))
  | cycle processData octet | cycleWith processData od
  | readParameter index subindex | writeParameter index subindex data =>
    rw [hop] at hedge
    refine .inr (.inr (hmoves ?_ hedge))
    rw [Confirms, hop]
    exact id
  | _ =>
    rw [hop] at hedge
    exact .inr (.inr (.inr hedge))

/-- A valid cycle confirms a transition that is announced. -/
theorem target_state_of_confirms (hstate : step.source.state = .established)
    (h : step.Confirms) : step.target.state = .operate := by
  have hedge := step.followsEdge
  rw [FollowsEdge] at hedge
  rw [Confirms] at h
  cases hop : step.operation <;> rw [hop] at hedge h
  case enterOperate => exact hedge.1 h.1 h.2
  case cycle | cycleWith | readParameter | writeParameter => exact hedge.1 ⟨hstate, h⟩
  all_goals exact h.elim

end Step

/-! ### Histories -/

/-- `recent` are the steps since the latest startup sequence that succeeded. -/
def SinceStartUp (steps recent : List Step) : Prop :=
  ∃ earlier start, steps = earlier ++ start :: recent ∧ start.StartsUp ∧
    ∀ step ∈ recent, ¬step.StartsUp

/-- A step announces the transition to operate, and it or one behind it confirms it. -/
def Operates (steps : List Step) : Prop :=
  ∃ between enter later, steps = between ++ enter :: later ∧ enter.Announces ∧
    ∃ step ∈ enter :: later, step.Confirms

/-- What the steps of a run have in them when it ends in a state. -/
def Explains (steps : List Step) : ConnectionState → Prop
  | .startup => ∀ step ∈ steps, ¬step.StartsUp
  | .preoperate => ∃ recent, SinceStartUp steps recent
  | .established => ∃ recent, SinceStartUp steps recent ∧ ∃ enter ∈ recent, enter.Announces
  | .operate => ∃ recent, SinceStartUp steps recent ∧ Operates recent

section Snoc

variable {steps recent : List Step} {step : Step}

theorem SinceStartUp.snoc (h : SinceStartUp steps recent) (hstep : ¬step.StartsUp) :
    SinceStartUp (steps ++ [step]) (recent ++ [step]) := by
  obtain ⟨earlier, start, rfl, hstart, hrecent⟩ := h
  refine ⟨earlier, start, by simp, hstart, fun other hmem => ?_⟩
  obtain hmem | rfl := List.mem_append.mp hmem |>.imp id List.mem_singleton.mp
  · exact hrecent other hmem
  · exact hstep

theorem Operates.snoc (h : Operates recent) : Operates (recent ++ [step]) := by
  obtain ⟨between, enter, later, rfl, hannounces, other, hmem, hconfirms⟩ := h
  refine ⟨between, enter, later ++ [step], by simp, hannounces, other, ?_, hconfirms⟩
  exact List.mem_append_left [step] hmem

theorem operates_of_confirms (hmem : ∃ enter ∈ recent, enter.Announces) (hstep : step.Confirms) :
    Operates (recent ++ [step]) := by
  obtain ⟨enter, hmem, hannounces⟩ := hmem
  obtain ⟨between, later, rfl⟩ := List.append_of_mem hmem
  exact ⟨between, enter, later ++ [step], by simp, hannounces, step, by simp, hstep⟩

/-- One more step adds what explains the state behind it. -/
theorem explains_snoc (h : Explains steps step.source.state) :
    Explains (steps ++ [step]) step.target.state := by
  by_cases hstart : step.StartsUp
  · rw [Step.target_state_of_startsUp hstart]
    exact ⟨[], steps, step, rfl, hstart, by simp⟩
  obtain ⟨hannounces, htarget⟩ | ⟨hannounces, hconfirms, htarget⟩ |
    ⟨hsource, hconfirms, htarget⟩ | htarget := Step.edge_cases hstart
  · rw [hannounces.2.1] at h
    obtain ⟨recent, hrecent⟩ := h
    rw [htarget]
    exact ⟨recent ++ [step], hrecent.snoc hstart, step, by simp, hannounces⟩
  · rw [hannounces.2.1] at h
    obtain ⟨recent, hrecent⟩ := h
    rw [htarget]
    exact ⟨recent ++ [step], hrecent.snoc hstart, recent, step, [], rfl, hannounces, step, by simp,
      hconfirms⟩
  · rw [hsource] at h
    obtain ⟨recent, hrecent, henter⟩ := h
    rw [htarget]
    exact ⟨recent ++ [step], hrecent.snoc hstart, operates_of_confirms henter hconfirms⟩
  · rw [htarget]
    cases hstate : step.source.state <;> rw [hstate] at h
    case startup =>
      intro other hmem
      obtain hmem | rfl := List.mem_append.mp hmem |>.imp id List.mem_singleton.mp
      · exact h other hmem
      · exact hstart
    case preoperate =>
      obtain ⟨recent, hrecent⟩ := h
      exact ⟨recent ++ [step], hrecent.snoc hstart⟩
    case established =>
      obtain ⟨recent, hrecent, enter, hmem, hannounces⟩ := h
      exact ⟨recent ++ [step], hrecent.snoc hstart, enter, List.mem_append_left [step] hmem,
        hannounces⟩
    case operate =>
      obtain ⟨recent, hrecent, hoperates⟩ := h
      exact ⟨recent ++ [step], hrecent.snoc hstart, hoperates.snoc⟩

end Snoc

/-! ### Runs -/

namespace Run

variable {master target : Master} {steps prior : List Step}

/-- The steps of a run explain the state behind it. -/
theorem explains (run : Run master steps target) (h : Explains prior master.state) :
    Explains (prior ++ steps) target.state := by
  induction run generalizing prior with
  | nil master => simpa using h
  | cons step rest ih =>
    rw [List.append_cons]
    exact ih (explains_snoc h)

/-- Only a successful startup sequence leaves startup, and only one leaves operate. -/
theorem state_eq {state : ConnectionState} (hpreoperate : state ≠ .preoperate)
    (hestablished : state ≠ .established) (run : Run master steps target)
    (h : master.state = state) (hsteps : ∀ step ∈ steps, ¬step.StartsUp) :
    target.state = state := by
  refine run.induct (p := fun master => master.state = state) (fun step hmem hsource => ?_) h
  obtain ⟨hannounces, -⟩ | ⟨hannounces, -⟩ | ⟨hsource', -⟩ | htarget :=
    Step.edge_cases (hsteps step hmem)
  · exact absurd (hsource.symm.trans hannounces.2.1) hpreoperate
  · exact absurd (hsource.symm.trans hannounces.2.1) hpreoperate
  · exact absurd (hsource.symm.trans hsource') hestablished
  · exact htarget.trans hsource

/-- A valid cycle confirms a transition that was announced before the run. -/
theorem state_of_confirms (run : Run master steps target) (h : master.state = .established)
    (hsteps : ∀ step ∈ steps, ¬step.StartsUp) (hconfirms : ∃ step ∈ steps, step.Confirms) :
    target.state = .operate := by
  induction run with
  | nil master => simp at hconfirms
  | @cons step steps target rest ih =>
    have hrest : ∀ other ∈ steps, ¬other.StartsUp :=
      fun other hmem => hsteps other (List.mem_cons_of_mem step hmem)
    by_cases hstep : step.Confirms
    · have hoperate : step.target.state = .operate := Step.target_state_of_confirms h hstep
      exact rest.state_eq (by decide) (by decide) hoperate hrest
    · obtain ⟨hannounces, -⟩ | ⟨hannounces, -⟩ | ⟨-, hconfirms', -⟩ | htarget :=
        Step.edge_cases (hsteps step (List.mem_cons_self ..))
      · cases h.symm.trans hannounces.2.1
      · cases h.symm.trans hannounces.2.1
      · exact absurd hconfirms' hstep
      · refine ih (htarget.trans h) hrest ?_
        obtain ⟨other, hmem, hother⟩ := hconfirms
        obtain rfl | hmem := List.mem_cons.mp hmem
        · exact absurd hother hstep
        · exact ⟨other, hmem, hother⟩

/-- Steps that announce the transition and confirm it lead to operate from every state. -/
theorem state_of_operates (run : Run master steps target)
    (hsteps : ∀ step ∈ steps, ¬step.StartsUp) (h : Operates steps) : target.state = .operate := by
  obtain ⟨between, enter, later, rfl, hannounces, step, hmem, hconfirms⟩ := h
  obtain ⟨middle, -, hrun⟩ := append_iff.mp run
  obtain ⟨-, hlater⟩ := cons_iff.mp hrun
  have hquiet : ∀ other ∈ later, ¬other.StartsUp :=
    fun other hmem => hsteps other (by simp [hmem])
  have hedge := enter.followsEdge
  rw [Step.FollowsEdge, hannounces.1] at hedge
  by_cases hsucceeds : enter.Succeeds
  · have hoperate : enter.target.state = .operate := hedge.1 hannounces hsucceeds
    exact hlater.state_eq (by decide) (by decide) hoperate hquiet
  · have hestablished : enter.target.state = .established := hedge.2.1 hannounces hsucceeds
    refine hlater.state_of_confirms hestablished hquiet ?_
    obtain rfl | hmem := List.mem_cons.mp hmem
    · rw [Step.Confirms, hannounces.1] at hconfirms
      exact absurd hconfirms.2 hsucceeds
    · exact ⟨step, hmem, hconfirms⟩

end Run

/-- The connection state of a master is what the steps since its creation say, whatever they are and
whatever the line answered. -/
theorem Master.connection_state {geometry : Geometry} {settings : Settings} {steps : List Step}
    {target : Master} (run : Run (Master.new geometry settings) steps target) :
    (∀ step ∈ steps, step.FollowsEdge) ∧
      (target.state = .startup ↔ ∀ step ∈ steps, ¬step.StartsUp) ∧
      (target.state = .operate ↔ ∃ recent, SinceStartUp steps recent ∧ Operates recent) := by
  have hnew : Explains [] (Master.new geometry settings).state := List.forall_mem_nil _
  have hexplains : Explains steps target.state := run.explains hnew
  refine ⟨fun step _ => step.followsEdge, ⟨?_, ?_⟩, ⟨?_, ?_⟩⟩
  · intro hstate
    rwa [hstate] at hexplains
  · exact run.state_eq (by decide) (by decide) rfl
  · intro hstate
    rwa [hstate] at hexplains
  · rintro ⟨recent, ⟨earlier, start, rfl, -, hrecent⟩, hoperates⟩
    obtain ⟨middle, -, hrun⟩ := Run.append_iff.mp run
    exact (Run.cons_iff.mp hrun).2.state_of_operates hrecent hoperates

/-- A device that answers the first probe and the first cycle gets to operate. -/
theorem Master.connection_state_of_answers :
    let answers : Script :=
      { replies := [.octets (Checksum.attach [0]), .octets (Checksum.attach [0])] }
    let run := (Master.new .type0).steps answers [.startUp, .enterOperate]
    run.2.1.state = .operate ∧ ∃ recent, SinceStartUp run.1 recent ∧ Operates recent := by
  intro answers run
  have hstate : run.2.1.state = .operate := by decide
  exact ⟨hstate, (connection_state (run_steps _ answers _)).2.2.mp hstate⟩

end Sdci
