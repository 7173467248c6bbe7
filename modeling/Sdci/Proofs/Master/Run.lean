import Sdci.Proofs.Master.Actions

/-!
# Runs of a master

A step is one operation along one path of its dialogue, so it stands for any answers of the line. A
run is a list of steps, each of which starts with the master that the one before leaves. Operations
performed over a transport make a run (`Master.run_steps`).
-/

namespace Sdci

/-- One operation of a master, along one path of its dialogue. -/
structure Step where
  source : Master
  operation : Operation
  events : List Event
  result : Except MasterError Outcome
  target : Master
  path : (operation.perform source).Path events (result, target)

namespace Step

variable (step : Step)

/-- What happened on the line. -/
def traffic : List Event := Sdci.traffic step.events

/-- The operation gave back an outcome. -/
def Succeeds : Prop := ∃ outcome, step.result = .ok outcome

/-- The replies that came in, or their absence. -/
def replies : List (Option (List UInt8)) := repliesIn step.events

theorem path_wire :
    (step.operation.action.wire step.source).Path step.traffic (step.result, step.target) :=
  step.path.wire

/-- A dialogue that is over at once makes no call, and leaves nothing open. -/
theorem of_wire_eq_done {result : Except MasterError Outcome} {target : Master}
    (h : step.operation.action.wire step.source = .done (result, target)) :
    step.traffic = [] ∧ step.result = result ∧ step.target = target := by
  have path := step.path_wire
  rw [h] at path
  obtain ⟨htraffic, heq⟩ := Dialogue.path_done_iff.mp path
  obtain ⟨hresult, htarget⟩ := Prod.mk.inj heq
  exact ⟨htraffic, hresult, htarget⟩

theorem mem_traffic {event : Event} (h : event.call.isTraffic) :
    event ∈ step.traffic ↔ event ∈ step.events := by
  simp [traffic, Sdci.traffic, h]

/-- Where no call failed, none on the line did. -/
theorem not_failed_of_mem_traffic (hcalls : ∀ event ∈ step.events, event.failed = false) :
    ∀ event ∈ step.traffic, event.failed = false :=
  fun event hmem => hcalls event (List.mem_filter.mp hmem).1

/-- Every reply came in on the line. -/
theorem replies_eq : step.replies = repliesIn step.traffic :=
  (repliesIn_traffic step.events).symm

end Step

/-- A list of steps, each of which starts with the master that the one before leaves. -/
inductive Run : Master → List Step → Master → Prop
  | nil (master : Master) : Run master [] master
  | cons (step : Step) {steps : List Step} {target : Master}
      (rest : Run step.target steps target) : Run step.source (step :: steps) target

namespace Run

variable {master middle target : Master} {step : Step} {first second steps : List Step}

@[simp]
theorem nil_iff : Run master [] target ↔ target = master := by
  constructor
  · rintro ⟨⟩
    rfl
  · rintro rfl
    exact .nil _

@[simp]
theorem cons_iff : Run master (step :: steps) target ↔
    step.source = master ∧ Run step.target steps target := by
  constructor
  · rintro (_ | ⟨_, rest⟩)
    exact ⟨rfl, rest⟩
  · rintro ⟨rfl, rest⟩
    exact .cons step rest

/-- A run in two parts is a run of each. -/
theorem append_iff :
    Run master (first ++ second) target ↔ ∃ middle, Run master first middle ∧
      Run middle second target := by
  induction first generalizing master with
  | nil => simp
  | cons step steps ih => simp [ih, and_assoc]

/-- A property of masters that every step keeps holds behind a run. -/
theorem induct {p : Master → Prop} (run : Run master steps target)
    (hstep : ∀ step ∈ steps, p step.source → p step.target) (h : p master) : p target := by
  induction run with
  | nil master => exact h
  | cons step rest ih =>
    have htarget : p step.target := hstep step (List.mem_cons_self ..) h
    exact ih (fun step hmem => hstep step (List.mem_cons_of_mem _ hmem)) htarget

end Run

/-! ### Operations over a transport -/

section Transport

variable {σ : Type} [Transport σ]

/-- An operation over a transport, and the transport behind it. -/
def Operation.step (operation : Operation) (master : Master) (line : σ) : Step × σ :=
  let outcome := (operation.perform master).run line
  (⟨master, operation, outcome.2.2, outcome.1.1, outcome.1.2, Dialogue.path_run _ _⟩, outcome.2.1)

namespace Master

open Master.Action

variable {α β : Type} (action : Action α)

theorem play_bind_pure (f : α → β) (master : Master) (line : σ) :
    (wire (action >>= fun value => pure (f value)) master).play line =
      ((((wire action master).play line).1.1.map f, ((wire action master).play line).1.2),
        ((wire action master).play line).2) := by
  rw [wire_bind, Dialogue.play_bind]
  rcases ((wire action master).play line).1 with ⟨error | value, target⟩
  · rfl
  · rfl

/-- A step over a transport is the action of the operation played over it. -/
theorem step_eq (operation : Operation) {f : α → Outcome}
    (h : operation.action = action >>= fun value => pure (f value)) (master : Master) (line : σ) :
    (operation.step master line).1.result = ((wire action master).play line).1.1.map f ∧
      (operation.step master line).1.target = ((wire action master).play line).1.2 ∧
      (operation.step master line).2 = ((wire action master).play line).2 := by
  have hplay : (operation.perform master).play line =
      ((((wire action master).play line).1.1.map f, ((wire action master).play line).1.2),
        ((wire action master).play line).2) := by
    rw [← play_bind_pure, ← h, wire, Dialogue.play_wire]
    rfl
  exact ⟨congrArg (·.1.1) hplay, congrArg (·.1.2) hplay, congrArg (·.2) hplay⟩

end Master

/-- Operations over a transport, one after the other. -/
def Master.steps (master : Master) (line : σ) : List Operation → List Step × Master × σ
  | [] => ([], master, line)
  | operation :: rest =>
    let (step, line) := operation.step master line
    let (steps, target, line) := step.target.steps line rest
    (step :: steps, target, line)

theorem Master.steps_cons (master : Master) (line : σ) (operation : Operation)
    (rest : List Operation) :
    master.steps line (operation :: rest) =
      ((operation.step master line).1 ::
          ((operation.step master line).1.target.steps (operation.step master line).2 rest).1,
        ((operation.step master line).1.target.steps (operation.step master line).2 rest).2) := rfl

@[simp]
theorem Master.map_operation_steps (master : Master) (line : σ) (operations : List Operation) :
    (master.steps line operations).1.map Step.operation = operations := by
  induction operations generalizing master line with
  | nil => rfl
  | cons operation rest ih =>
    rw [steps_cons, List.map_cons, ih]
    rfl

/-- Operations over a transport make a run. -/
theorem Master.run_steps (master : Master) (line : σ) (operations : List Operation) :
    Run master (master.steps line operations).1 (master.steps line operations).2.1 := by
  induction operations generalizing master line with
  | nil => exact .nil master
  | cons operation rest ih => exact Run.cons_iff.mpr ⟨rfl, ih _ _⟩

end Transport

end Sdci
