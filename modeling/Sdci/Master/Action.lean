import Sdci.Master.Basic

/-!
# Actions of a master

An action is a dialogue of a master that may change the master and may fail. A failed action keeps
the changes it made before. `Action.start` is the dialogue behind an action; the lemmas here say
what it is for each way to make an action.
-/

namespace Sdci.Master

/-- The actions of a master with a result of type `α`. -/
abbrev Action (α : Type) := ExceptT MasterError (StateT Master Dialogue) α

namespace Action

variable {α β : Type} (master : Master)

/-- The dialogue of a master that takes an action: the result, and the master afterwards. -/
def start (action : Action α) (master : Master) : Dialogue (Except MasterError α × Master) :=
  (ExceptT.run action).run master

@[simp]
theorem start_pure (value : α) : start (pure value) master = .done (.ok value, master) := rfl

@[simp]
theorem start_throw (error : MasterError) :
    start (throw error : Action α) master = .done (.error error, master) := rfl

@[simp]
theorem start_get : start get master = .done (.ok master, master) := rfl

@[simp]
theorem start_set (other : Master) : start (set other) master = .done (.ok (), other) := rfl

@[simp]
theorem start_modify (f : Master → Master) :
    start (modify f) master = .done (.ok (), f master) := rfl

/-- The second of two actions starts with the master that the first leaves, unless that fails. -/
@[simp]
theorem start_bind (action : Action α) (next : α → Action β) :
    start (action >>= next) master = (start action master).bind fun
      | (.ok value, master) => start (next value) master
      | (.error error, master) => .done (.error error, master) := by
  refine congrArg (Dialogue.bind (start action master)) (funext fun (result, _) => ?_)
  cases result <;> rfl

@[simp]
theorem start_map (f : α → β) (action : Action α) :
    start (f <$> action) master = (start action master).bind fun
      | (.ok value, master) => .done (.ok (f value), master)
      | (.error error, master) => .done (.error error, master) := by
  rw [← bind_pure_comp, start_bind]
  rfl

/-- A dialogue is an action that leaves the master as it is. -/
@[simp]
theorem start_liftM (dialogue : Dialogue α) :
    start (liftM dialogue : Action α) master =
      dialogue.bind fun value => .done (.ok value, master) := by
  induction dialogue with
  | done value => rfl
  | ask call next ih => exact congrArg (Dialogue.ask call) (funext ih)

end Action

/-- Write a notice into the log. -/
def note (notice : Notice) : Action Unit :=
  liftM (Dialogue.call (.note notice) : Dialogue Unit)

/-- Let some time pass. -/
def pause (duration : Nat) : Action Unit :=
  liftM (Dialogue.call (.pause duration) : Dialogue Unit)

/-- The value of a result; an error in it becomes an error of the master. -/
def orThrow {ε α : Type} (wrap : ε → MasterError) : Except ε α → Action α
  | .ok value => return value
  | .error error => throw (wrap error)

/-- The result of a call to the line, whose failure is an error of the master. -/
def ofLine {α : Type} (call : Dialogue (Except Failure α)) : Action α := do
  orThrow .transport (← call)

/-- Drop what has come in so far. -/
def discard : Action Unit :=
  ofLine (Dialogue.call .discard)

/-- Wait for a reply of `count` octets. -/
def receive (count timeout : Nat) : Action (Option (List UInt8)) :=
  ofLine (Dialogue.call (.receive count timeout))

/-- Send a frame. -/
def sendFrame (frame : List UInt8) : Action Unit := do
  note (.sending frame)
  ofLine (Dialogue.call (.send frame))

/-- Enter a state; staying in the same one is no change. -/
def moveTo (state : ConnectionState) : Action Unit := do
  let master ← get
  if master.state ≠ state then
    note (.stateChanged master.state state)
    set { master with state }

namespace Action

variable (master : Master)

@[simp]
theorem start_note (notice : Notice) :
    start (note notice) master = .ask (.note notice) fun _ => .done (.ok (), master) := rfl

@[simp]
theorem start_pause (duration : Nat) :
    start (pause duration) master = .ask (.pause duration) fun _ => .done (.ok (), master) := rfl

@[simp]
theorem start_orThrow {ε α : Type} (wrap : ε → MasterError) (result : Except ε α) :
    start (orThrow wrap result) master = .done (result.mapError wrap, master) := by
  cases result <;> rfl

@[simp]
theorem start_ofLine {α : Type} (call : Dialogue (Except Failure α)) :
    start (ofLine call) master =
      call.bind fun answer => .done (answer.mapError .transport, master) := by
  unfold ofLine
  rw [start_bind, start_liftM, Dialogue.bind_assoc]
  exact congrArg call.bind (funext fun answer => start_orThrow master _ answer)

@[simp]
theorem start_discard :
    start discard master =
      .ask .discard fun answer => .done (answer.mapError .transport, master) :=
  start_ofLine master _

@[simp]
theorem start_receive (count timeout : Nat) :
    start (receive count timeout) master =
      .ask (.receive count timeout) fun answer => .done (answer.mapError .transport, master) :=
  start_ofLine master _

/-- A frame is noted and then sent. -/
@[simp]
theorem start_sendFrame (frame : List UInt8) :
    start (sendFrame frame) master = .ask (.note (.sending frame)) fun _ =>
      .ask (.send frame) fun answer => .done (answer.mapError .transport, master) := by
  simp [sendFrame, Dialogue.call]

/-- A change of state is noted. -/
theorem start_moveTo (state : ConnectionState) :
    start (moveTo state) master =
      if master.state = state then .done (.ok (), master)
      else .ask (.note (.stateChanged master.state state)) fun _ =>
        .done (.ok (), { master with state }) := by
  by_cases h : master.state = state
  · simp [moveTo, h]
  · simp [moveTo, h]

end Action

end Sdci.Master
