import Sdci.Master.Operation
import Sdci.Proofs.Dialogue.Wire

/-!
# What a master does on the line

`Action.wire` is the line's part of an action. For every action of a master one lemma here says what
that part is: a few calls, a round trip (`Master.roundTrip`), or a shorter action behind one of
them. Whatever holds of a master on every transport follows from these equations.
-/

namespace Sdci.Master

variable {α β : Type}

/-- The master in another state. -/
def enter (master : Master) (state : ConnectionState) : Master :=
  { master with state }

section Enter

variable (master : Master) (state other : ConnectionState)

@[simp]
theorem enter_geometry : (master.enter state).geometry = master.geometry := rfl

@[simp]
theorem enter_settings : (master.enter state).settings = master.settings := rfl

@[simp]
theorem enter_state : (master.enter state).state = state := rfl

@[simp]
theorem enter_enter : (master.enter state).enter other = master.enter other := rfl

variable {master state}

theorem enter_of_state (h : master.state = state) : master.enter state = master := by
  rw [← h]
  rfl

end Enter

namespace Action

/-- The line's part of an action. -/
def wire (action : Action α) (master : Master) : Dialogue (Except MasterError α × Master) :=
  (action.start master).wire

/-- Go on after an action that did not fail. -/
def andThen (next : α → Action β) :
    Except MasterError α × Master → Dialogue (Except MasterError β × Master)
  | (.ok value, master) => (next value).wire master
  | (.error error, master) => .done (.error error, master)

variable (master : Master)

@[simp]
theorem andThen_ok (next : α → Action β) (value : α) :
    andThen next (.ok value, master) = (next value).wire master := rfl

@[simp]
theorem andThen_error (next : α → Action β) (error : MasterError) :
    andThen next (.error error, master) = .done (.error error, master) := rfl

@[simp]
theorem wire_bind (action : Action α) (next : α → Action β) :
    wire (action >>= next) master = (action.wire master).bind (andThen next) := by
  rw [wire]
  rw [start_bind, Dialogue.wire_bind]
  refine congrArg (Dialogue.bind _) (funext fun (result, master) => ?_)
  cases result <;> rfl

@[simp]
theorem wire_map (f : α → β) (action : Action α) :
    wire (f <$> action) master = (action.wire master).bind (andThen fun value => pure (f value)) := by
  rw [← bind_pure_comp, wire_bind]

@[simp]
theorem wire_pure (value : α) : wire (pure value) master = .done (.ok value, master) := rfl

@[simp]
theorem wire_throw (error : MasterError) :
    wire (throw error : Action α) master = .done (.error error, master) := rfl

@[simp]
theorem wire_get : wire get master = .done (.ok master, master) := rfl

@[simp]
theorem wire_set (other : Master) : wire (set other) master = .done (.ok (), other) := rfl

@[simp]
theorem wire_modify (f : Master → Master) :
    wire (modify f) master = .done (.ok (), f master) := rfl

@[simp]
theorem wire_ite (condition : Prop) [Decidable condition] (action other : Action α) :
    wire (if condition then action else other) master =
      if condition then action.wire master else other.wire master := by
  split <;> rfl

@[simp]
theorem wire_note (notice : Notice) : wire (note notice) master = .done (.ok (), master) := rfl

@[simp]
theorem wire_pause (duration : Nat) : wire (pause duration) master = .done (.ok (), master) := rfl

@[simp]
theorem mapError_ok {ε : Type} (wrap : ε → MasterError) (value : α) :
    (.ok value : Except ε α).mapError wrap = .ok value := rfl

@[simp]
theorem mapError_error {ε : Type} (wrap : ε → MasterError) (error : ε) :
    (.error error : Except ε α).mapError wrap = .error (wrap error) := rfl

@[simp]
theorem wire_orThrow {ε : Type} (wrap : ε → MasterError) (result : Except ε α) :
    wire (orThrow wrap result) master = .done (result.mapError wrap, master) := by
  rw [wire, start_orThrow, Dialogue.wire_done]

@[simp]
theorem wire_moveTo (state : ConnectionState) :
    wire (moveTo state) master = .done (.ok (), master.enter state) := by
  rw [wire, start_moveTo]
  split
  · next h => rw [enter_of_state h, Dialogue.wire_done]
  · rfl

/-- Go on after a call to the line that did not fail. -/
def orFail {γ : Type} (next : γ → Dialogue (Except MasterError α × Master)) :
    Except Failure γ → Dialogue (Except MasterError α × Master)
  | .error failure => .done (.error (.transport failure), master)
  | .ok value => next value

/-- A call to the line hands its answer on. -/
@[simp]
theorem wire_sendFrame (frame : List UInt8) :
    wire (sendFrame frame) master =
      .ask (.send frame) (orFail master fun value => .done (.ok value, master)) := by
  rw [wire, start_sendFrame]
  refine congrArg (Dialogue.ask (.send frame)) (funext fun answer => ?_)
  cases answer <;> rfl

@[simp]
theorem wire_discard :
    wire discard master =
      .ask .discard (orFail master fun value => .done (.ok value, master)) := by
  rw [wire, start_discard]
  refine congrArg (Dialogue.ask .discard) (funext fun answer => ?_)
  cases answer <;> rfl

@[simp]
theorem wire_receive (count timeout : Nat) :
    wire (receive count timeout) master =
      .ask (.receive count timeout) (orFail master fun value => .done (.ok value, master)) := by
  rw [wire, start_receive]
  refine congrArg (Dialogue.ask (.receive count timeout)) (funext fun answer => ?_)
  cases answer <;> rfl

section OrFail

variable {master} {γ : Type} {next : γ → Dialogue (Except MasterError α × Master)}

@[simp]
theorem orFail_bind (f : α → Action β) (answer : Except Failure γ) :
    (orFail master next answer).bind (andThen f) =
      orFail master (fun value => (next value).bind (andThen f)) answer := by
  cases answer <;> rfl

theorem path_orFail_iff {answer : Except Failure γ} {events : List Event}
    {result : Except MasterError α × Master} :
    (orFail master next answer).Path events result ↔
      (∃ failure, answer = .error failure ∧ events = [] ∧
        result = (.error (.transport failure), master)) ∨
      ∃ value, answer = .ok value ∧ (next value).Path events result := by
  cases answer <;> simp [orFail]

theorem always_orFail {p : Except MasterError α × Master → Prop} :
    (∀ answer, (orFail master next answer).Always p) ↔
      (∀ failure, p (.error (.transport failure), master)) ∧ ∀ value, (next value).Always p := by
  constructor
  · intro h
    exact ⟨fun failure => h (.error failure), fun value => h (.ok value)⟩
  · rintro ⟨hfailure, hnext⟩ (failure | value)
    · exact hfailure failure
    · exact hnext value

end OrFail

section Bind

variable {master} {action : Action α}

theorem always_wire_bind {f : α → Action β} {p : Except MasterError β × Master → Prop} :
    (wire (action >>= f) master).Always p ↔
      (action.wire master).Always fun outcome => (andThen f outcome).Always p := by
  rw [wire_bind, Dialogue.always_bind]

/-- A path through two actions fails in the first, or goes on behind it. -/
theorem path_wire_bind_iff {f : α → Action β} {events : List Event} {result : Except MasterError β}
    {target : Master} :
    (wire (action >>= f) master).Path events (result, target) ↔
      (∃ error, (action.wire master).Path events (.error error, target) ∧
        result = .error error) ∨
      ∃ value middle first second, (action.wire master).Path first (.ok value, middle) ∧
        ((f value).wire middle).Path second (result, target) ∧ events = first ++ second := by
  rw [wire_bind, Dialogue.path_bind_iff]
  constructor
  · rintro ⟨first, ⟨inner, middle⟩, second, hfirst, hsecond, rfl⟩
    rcases inner with error | value
    · obtain ⟨rfl, heq⟩ := Dialogue.path_done_iff.mp hsecond
      cases heq
      rw [List.append_nil]
      exact .inl ⟨error, hfirst, rfl⟩
    · exact .inr ⟨value, middle, first, second, hfirst, hsecond, rfl⟩
  · rintro (⟨error, path, rfl⟩ | ⟨value, middle, first, second, hfirst, hsecond, rfl⟩)
    · exact ⟨events, (.error error, target), [], path, .done _, (List.append_nil events).symm⟩
    · exact ⟨first, (.ok value, middle), second, hfirst, hsecond, rfl⟩

/-- Giving back something else changes nothing on the line. -/
theorem path_wire_bind_pure_iff {f : α → β} {events : List Event} {result : Except MasterError β}
    {target : Master} :
    (wire (action >>= fun value => pure (f value)) master).Path events (result, target) ↔
      ∃ inner, (action.wire master).Path events (inner, target) ∧ result = inner.map f := by
  rw [path_wire_bind_iff]
  constructor
  · rintro (⟨error, path, rfl⟩ | ⟨value, middle, first, second, hfirst, hsecond, rfl⟩)
    · exact ⟨_, path, rfl⟩
    · obtain ⟨rfl, heq⟩ := Dialogue.path_done_iff.mp hsecond
      cases heq
      rw [List.append_nil]
      exact ⟨_, hfirst, rfl⟩
  · rintro ⟨error | value, path, rfl⟩
    · exact .inl ⟨error, path, rfl⟩
    · exact .inr ⟨value, target, events, [], path, .done _, (List.append_nil events).symm⟩

end Bind

end Action

open Master.Action

/-! ### Round trips -/

/-- Send a frame and wait for the reply. A call that fails ends it; `next` takes the reply. -/
def roundTrip (master : Master) (frame : List UInt8) (count timeout : Nat)
    (next : Option (List UInt8) → Dialogue (Except MasterError α × Master)) :
    Dialogue (Except MasterError α × Master) :=
  .ask (.send frame) (orFail master fun _ => .ask (.receive count timeout) (orFail master next))

section RoundTrip

variable {master : Master} {frame : List UInt8} {count timeout : Nat}
  {next : Option (List UInt8) → Dialogue (Except MasterError α × Master)}

/-- What follows a round trip follows its reply. -/
@[simp]
theorem roundTrip_bind (f : α → Action β) :
    (roundTrip master frame count timeout next).bind (andThen f) =
      roundTrip master frame count timeout fun reply => (next reply).bind (andThen f) := by
  simp only [roundTrip, Dialogue.ask_bind, orFail_bind]

/-- A path through a round trip ends at a call that fails, or goes on behind the reply. -/
theorem path_roundTrip_iff {events : List Event} {result : Except MasterError α × Master} :
    (roundTrip master frame count timeout next).Path events result ↔
      (∃ failure, events = [⟨.send frame, .error failure⟩] ∧
        result = (.error (.transport failure), master)) ∨
      (∃ failure, events = [⟨.send frame, .ok ()⟩, ⟨.receive count timeout, .error failure⟩] ∧
        result = (.error (.transport failure), master)) ∨
      ∃ reply rest, (next reply).Path rest result ∧
        events = ⟨.send frame, .ok ()⟩ :: ⟨.receive count timeout, .ok reply⟩ :: rest := by
  simp only [roundTrip, Dialogue.path_ask_iff, path_orFail_iff]
  constructor
  · rintro ⟨_, _, ⟨failure, rfl, rfl, rfl⟩ |
      ⟨_, rfl, _, _, ⟨failure, rfl, rfl, rfl⟩ | ⟨reply, rfl, path⟩, rfl⟩, rfl⟩
    · exact .inl ⟨failure, rfl, rfl⟩
    · exact .inr (.inl ⟨failure, rfl, rfl⟩)
    · exact .inr (.inr ⟨reply, _, path, rfl⟩)
  · rintro (⟨failure, rfl, rfl⟩ | ⟨failure, rfl, rfl⟩ | ⟨reply, rest, path, rfl⟩)
    · exact ⟨_, _, .inl ⟨failure, rfl, rfl, rfl⟩, rfl⟩
    · exact ⟨_, _, .inr ⟨(), rfl, _, _, .inl ⟨failure, rfl, rfl, rfl⟩, rfl⟩, rfl⟩
    · exact ⟨_, _, .inr ⟨(), rfl, _, _, .inr ⟨reply, rfl, path⟩, rfl⟩, rfl⟩

/-- Without a failed call, a path through a round trip goes on behind the reply. -/
theorem path_roundTrip_of_not_failed {events : List Event}
    {result : Except MasterError α × Master}
    (path : (roundTrip master frame count timeout next).Path events result)
    (hcalls : ∀ event ∈ events, event.failed = false) :
    ∃ reply rest, (next reply).Path rest result ∧ (∀ event ∈ rest, event.failed = false) ∧
      events = ⟨.send frame, .ok ()⟩ :: ⟨.receive count timeout, .ok reply⟩ :: rest := by
  obtain ⟨failure, rfl, -⟩ | ⟨failure, rfl, -⟩ | ⟨reply, rest, hrest, rfl⟩ :=
    path_roundTrip_iff.mp path
  · simp [Event.failed] at hcalls
  · simp [Event.failed] at hcalls
  · exact ⟨reply, rest, hrest, fun event hmem => hcalls event (by simp [hmem]), rfl⟩

/-- A path through a round trip sends its frame, and ends at a call that fails or goes on behind the
reply. -/
theorem framesIn_of_path_roundTrip {events : List Event} {result : Except MasterError α × Master}
    (path : (roundTrip master frame count timeout next).Path events result) :
    (∃ failure, framesIn events = [frame] ∧ result = (.error (.transport failure), master)) ∨
      ∃ reply rest, (next reply).Path rest result ∧ framesIn events = frame :: framesIn rest := by
  obtain ⟨failure, rfl, hresult⟩ | ⟨failure, rfl, hresult⟩ | ⟨reply, rest, hrest, rfl⟩ :=
    path_roundTrip_iff.mp path
  · exact .inl ⟨failure, rfl, hresult⟩
  · exact .inl ⟨failure, rfl, hresult⟩
  · exact .inr ⟨reply, rest, hrest, rfl⟩

/-- A round trip that its reply ends sends one frame. -/
theorem framesIn_of_path_answer {answer : Option (List UInt8) → Except MasterError α × Master}
    {events : List Event} {result : Except MasterError α × Master}
    (path : (roundTrip master frame count timeout fun reply => .done (answer reply)).Path
      events result) : framesIn events = [frame] := by
  obtain ⟨failure, hframes, -⟩ | ⟨reply, rest, hrest, hframes⟩ := framesIn_of_path_roundTrip path
  · exact hframes
  · obtain ⟨rfl, -⟩ := Dialogue.path_done_iff.mp hrest
    exact hframes

/-- The results of a round trip are those of failed calls and those behind the reply. -/
theorem always_roundTrip {p : Except MasterError α × Master → Prop} :
    (roundTrip master frame count timeout next).Always p ↔
      (∀ failure, p (.error (.transport failure), master)) ∧ ∀ reply, (next reply).Always p := by
  simp only [roundTrip, Dialogue.always_ask, always_orFail, forall_const]
  exact ⟨fun h => h.2, fun h => ⟨h.1, h⟩⟩

end RoundTrip

/-- Send a command that gets no reply, and drop what has come in. A call that fails ends it. -/
def announce (master : Master) (command : Command)
    (next : Dialogue (Except MasterError α × Master)) :
    Dialogue (Except MasterError α × Master) :=
  .ask (.send (Frame.plain command.octet 0))
    (orFail master fun _ => .ask .discard (orFail master fun _ => next))

section Announce

variable {master : Master} {command : Command}
  {next : Dialogue (Except MasterError α × Master)}

/-- A path through an announcement ends at a call that fails, or goes on behind both. -/
theorem path_announce_iff {events : List Event} {result : Except MasterError α × Master} :
    (announce master command next).Path events result ↔
      (∃ failure, events = [⟨.send (Frame.plain command.octet 0), .error failure⟩] ∧
        result = (.error (.transport failure), master)) ∨
      (∃ failure, events =
          [⟨.send (Frame.plain command.octet 0), .ok ()⟩, ⟨.discard, .error failure⟩] ∧
        result = (.error (.transport failure), master)) ∨
      ∃ rest, next.Path rest result ∧
        events = ⟨.send (Frame.plain command.octet 0), .ok ()⟩ :: ⟨.discard, .ok ()⟩ :: rest := by
  simp only [announce, Dialogue.path_ask_iff, path_orFail_iff]
  constructor
  · rintro ⟨_, _, ⟨failure, rfl, rfl, rfl⟩ |
      ⟨_, rfl, _, _, ⟨failure, rfl, rfl, rfl⟩ | ⟨_, rfl, path⟩, rfl⟩, rfl⟩
    · exact .inl ⟨failure, rfl, rfl⟩
    · exact .inr (.inl ⟨failure, rfl, rfl⟩)
    · exact .inr (.inr ⟨_, path, rfl⟩)
  · rintro (⟨failure, rfl, rfl⟩ | ⟨failure, rfl, rfl⟩ | ⟨rest, path, rfl⟩)
    · exact ⟨_, _, .inl ⟨failure, rfl, rfl, rfl⟩, rfl⟩
    · exact ⟨_, _, .inr ⟨(), rfl, _, _, .inl ⟨failure, rfl, rfl, rfl⟩, rfl⟩, rfl⟩
    · exact ⟨_, _, .inr ⟨(), rfl, _, _, .inr ⟨(), rfl, path⟩, rfl⟩, rfl⟩

/-- Without a failed call, a path through an announcement goes on behind it. -/
theorem path_announce_of_not_failed {events : List Event}
    {result : Except MasterError α × Master}
    (path : (announce master command next).Path events result)
    (hcalls : ∀ event ∈ events, event.failed = false) :
    ∃ rest, next.Path rest result ∧ (∀ event ∈ rest, event.failed = false) ∧
      events = ⟨.send (Frame.plain command.octet 0), .ok ()⟩ :: ⟨.discard, .ok ()⟩ :: rest := by
  obtain ⟨failure, rfl, -⟩ | ⟨failure, rfl, -⟩ | ⟨rest, hrest, rfl⟩ := path_announce_iff.mp path
  · simp [Event.failed] at hcalls
  · simp [Event.failed] at hcalls
  · exact ⟨rest, hrest, fun event hmem => hcalls event (by simp [hmem]), rfl⟩

/-- The results of an announcement are those of failed calls and those behind it. -/
theorem always_announce {p : Except MasterError α × Master → Prop} :
    (announce master command next).Always p ↔
      (∀ failure, p (.error (.transport failure), master)) ∧ next.Always p := by
  simp only [announce, Dialogue.always_ask, always_orFail, forall_const]
  exact ⟨fun h => h.2, fun h => ⟨h.1, h⟩⟩

end Announce

/-! ### Exchanges -/

section Exchange

/-- The response that a reply decodes to. -/
def decoded (master : Master) : Option (List UInt8) → Response
  | some octets => .decode master.geometry.odWidth octets
  | none => .missing master.geometry.odWidth

/-- The response, unless its checksum is wrong and the settings ask for a right one. -/
def checked (master : Master) (response : Response) : Response :=
  if master.settings.enforceChecksum then
    match response.verdict with
    | .mismatch .. => .missing master.geometry.odWidth
    | .intact | .notReceived => response
  else
    response

/-- The response to a frame that got the given reply. -/
def responseTo (master : Master) (reply : Option (List UInt8)) : Response :=
  master.checked (master.decoded reply)

variable (master : Master)

@[simp]
theorem responseTo_none : master.responseTo none = .missing master.geometry.odWidth := by
  rw [responseTo, checked]
  split <;> rfl

@[simp]
theorem responseTo_enter (state : ConnectionState) :
    (master.enter state).responseTo = master.responseTo := rfl

@[simp]
theorem wire_decodeReply (reply : Option (List UInt8)) :
    wire (decodeReply reply) master = .done (.ok (master.decoded reply), master) := by
  cases reply <;> simp [decodeReply, noResponse, decoded]

@[simp]
theorem wire_checkChecksum (response : Response) :
    wire (checkChecksum response) master = .done (.ok (master.checked response), master) := by
  rw [checkChecksum, checked]
  rw [wire_bind, wire_get, Dialogue.done_bind, andThen_ok, wire_ite]
  split
  · cases response.verdict <;> simp [noResponse]
  · rfl

theorem wire_exchange (frame : List UInt8) (timeout : Nat) :
    wire (exchange frame timeout) master =
      roundTrip master frame (if frame.length = 2 then 2 else master.geometry.responseLength)
        timeout fun reply => .done (.ok (master.responseTo reply), master) := by
  simp only [exchange, roundTrip, responseTo, wire_bind, wire_get, wire_sendFrame, wire_receive,
    wire_decodeReply, wire_checkChecksum, Dialogue.ask_bind, Dialogue.done_bind, orFail_bind,
    andThen_ok]

end Exchange

end Sdci.Master
