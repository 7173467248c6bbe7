import Sdci.Transport

/-!
# The line's part of a dialogue

A pause or a notice never reaches the line. `Dialogue.wire` is a dialogue without them, and
`traffic` a list of events without them; the two agree on paths (`Dialogue.Path.wire`) and on runs
over a transport (`Dialogue.run_wire`).

`Dialogue.Always` says that every result has a property.
-/

namespace Sdci

/-- The call reaches the line. -/
def Call.isTraffic : Call → Bool
  | .send _ | .receive .. | .discard => true
  | .pause _ | .note _ => false

namespace Event

/-- The reply, or its absence, that a wait for one ended in. -/
def reply? : Event → Option (Option (List UInt8))
  | ⟨.receive .., .ok reply⟩ => some reply
  | _ => none

/-- The frame that a call sends. -/
def frame? : Event → Option (List UInt8)
  | ⟨.send frame, _⟩ => some frame
  | _ => none

/-- A call to the line failed. -/
def failed : Event → Bool
  | ⟨.send _, .error _⟩ | ⟨.receive .., .error _⟩ | ⟨.discard, .error _⟩ => true
  | _ => false

end Event

/-- The events on the line. -/
def traffic (events : List Event) : List Event :=
  events.filter (·.call.isTraffic)

/-- The replies that came in, or their absence. -/
def repliesIn (events : List Event) : List (Option (List UInt8)) :=
  events.filterMap Event.reply?

/-- The frames that went out, whether or not the call to send them failed. -/
def framesIn (events : List Event) : List (List UInt8) :=
  events.filterMap Event.frame?

@[simp]
theorem framesIn_append (first second : List Event) :
    framesIn (first ++ second) = framesIn first ++ framesIn second :=
  List.filterMap_append

/-- Every reply comes in on the line. -/
@[simp]
theorem repliesIn_traffic (events : List Event) : repliesIn (traffic events) = repliesIn events := by
  rw [repliesIn, traffic, List.filterMap_filter]
  refine congrArg (List.filterMap · events) (funext fun event => ?_)
  obtain ⟨call, answer⟩ := event
  cases call <;> rfl

/-- One frame sent again and again brings in the replies to it. -/
theorem repliesIn_exchanges (frame : List UInt8) (count timeout : Nat)
    (replies : List (Option (List UInt8))) :
    repliesIn (replies.flatMap fun reply =>
      [⟨.send frame, .ok ()⟩, ⟨.receive count timeout, .ok reply⟩]) = replies := by
  induction replies with
  | nil => rfl
  | cons reply rest ih => exact congrArg (reply :: ·) ih

namespace Dialogue

variable {α β σ : Type}

/-- The dialogue without its pauses and notices. -/
def wire : Dialogue α → Dialogue α
  | done value => done value
  | ask (.send frame) next => ask (.send frame) fun answer => (next answer).wire
  | ask (.receive count timeout) next =>
    ask (.receive count timeout) fun answer => (next answer).wire
  | ask .discard next => ask .discard fun answer => (next answer).wire
  | ask (.pause _) next | ask (.note _) next => (next ()).wire

@[simp]
theorem wire_done (value : α) : (done value).wire = done value := rfl

/-- The line's part of two dialogues, one behind the other, is made of their parts. -/
@[simp]
theorem wire_bind (dialogue : Dialogue α) (f : α → Dialogue β) :
    (dialogue.bind f).wire = dialogue.wire.bind fun value => (f value).wire := by
  induction dialogue with
  | done value => rfl
  | ask call next ih =>
    cases call with
    | send frame => exact congrArg (ask (.send frame)) (funext ih)
    | receive count timeout => exact congrArg (ask (.receive count timeout)) (funext ih)
    | discard => exact congrArg (ask .discard) (funext ih)
    | pause duration => exact ih ()
    | note notice => exact ih ()

/-! ### Paths -/

/-- A path of a dialogue, seen from the line. -/
theorem Path.wire {dialogue : Dialogue α} {events : List Event} {value : α}
    (path : dialogue.Path events value) : dialogue.wire.Path (traffic events) value := by
  induction path with
  | done value => exact .done value
  | @ask call next events value answer rest ih =>
    cases call with
    | send frame => exact .ask answer ih
    | receive count timeout => exact .ask answer ih
    | discard => exact .ask answer ih
    | pause duration => exact ih
    | note notice => exact ih

/-! ### Runs -/

/-- Pauses and notices change nothing about a run but its list of events. -/
theorem run_wire [Transport σ] (dialogue : Dialogue α) (transport : σ) :
    dialogue.wire.run transport =
      ((dialogue.run transport).1, (dialogue.run transport).2.1,
        traffic (dialogue.run transport).2.2) := by
  induction dialogue generalizing transport with
  | done value => rfl
  | ask call next ih =>
    cases call with
    | send frame | receive count timeout | discard =>
      simp only [wire, run, ih]
      rfl
    | pause duration | note notice =>
      simp only [wire, run, ih]
      rfl

/-! ### Properties of all results -/

/-- Every result of the dialogue has the property. -/
def Always (p : α → Prop) : Dialogue α → Prop
  | done value => p value
  | ask _ next => ∀ answer, (next answer).Always p

variable {p q : α → Prop}

@[simp]
theorem always_done {value : α} : (done value).Always p ↔ p value := Iff.rfl

@[simp]
theorem always_ask {call : Call} {next : call.Answer → Dialogue α} :
    (ask call next).Always p ↔ ∀ answer, (next answer).Always p := Iff.rfl

theorem Always.mono (h : ∀ value, p value → q value) {dialogue : Dialogue α}
    (hp : dialogue.Always p) : dialogue.Always q := by
  induction dialogue with
  | done value => exact h value hp
  | ask call next ih => exact fun answer => ih answer (hp answer)

/-- Every result of two dialogues, one behind the other, is one of the second's. -/
theorem always_bind {p : β → Prop} {dialogue : Dialogue α} {f : α → Dialogue β} :
    (dialogue.bind f).Always p ↔ dialogue.Always fun value => (f value).Always p := by
  induction dialogue with
  | done value => rfl
  | ask call next ih => exact forall_congr' ih

/-- A property of every result is one of the result of every path. -/
theorem Always.of_path {dialogue : Dialogue α} (h : dialogue.Always p) {events : List Event}
    {value : α} (path : dialogue.Path events value) : p value := by
  induction path with
  | done value => exact h
  | ask answer _ ih => exact ih (h answer)

/-! ### Results over a transport -/

section Play

variable {σ : Type} [Transport σ]

/-- The result of a dialogue over a transport, and the transport behind it. -/
def play (dialogue : Dialogue α) (transport : σ) : α × σ :=
  ((dialogue.run transport).1, (dialogue.run transport).2.1)

@[simp]
theorem play_done (value : α) (transport : σ) : (done value).play transport = (value, transport) :=
  rfl

@[simp]
theorem play_bind (dialogue : Dialogue α) (f : α → Dialogue β) (transport : σ) :
    (dialogue.bind f).play transport =
      (f (dialogue.play transport).1).play (dialogue.play transport).2 := by
  simp only [play, run_bind]

/-- Pauses and notices change nothing about a result. -/
theorem play_wire (dialogue : Dialogue α) (transport : σ) :
    dialogue.wire.play transport = dialogue.play transport := by
  simp only [play, run_wire]

end Play

end Dialogue

end Sdci
