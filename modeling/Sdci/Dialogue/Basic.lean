import Sdci.Master.Notice

/-!
# Dialogues with the surroundings

What a master does is a dialogue: it makes a call to the line, the clock or the log, and goes on
according to the answer. A dialogue is a tree with a call at every node, a branch for every answer
and a result at every leaf, so a statement about all branches is a statement about every transport.
-/

namespace Sdci

/-- What kind of failure a call to the line met with. -/
inductive Failure.Kind
  | brokenPipe
  | notFound
  | other
deriving DecidableEq, Repr

/-- The failure of a call to the line. -/
structure Failure where
  kind : Failure.Kind
  text : String
deriving DecidableEq, Repr

/-- A call that a dialogue makes. Times are in milliseconds. -/
inductive Call
  /-- Send a frame. -/
  | send (frame : List UInt8)
  /-- Wait for a reply of `count` octets. -/
  | receive (count timeout : Nat)
  /-- Drop what has come in so far. -/
  | discard
  /-- Let some time pass. -/
  | pause (duration : Nat)
  /-- Write a notice into the log. -/
  | note (notice : Notice)
deriving DecidableEq, Repr

/-- The answers to a call. A reply that does not come in time is `none`. -/
@[reducible]
def Call.Answer : Call → Type
  | send _ | discard => Except Failure Unit
  | receive .. => Except Failure (Option (List UInt8))
  | pause _ | note _ => Unit

/-- A call and the answer to it. -/
structure Event where
  call : Call
  answer : call.Answer

/-- The notice, if the call was one to the log. -/
def Event.notice? (event : Event) : Option Notice :=
  match event.call with
  | .note notice => some notice
  | _ => none

/-- A dialogue with a result of type `α`. -/
inductive Dialogue (α : Type) : Type
  | done (value : α)
  | ask (call : Call) (next : call.Answer → Dialogue α)

namespace Dialogue

variable {α β γ : Type}

/-- Go on with another dialogue. -/
def bind : Dialogue α → (α → Dialogue β) → Dialogue β
  | done value, f => f value
  | ask call next, f => ask call fun answer => (next answer).bind f

instance : Monad Dialogue where
  pure := done
  bind := bind

/-- One call, with its answer for a result. -/
def call (call : Call) : Dialogue call.Answer :=
  ask call done

@[simp]
theorem done_bind (value : α) (f : α → Dialogue β) : (done value).bind f = f value := rfl

@[simp]
theorem ask_bind (call : Call) (next : call.Answer → Dialogue α) (f : α → Dialogue β) :
    (ask call next).bind f = ask call fun answer => (next answer).bind f := rfl

@[simp]
theorem bind_done (dialogue : Dialogue α) : dialogue.bind done = dialogue := by
  induction dialogue with
  | done value => rfl
  | ask call next ih => exact congrArg (ask call) (funext ih)

theorem bind_assoc (dialogue : Dialogue α) (f : α → Dialogue β) (g : β → Dialogue γ) :
    (dialogue.bind f).bind g = dialogue.bind fun value => (f value).bind g := by
  induction dialogue with
  | done value => rfl
  | ask call next ih => exact congrArg (ask call) (funext ih)

instance : LawfulMonad Dialogue :=
  LawfulMonad.mk' Dialogue bind_done (fun _ _ => rfl) bind_assoc

end Dialogue

end Sdci
