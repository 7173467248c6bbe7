import Sdci.Dialogue.Basic

/-!
# Paths through a dialogue

A path is one way that a dialogue can go: the calls with their answers, in order, and the result.
The answers are free, so what holds of all paths holds over every transport. A path through two
dialogues, one behind the other, is a path through each (`Dialogue.path_bind_iff`).
-/

namespace Sdci.Dialogue

variable {α β : Type}

/-- The dialogue can go through the events and end in the value. -/
inductive Path : Dialogue α → List Event → α → Prop
  | done (value : α) : Path (done value) [] value
  | ask {call : Call} {next : call.Answer → Dialogue α} {events : List Event} {value : α}
    (answer : call.Answer) (rest : Path (next answer) events value) :
    Path (ask call next) (⟨call, answer⟩ :: events) value

@[simp]
theorem path_done_iff {value result : α} {events : List Event} :
    Path (.done value) events result ↔ events = [] ∧ result = value := by
  constructor
  · rintro ⟨⟩
    exact ⟨rfl, rfl⟩
  · rintro ⟨rfl, rfl⟩
    exact .done _

@[simp]
theorem path_ask_iff {call : Call} {next : call.Answer → Dialogue α} {events : List Event}
    {result : α} :
    Path (.ask call next) events result ↔
      ∃ answer rest, Path (next answer) rest result ∧ events = ⟨call, answer⟩ :: rest := by
  constructor
  · rintro (_ | ⟨answer, path⟩)
    exact ⟨answer, _, path, rfl⟩
  · rintro ⟨answer, rest, path, rfl⟩
    exact .ask answer path

/-- A path through two dialogues is a path through the first and one through the second. -/
theorem path_bind_iff {dialogue : Dialogue α} {f : α → Dialogue β} {events : List Event}
    {result : β} :
    Path (dialogue.bind f) events result ↔
      ∃ first value second, Path dialogue first value ∧ Path (f value) second result ∧
        events = first ++ second := by
  constructor
  · intro path
    induction dialogue generalizing events with
    | done value => exact ⟨[], value, events, .done value, path, rfl⟩
    | ask call next ih =>
      obtain ⟨answer, rest, hrest, rfl⟩ := path_ask_iff.mp path
      obtain ⟨first, value, second, hfirst, hsecond, rfl⟩ := ih answer hrest
      exact ⟨_, value, second, .ask answer hfirst, hsecond, rfl⟩
  · rintro ⟨first, value, second, hfirst, hsecond, rfl⟩
    induction hfirst with
    | done value => exact hsecond
    | ask answer _ ih => exact .ask answer (ih hsecond)

end Sdci.Dialogue
