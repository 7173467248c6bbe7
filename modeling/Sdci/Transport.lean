import Sdci.Dialogue.Path

/-!
# Transports

A transport carries frames and replies. It answers the calls of a dialogue one after the other and
may change with each; a dialogue run over a transport goes along one of its paths
(`Dialogue.path_run`).
-/

namespace Sdci

/-- The transports with states of type `σ`. -/
class Transport (σ : Type) where
  /-- Send a frame. -/
  send : List UInt8 → σ → Except Failure Unit × σ
  /-- Wait for a reply of the given length, up to the given number of milliseconds. -/
  receive : Nat → Nat → σ → Except Failure (Option (List UInt8)) × σ
  /-- Drop what has come in so far. -/
  discard : σ → Except Failure Unit × σ

namespace Transport

variable {σ : Type} [Transport σ]

/-- The answer of a transport to a call. Pauses and notices are none of its business. -/
def answer (transport : σ) : (call : Call) → call.Answer × σ
  | .send frame => send frame transport
  | .receive count timeout => receive count timeout transport
  | .discard => discard transport
  | .pause _ | .note _ => ((), transport)

end Transport

namespace Dialogue

variable {σ α β : Type} [Transport σ]

/-- Run a dialogue over a transport: the result, the transport afterwards, and the calls. -/
def run : Dialogue α → σ → α × σ × List Event
  | done value, transport => (value, transport, [])
  | ask call next, transport =>
    let (answer, transport) := Transport.answer transport call
    let (value, transport, events) := (next answer).run transport
    (value, transport, ⟨call, answer⟩ :: events)

@[simp]
theorem run_done (value : α) (transport : σ) :
    (done value).run transport = (value, transport, []) := rfl

/-- Running one dialogue behind another runs the second where the first ends. -/
theorem run_bind (dialogue : Dialogue α) (f : α → Dialogue β) (transport : σ) :
    (dialogue.bind f).run transport =
      let (value, transport, events) := dialogue.run transport
      let (result, transport, others) := (f value).run transport
      (result, transport, events ++ others) := by
  induction dialogue generalizing transport with
  | done value => rfl
  | ask call next ih => simp [run, ih]

/-- A run over a transport goes along a path. -/
theorem path_run (dialogue : Dialogue α) (transport : σ) :
    dialogue.Path (dialogue.run transport).2.2 (dialogue.run transport).1 := by
  induction dialogue generalizing transport with
  | done value => exact .done value
  | ask call next ih => exact .ask _ (ih _ _)

end Dialogue

end Sdci
