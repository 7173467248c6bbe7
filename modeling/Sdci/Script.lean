import Sdci.FaultPlan
import Sdci.Transport

/-!
# Scripted transports

A scripted transport answers from a list of replies and keeps a record of the calls that reach it.
Chosen calls fail. It stands in for a device wherever a session has to be repeatable.
-/

namespace Sdci

namespace Script

/-- What a wait for a reply ends in. -/
inductive Reply
  | octets (octets : List UInt8)
  | silence
  | failure (text : String)
deriving DecidableEq, Repr

/-- A call that reached the transport. -/
inductive Record
  | send (frame : List UInt8)
  | receive (count timeout : Nat)
  | discard
deriving DecidableEq, Repr

end Script

/-- A transport that plays a script. -/
structure Script where
  /-- What the waits for a reply end in, the next one first; silence when there are none left. -/
  replies : List Script.Reply
  /-- Keep the promise of a reply's length: a shorter reply is silence, a longer one is cut. -/
  isStrict : Bool := false
  /-- Discards reach the transport; otherwise they have no effect and are not recorded. -/
  hasDiscard : Bool := true
  sends : FaultPlan := {}
  discards : FaultPlan := {}
  /-- The calls so far, the latest first. -/
  record : List Script.Record := []
deriving DecidableEq, Repr

namespace Script

/-- The answer to the next call of a plan, a failure with the given text if it is planned. -/
def outcome (plan : FaultPlan) (text : String) : Except Failure Unit :=
  if plan.nextFails then .error ⟨.other, text⟩ else .ok ()

/-- Record a frame. -/
def send (frame : List UInt8) (script : Script) : Except Failure Unit × Script :=
  (outcome script.sends "send failed",
    { script with sends := script.sends.advance, record := .send frame :: script.record })

/-- A reply as it is handed to someone who waits for `count` octets. -/
def deliver (isStrict : Bool) (count : Nat) : Reply → Except Failure (Option (List UInt8))
  | .silence => .ok none
  | .failure text => .error ⟨.other, text⟩
  | .octets octets =>
    if !isStrict then .ok (some octets)
    else if octets.length < count then .ok none
    else .ok (some (octets.take count))

/-- Hand out the next reply. -/
def receive (count timeout : Nat) (script : Script) :
    Except Failure (Option (List UInt8)) × Script :=
  (deliver script.isStrict count (script.replies.head?.getD .silence),
    { script with
      replies := script.replies.tail
      record := .receive count timeout :: script.record })

/-- Record a discard, if it reaches the transport. -/
def discard (script : Script) : Except Failure Unit × Script :=
  if script.hasDiscard then
    (outcome script.discards "discard failed",
      { script with discards := script.discards.advance, record := .discard :: script.record })
  else
    (.ok (), script)

instance : Transport Script := ⟨send, receive, discard⟩

end Script

end Sdci
