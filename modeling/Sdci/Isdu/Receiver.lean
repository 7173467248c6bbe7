import Sdci.Isdu.Request

/-!
# Receivers of an answer

When a request is out, a receiver takes the first on-request data octet of each response until it
has an answer or gives up. Every receiver has a budget that each octet makes smaller, so it gives
up after finitely many.
-/

namespace Sdci.Isdu

/-- What becomes of a receiver when it takes an octet. -/
inductive Progress (ρ α : Type)
  /-- More octets are needed. -/
  | needData (next : ρ)
  | done (result : Except TransferError α)
deriving Repr

/-- The receivers of type `ρ`, with answers of type `α`. -/
class Receiver (ρ : Type) (α : outParam Type) where
  /-- Take one octet. -/
  feed : ρ → UInt8 → Progress ρ α
  /-- A bound on the octets that are still needed. -/
  budget : ρ → Nat
  /-- Each octet makes the budget smaller. -/
  budget_lt {receiver next : ρ} {octet : UInt8} :
    feed receiver octet = .needData next → budget next < budget receiver

namespace Receiver

variable {ρ α : Type} [Receiver ρ α]

/-- Feed octets one at a time until the receiver is done: how many octets it took, and its result
unless the octets ended first. -/
def feedAll (receiver : ρ) : List UInt8 → Nat × Option (Except TransferError α)
  | [] => (0, none)
  | octet :: rest =>
    match feed receiver octet with
    | .done result => (1, some result)
    | .needData next =>
      let (taken, result) := feedAll next rest
      (taken + 1, result)

end Receiver

end Sdci.Isdu
