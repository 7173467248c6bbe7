import Sdci.Proofs.Bounded.Transfers
import Sdci.Proofs.Response

/-!
# The largest widths and limits

The width of the on-request data in a reply and the limit on the octets that a receiver waits for
are numbers of the caller. The sums with them stay within bounds except at the largest of these
numbers: the last two widths, for replies of more than two octets, and the last limit
(`Bounded.sums_within_bounds`).
-/

namespace Sdci.Bounded

open Isdu

/-! ### Limits -/

section Receiver

variable {ρ α : Type} [Receiver ρ α]

/-- Feed octets one at a time until the receiver is done. -/
def feedAll? (receiver : ρ) : List UInt8 → Option (Nat × Option (Except TransferError α))
  | [] => some (0, none)
  | octet :: rest => do
    match ← Receiver.feed? receiver octet with
    | .done result => return (1, some result)
    | .needData next =>
      let (taken, result) ← feedAll? next rest
      return (taken + 1, result)

/-- A receiver that is ready counts within bounds to its end. -/
theorem feedAll?_eq {receiver : ρ} (h : Receiver.Ready receiver) (octets : List UInt8) :
    feedAll? receiver octets = some (Isdu.Receiver.feedAll receiver octets) := by
  induction octets generalizing receiver with
  | nil => rfl
  | cons octet rest ih =>
    rw [feedAll?, Receiver.feed?_eq octet h, Option.bind_eq_bind, Option.bind_some,
      Isdu.Receiver.feedAll]
    cases hfeed : Isdu.Receiver.feed receiver octet with
    | done result => rfl
    | needData next =>
      simp only [ih (Receiver.ready_of_feed h hfeed)]
      rfl

/-- A receiver that begins with one look more than a limit is fed within bounds to its end, if that
is a number. -/
theorem bind_feedAll?_eq {first : Option ρ} {receiver : ρ} {pollLimit : Nat}
    (hsome : pollLimit + 1 < Reply.lengthModulus → first = some receiver)
    (hnone : first = none ↔ Reply.lengthModulus ≤ pollLimit + 1) (h : Receiver.Ready receiver)
    (octets : List UInt8) :
    (first >>= fun receiver => feedAll? receiver octets) =
      if pollLimit + 1 < Reply.lengthModulus then
        some (Isdu.Receiver.feedAll receiver octets)
      else none := by
  split
  · next hlt =>
    rw [hsome hlt]
    exact feedAll?_eq h octets
  · next hle =>
    rw [hnone.mpr (Nat.le_of_not_lt hle)]
    rfl

end Receiver

/-- Collect the answer to a request, from the count of the looks on. -/
def collect? (request : Request) (pollLimit : Nat) (octets : List UInt8) :
    Option (Nat × Option (Except TransferError (List UInt8))) := do
  feedAll? (← Collector.ofRequest? request pollLimit) octets

/-- Wait for the acknowledgement of a request, from the count of the looks on. -/
def acknowledge? (request : Request) (pollLimit : Nat) (octets : List UInt8) :
    Option (Nat × Option (Except TransferError UInt8)) := do
  feedAll? (← Acknowledgement.ofRequest? request pollLimit) octets

theorem collect?_eq (request : Request) (pollLimit : Nat) (octets : List UInt8) :
    collect? request pollLimit octets =
      if pollLimit + 1 < Reply.lengthModulus then
        some (Isdu.Receiver.feedAll (Collector.ofRequest request pollLimit) octets)
      else none :=
  bind_feedAll?_eq (Collector.ofRequest?_of_lt · request) Collector.ofRequest?_eq_none_iff
    (Collector.ready_ofRequest request pollLimit) octets

theorem acknowledge?_eq (request : Request) (pollLimit : Nat) (octets : List UInt8) :
    acknowledge? request pollLimit octets =
      if pollLimit + 1 < Reply.lengthModulus then
        some (Isdu.Receiver.feedAll (Acknowledgement.ofRequest request pollLimit) octets)
      else none :=
  bind_feedAll?_eq (Acknowledgement.ofRequest?_of_lt · request)
    Acknowledgement.ofRequest?_eq_none_iff (Acknowledgement.ready_ofRequest request pollLimit) octets

/-! ### All numbers -/

/-- Decoding stays within bounds, and comes to its response, unless the reply has more than two
octets and two octets more than the width are no length. A receiver is fed within bounds unless one
look more than its limit is no number, whatever the octets are. -/
theorem sums_within_bounds (odWidth pollLimit : Nat) (request : Request) (octets : List UInt8) :
    (Response.decode? odWidth octets =
        if 2 < octets.length ∧ Reply.lengthModulus ≤ 2 + odWidth then none
        else some (Response.decode odWidth octets)) ∧
      (collect? request pollLimit octets =
        if pollLimit + 1 < Reply.lengthModulus then
          some (Isdu.Receiver.feedAll (Collector.ofRequest request pollLimit) octets)
        else none) ∧
      acknowledge? request pollLimit octets =
        if pollLimit + 1 < Reply.lengthModulus then
          some (Isdu.Receiver.feedAll (Acknowledgement.ofRequest request pollLimit) octets)
        else none :=
  ⟨Response.decode?_eq odWidth octets, collect?_eq request pollLimit octets,
    acknowledge?_eq request pollLimit octets⟩

/-- A cyclic reply at the last width that is within bounds, and at the next one. -/
theorem sums_within_bounds_of_largest :
    Response.decode? (Reply.lengthModulus - 3) [0x46, 0x31, 0x38] =
        some (.received (.cyclic 0x46 [] (.one 0x31) 0x38)) ∧
      Response.decode? (Reply.lengthModulus - 2) [0x46, 0x31, 0x38] = none := by
  have hlast := (sums_within_bounds (Reply.lengthModulus - 3) 0 (.read 0x10 0) [0x46, 0x31, 0x38]).1
  have hnext := (sums_within_bounds (Reply.lengthModulus - 2) 0 (.read 0x10 0) [0x46, 0x31, 0x38]).1
  rw [if_neg (by decide)] at hlast
  rw [if_pos (by decide)] at hnext
  refine ⟨hlast.trans ?_, hnext⟩
  rw [Response.decode_eq_received (Reply.decode?_of_three (by decide) 0x46 0x31 0x38)]

/-- At the largest width and the largest limit, no sum is within bounds. -/
theorem largest_out_of_bounds :
    (¬∀ odWidth < Reply.lengthModulus, ∀ octets : List UInt8,
        (Response.decode? odWidth octets).isSome) ∧
      (¬∀ pollLimit < Reply.lengthModulus, ∀ (request : Request) (octets : List UInt8),
        (collect? request pollLimit octets).isSome) ∧
      ¬∀ pollLimit < Reply.lengthModulus, ∀ (request : Request) (octets : List UInt8),
        (acknowledge? request pollLimit octets).isSome := by
  have hlargest : Reply.lengthModulus - 1 < Reply.lengthModulus := by decide
  refine ⟨fun h => ?_, fun h => ?_, fun h => ?_⟩
  · have hdecode := h _ hlargest [0x46, 0x31, 0x38]
    rw [Response.decode?_eq, if_pos (by decide)] at hdecode
    cases hdecode
  · have hcollect := h _ hlargest (.read 0x10 0) []
    rw [collect?_eq, if_neg (by decide)] at hcollect
    cases hcollect
  · have hacknowledge := h _ hlargest (.read 0x10 0) []
    rw [acknowledge?_eq, if_neg (by decide)] at hacknowledge
    cases hacknowledge

end Sdci.Bounded
