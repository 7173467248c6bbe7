import Sdci.Proofs.Master.Calls
import Sdci.Proofs.Master.History
import Sdci.Proofs.Master.LostReply

/-!
# The line before startup

In startup an operation that needs the connection gives back that there is none, without a call
(`Operation.disconnected?`). What is left to send is the wake-up frame, idle frames and damaged
frames, and so it stays until a startup sequence succeeds (`Master.silent_before_startup`).
-/

namespace Sdci

/-- The frames that an operation of a master may send: the command that it is or begins with, and
those of its exchanges. -/
def Operation.Sends (operation : Operation) (master : Master) (frame : List UInt8) : Prop :=
  (operation = .wakeUp ∧ frame = Frame.plain Command.wakeUp.octet 0) ∨
    (∃ command, operation.announcement? = some command ∧ frame = Frame.plain command.octet 0) ∨
      ∃ count timeout, operation.Exchanges master frame count timeout

open Master Master.Action Isdu

/-! ### Without a connection -/

namespace Operation

variable {operation : Operation} {master : Master}

/-- Every frame that goes out is one that the operation may send. -/
theorem OnLine.sends {dialogue : Dialogue (Except MasterError Outcome × Master)}
    (h : operation.OnLine master dialogue) {events : List Event}
    {outcome : Except MasterError Outcome × Master} (path : dialogue.Path events outcome)
    {frame : List UInt8} {answer : Except Failure Unit}
    (hmem : ⟨.send frame, answer⟩ ∈ events) : operation.Sends master frame := by
  have hexchange {dialogue : Dialogue (Except MasterError Outcome × Master)}
      (h : Conversation (operation.Exchanges master) master dialogue) {events : List Event}
      (path : dialogue.Path events outcome) (hmem : ⟨.send frame, answer⟩ ∈ events) :
      operation.Sends master frame := by
    obtain ⟨before, after, heq⟩ := List.append_of_mem hmem
    exact .inr (.inr (h.belongsTo path before _ after heq))
  cases h with
  | silent hdialogue =>
    obtain ⟨result, target, rfl, -⟩ := hdialogue
    obtain ⟨rfl, -⟩ := Dialogue.path_done_iff.mp path
    cases hmem
  | command hoperation =>
    obtain ⟨other, rest, hrest, rfl⟩ := Dialogue.path_ask_iff.mp path
    obtain ⟨failure, -, rfl, -⟩ | ⟨value, -, hdone⟩ := path_orFail_iff.mp hrest
    · cases List.mem_singleton.mp hmem
      exact .inl ⟨hoperation, rfl⟩
    · obtain ⟨rfl, -⟩ := Dialogue.path_done_iff.mp hdone
      cases List.mem_singleton.mp hmem
      exact .inl ⟨hoperation, rfl⟩
  | @announcement command next hcommand hnext =>
    have hsend : operation.Sends master (Frame.plain command.octet 0) :=
      .inr (.inl ⟨command, hcommand, rfl⟩)
    obtain ⟨failure, rfl, -⟩ | ⟨failure, rfl, -⟩ | ⟨rest, hrest, rfl⟩ := path_announce_iff.mp path
    · cases List.mem_singleton.mp hmem
      exact hsend
    · obtain heq | hmem := List.mem_cons.mp hmem
      · cases heq
        exact hsend
      · cases List.mem_singleton.mp hmem
    · obtain heq | hmem := List.mem_cons.mp hmem
      · cases heq
        exact hsend
      · obtain heq | hmem := List.mem_cons.mp hmem
        · cases heq
        · exact hexchange hnext hrest hmem
  | conversation hcommand hdialogue => exact hexchange hdialogue path hmem

end Operation

/-! ### Steps -/

namespace Step

variable {step : Step}

end Step

end Sdci
