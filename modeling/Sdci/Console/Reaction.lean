import Sdci.Console.Request

/-!
# How the console reacts to a line

The console prompts with the state of the master, reads a line, runs it and prints what came of it.
A complaint is printed like any other outcome, and the console goes on. Only a poll whose delay is a
number but no time is the end of it.
-/

namespace Sdci.Console

/-- What the console does next. -/
inductive Next
  | prompt
  /-- Run cycles until a line is typed. -/
  | poll (delay : Text.Decimal)
  | quit
  /-- Break off: there is no such delay. -/
  | abort
deriving DecidableEq, Repr

/-- The reaction to a line. -/
structure Reaction where
  master : Master
  /-- What is printed. -/
  output : String
  next : Next
deriving DecidableEq, Repr

/-- A text with the end of its line. -/
def endLine (text : String) : String :=
  text ++ "\n"

/-- The prompt. -/
def prompt (state : ConnectionState) : String :=
  s!"{state.name} >> "

/-- Perform an operation and print what came of it. -/
def perform (master : Master) (operation : Operation) : Dialogue Reaction := do
  match ← operation.perform master with
  | (.ok outcome, master) =>
    return ⟨master, ((report? operation outcome).map endLine).getD "", .prompt⟩
  | (.error e, master) => return ⟨master, endLine (Complaint.master e).message, .prompt⟩

/-- React to a request. -/
def reactTo (master : Master) : Request → Dialogue Reaction
  | .operation operation => perform master operation
  | .poll delay =>
    if delay.isTime then return ⟨master, endLine "Press enter to stop polling.", .poll delay⟩
    else return ⟨master, "", .abort⟩
  | .quit => return ⟨master, "", .quit⟩

/-- React to a line. -/
def react (master : Master) (typed : String) : Dialogue Reaction :=
  match Request.ofLine typed with
  | .ok none => return ⟨master, "", .prompt⟩
  | .ok (some request) => reactTo master request
  | .error complaint => return ⟨master, endLine complaint.message, .prompt⟩

/-- Run one cycle of a poll. An error ends the poll. -/
def pollOnce (master : Master) (delay : Text.Decimal) : Dialogue Reaction := do
  match ← (Operation.cycle [] 0).perform master with
  | (.ok (.response response), master) =>
    return ⟨master, endLine (Text.hexList response.payload), .poll delay⟩
  | (.ok _, master) => return ⟨master, "", .poll delay⟩
  | (.error e, master) => return ⟨master, endLine (Complaint.master e).message, .prompt⟩

/-- Run the cycles of a poll, so many of them unless an error ends it before. -/
def pollCycles (master : Master) (delay : Text.Decimal) : Nat → Dialogue Reaction
  | 0 => return ⟨master, "", .poll delay⟩
  | count + 1 => do
    let reaction ← pollOnce master delay
    match reaction.next with
    | .poll delay =>
      let later ← pollCycles reaction.master delay count
      return { later with output := reaction.output ++ later.output }
    | _ => return reaction

end Sdci.Console
