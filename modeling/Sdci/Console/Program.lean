import Sdci.Console.Reaction
import Sdci.Serial.Line

/-!
# The console program

The program takes the path of a serial line, a geometry and a transmission rate, opens the serial
line, and answers what is typed until it is told to quit or the input ends. A poll ends with the
next line of input. How many cycles it runs until that is typed is a matter of time, so a run is
given those numbers; without them, each poll is ended before its first delay is over.
-/

namespace Sdci.Console

open Serial

/-- The arguments of the program. -/
structure Arguments where
  path : String
  geometry : Geometry
  baudRate : BaudRate
deriving DecidableEq, Repr

namespace Arguments

/-- Read the arguments. Those that are missing have defaults, and those behind the third are not
looked at. -/
def ofList (arguments : List String) : Except SettingError Arguments := do
  let geometry ← Geometry.ofText (arguments[1]?.getD "0")
  let baudRate ← BaudRate.ofText (arguments[2]?.getD "COM2")
  return { path := arguments.head?.getD "/dev/ttyUSB0", geometry, baudRate }

variable (arguments : Arguments)

/-- How the serial line is opened. -/
def opening : Opening :=
  { path := arguments.path, bitsPerSecond := arguments.baudRate.bitsPerSecond }

/-- The master that the console starts with. -/
def master : Dialogue Master := do
  let (_, master) ← (Operation.useBaudRate arguments.baudRate).perform (.new arguments.geometry)
  return master

/-- The sentence shown when the serial line cannot be opened. -/
def openFailure (cause : String) : String :=
  s!"Failed to open serial port {arguments.path}: {cause}"

end Arguments

/-- One turn of the console: the prompt with the state of the master, and what is printed behind it.
-/
structure Turn where
  state : ConnectionState
  output : String
deriving DecidableEq, Repr

/-- What a turn prints. -/
def Turn.text (turn : Turn) : String :=
  prompt turn.state ++ turn.output

/-- What a run of the console leaves behind. -/
structure Transcript (σ : Type) where
  master : Master
  transport : σ
  turns : List Turn
  /-- The lines that were not read. -/
  unread : List String
  /-- Whether the console broke off. -/
  aborted : Bool := false

namespace Transcript

variable {σ : Type}

/-- The transcript of a console that prompts and finds no line to read. -/
def atEnd (master : Master) (transport : σ) : Transcript σ :=
  ⟨master, transport, [⟨master.state, ""⟩], [], false⟩

/-- The transcript with another turn in front. -/
def after (turn : Turn) (transcript : Transcript σ) : Transcript σ :=
  { transcript with turns := turn :: transcript.turns }

/-- All that was printed. -/
def output (transcript : Transcript σ) : String :=
  .join (transcript.turns.map Turn.text)

end Transcript

/-- React to a line, and run the cycles of the poll if it starts one. -/
def answer (master : Master) (typed : String) (cycles : Nat) : Dialogue Reaction := do
  let reaction ← react master typed
  match reaction.next with
  | .poll delay =>
    let ⟨master, output, _⟩ ← pollCycles reaction.master delay cycles
    return { reaction with master, output := reaction.output ++ output }
  | _ => return reaction

/-- Answer lines until one quits or none are left. A poll takes the next line too, also if an error
ends it. The first of `cycles` is for the first poll, and polls behind the last run none. -/
def answerLines {σ : Type} [Transport σ] (master : Master) (transport : σ) (cycles : List Nat) :
    (lines : List String) → Transcript σ
  | [] => .atEnd master transport
  | typed :: rest =>
    let (⟨after, output, next⟩, transport, _) :=
      (answer master typed (cycles.headD 0)).run transport
    .after ⟨master.state, output⟩ <|
      match next, rest with
      | .quit, rest => ⟨after, transport, [], rest, false⟩
      | .abort, rest => ⟨after, transport, [], rest, true⟩
      | .poll _, [] => .atEnd after transport
      | .poll _, _ :: rest => answerLines after transport cycles.tail rest
      | .prompt, rest => answerLines after transport cycles rest

/-- What a run of the program leaves behind. -/
structure Result where
  /-- The attempt to open the serial line, unless the arguments were rejected before. -/
  opening : Option Opening
  /-- The sentence that the program ends with, if it fails. -/
  failure : Option String
  output : String
  line : Line
  unread : List String
  /-- Whether the program broke off instead of coming to an end. -/
  aborted : Bool := false
deriving DecidableEq, Repr

/-- Run the program where `line` is the only serial line, at the path `available`, and the polls run
the given numbers of cycles. -/
def run (arguments : List String) (available : String) (line : Line) (lines : List String)
    (cycles : List Nat := []) : Result :=
  match Arguments.ofList arguments with
  | .error e => ⟨none, some e.message, "", line, lines, false⟩
  | .ok arguments =>
    if arguments.path ≠ available then
      ⟨some arguments.opening, some (arguments.openFailure "no such port"), "", line, lines, false⟩
    else
      let (master, line, _) := arguments.master.run line
      let transcript := answerLines master line cycles lines
      { opening := some arguments.opening
        failure := none
        output := transcript.output
        line := transcript.transport
        unread := transcript.unread
        aborted := transcript.aborted }

end Sdci.Console
