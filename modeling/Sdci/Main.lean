import Sdci.Console.Program

/-!
# The console at a terminal device

The program runs the console over a terminal device of the operating system. The speed and the form
of a character are settings of that device, as is the time after which a read of nothing ends;
everything else is in the modules before. This one only reads, writes and waits.
-/

namespace Sdci.Main

open Console Serial

/-- A terminal device, opened once for each direction. -/
structure Device where
  input : IO.FS.Handle
  output : IO.FS.Handle

/-- Open the device at a path. -/
def Device.ofPath (path : String) : IO Device := do
  let input ← IO.FS.Handle.mk path .read
  let output ← IO.FS.Handle.mk path .append
  return { input, output }

/-- Run an action, and turn an error of the operating system into a failure. -/
def attempt {α : Type} (action : IO α) : IO (Except Failure α) := do
  try
    return .ok (← action)
  catch e =>
    return .error ⟨.other, toString e⟩

/-- What a read of one octet yields. A read that finds nothing can be repeated until the deadline.
-/
def read (device : Device) (deadline : Nat) : IO ReadResult := do
  match ← attempt (device.input.read 1) with
  | .error failure => return .failed failure
  | .ok octets =>
    if !octets.isEmpty then return .octets octets.toList
    else if (← IO.monoMsNow) < deadline then return .interrupted
    else return .timedOut

/-- Read until an intake is complete or the deadline is over. -/
partial def fill (device : Device) (deadline : Nat) (intake : Intake) :
    IO (Except Failure (Option (List UInt8))) := do
  if intake.missing = 0 then
    return .ok (some intake.received)
  match intake.take (← read device deadline) with
  | .finished result => return result
  | .more intake => fill device deadline intake

/-- Read until nothing more comes. -/
partial def drain (device : Device) : IO Unit := do
  let octets ← device.input.read 1
  unless octets.isEmpty do
    drain device

/-- The answer to a call. -/
def answer (device : Device) : (call : Call) → IO call.Answer
  | .send frame => attempt do
    device.output.write ⟨frame.toArray⟩
    device.output.flush
  | .receive count timeout => do
    fill device ((← IO.monoMsNow) + timeout) { wanted := count }
  | .discard => attempt (drain device)
  | .pause duration => IO.sleep duration.toUInt32
  | .note _ => return ()

/-- Hold a dialogue with a device. -/
def converse {α : Type} (device : Device) : Dialogue α → IO α
  | .done value => return value
  | .ask call next => do
    let answer ← answer device call
    converse device (next answer)

/-- The next line that is typed, or nothing at the end of the input. -/
def typedLine : IO String := do
  try
    (← IO.getStdin).getLine
  catch _ =>
    return ""

/-- Print a text at once. -/
def printNow (text : String) : IO Unit := do
  IO.print text
  (← IO.getStdout).flush

/-- Let some time pass, unless a line is typed before. -/
partial def waitForLine (typed : Task (Except IO.Error String)) (deadline : Nat) : IO Bool := do
  if ← IO.hasFinished typed then
    return true
  else if deadline ≤ (← IO.monoMsNow) then
    return false
  else
    IO.sleep 1
    waitForLine typed deadline

/-- Run cycles until a line is typed. -/
partial def poll (device : Device) (typed : Task (Except IO.Error String)) (delay : Text.Decimal)
    (master : Master) : IO Master := do
  if ← waitForLine typed ((← IO.monoMsNow) + delay.milliseconds) then
    return master
  let reaction ← converse device (pollOnce master delay)
  printNow reaction.output
  match reaction.next with
  | .poll delay => poll device typed delay reaction.master
  | .prompt | .quit | .abort => return reaction.master

/-- Answer lines until one quits or none are left, and say how the program exits. -/
partial def answerLines (device : Device) (master : Master) : IO UInt32 := do
  printNow (prompt master.state)
  let typed ← typedLine
  if typed.isEmpty then
    return 0
  let reaction ← converse device (react master typed)
  printNow reaction.output
  match reaction.next with
  | .quit => return 0
  | .abort =>
    IO.eprintln "cannot wait for such a time"
    return 101
  | .prompt => answerLines device reaction.master
  | .poll delay =>
    let typed ← IO.asTask typedLine
    answerLines device (← poll device typed delay reaction.master)

/-- Report a failure of the program. -/
def fail (text : String) : IO UInt32 := do
  IO.eprintln s!"Error: {text}"
  return 1

/-- Run the program. -/
def run (arguments : List String) : IO UInt32 := do
  match Arguments.ofList arguments with
  | .error e => fail e.message
  | .ok arguments =>
    match ← attempt (Device.ofPath arguments.path) with
    | .error failure => fail (arguments.openFailure failure.text)
    | .ok device =>
      answerLines device (← converse device arguments.master)

end Sdci.Main

/-- Run the console with the arguments of the command line. -/
def main (arguments : List String) : IO UInt32 :=
  Sdci.Main.run arguments
