import Sdci.Console.Scanner
import Sdci.Master.Operation
import Sdci.Text.Blank
import Sdci.Text.Quoted
import Sdci.Text.Utf8

/-!
# Requests at the console

A line at the console is a command and its arguments. All arguments are read before anything is
done, so a line that cannot be read changes nothing. Most requests are an operation of the master,
and what came of it is shown on a line.
-/

namespace Sdci.Console

open Text

/-- What a line asks for. -/
inductive Request
  | operation (operation : Operation)
  /-- Run cycles again and again, with a delay in between, until a line is typed. -/
  | poll (delay : Decimal)
  | quit
deriving DecidableEq, Repr

/-- What the first word of a line names. -/
inductive Verb
  | startUp
  | enterOperate
  | cycle
  | poll
  | readParameter
  | writeParameter
  | requestEvent
  | resize
  | switchPhyMode
  | injectFaults
  | quit
deriving DecidableEq, Repr

namespace Verb

/-- The verb that a word names. -/
def ofWord? (word : Word) : Option Verb :=
  match String.ofList word with
  | "startup" => some startUp
  | "operate" => some enterOperate
  | "cycle" | "c" => some cycle
  | "poll" => some poll
  | "read" | "r" => some readParameter
  | "write" | "w" => some writeParameter
  | "event" => some requestEvent
  | "pd" => some resize
  | "phy" => some switchPhyMode
  | "fault" => some injectFaults
  | "quit" | "q" => some quit
  | _ => none

/-- The mode of the line that a word names. -/
def readPhyMode (word : Word) : Except Complaint PhyMode :=
  match PhyMode.ofText (.ofList word) with
  | .ok mode => .ok mode
  | .error e => .error (.setting e)

/-- Read the arguments of a verb. Of a subindex only the lower eight bits count, and words behind
the last argument are not looked at. -/
def scan : Verb → Scanner Request
  | startUp => return .operation .startUp
  | enterOperate => return .operation .enterOperate
  | cycle => return .operation (.cycle (← Scanner.octets) 0)
  | poll => return .poll (← Scanner.value readDelay)
  | readParameter => do
    let index ← Scanner.value readNumber
    let subindex ← Scanner.valueD readNumber 0
    return .operation (.readParameter index subindex.toUInt8)
  | writeParameter => do
    let index ← Scanner.value readNumber
    let subindex ← Scanner.value readNumber
    return .operation (.writeParameter index subindex.toUInt8 (← Scanner.octets))
  | requestEvent => return .operation .requestEvent
  | resize => do
    let inputLength ← Scanner.value readLength
    let outputLength ← Scanner.value readLength
    return .operation (.resize inputLength outputLength)
  | switchPhyMode => return .operation (.switchPhyMode (← Scanner.value readPhyMode))
  | injectFaults => return .operation (.injectFaults (← Scanner.valueD readNumber 1).toNat)
  | quit => return .quit

end Verb

namespace Request

/-- Read a verb and its arguments. -/
def scan : Scanner Request := do
  let word ← Scanner.word
  match Verb.ofWord? word with
  | some verb => verb.scan
  | none => throw (.unknownCommand word)

/-- The request of a line; a blank line has none. -/
def ofLine (line : String) : Except Complaint (Option Request) :=
  match words line.toList with
  | [] => .ok none
  | words => (scan words).map fun (request, _) => some request

end Request

/-- A response on one line. -/
def showResponse (response : Response) : String :=
  if response.isValid then
    s!"status={hexOctet response.status} pd={hexList response.payload} "
      ++ s!"od={hexOctet response.onRequestData.first}"
  else
    "No response"

/-- An event on one line. -/
def showEvent : Option UInt16 → String
  | none => "None"
  | some code => s!"Some({hexWord code})"

/-- The data of a parameter on one line, as octets and as text. -/
def showData (data : List UInt8) : String :=
  hexList data ++ " " ++ quote (Utf8.decode data)

/-- The line that shows what came of an operation, if it shows anything. -/
def report? : Operation → Outcome → Option String
  | .writeParameter .., .nothing => some "OK"
  | _, .nothing => none
  | _, .response response => some (showResponse response)
  | _, .count count => some s!"{count} valid responses"
  | _, .event code => some (showEvent code)
  | _, .data octets => some (showData octets)

end Sdci.Console
