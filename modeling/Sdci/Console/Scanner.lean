import Sdci.Master.Basic
import Sdci.Text.Decimal

/-!
# Reading the words of a console line

The words of a line are read from the left, each according to what the command needs. What cannot be
read is a complaint, which the console shows instead of running the command.
-/

namespace Sdci.Console

open Text

/-- A word of a line. -/
abbrev Word := List Char

/-- Why a line cannot be run, or what came of running it. -/
inductive Complaint
  | missingArgument
  | notANumber (word : Word) (cause : NumeralError)
  | badLength (cause : NumeralError)
  | badDelay
  | oddDigits (word : Word)
  | notHexadecimal (word : Word)
  | unknownCommand (word : Word)
  | setting (error : SettingError)
  | master (error : MasterError)
deriving DecidableEq, Repr

namespace Complaint

/-- The sentences of an error and of the one below it. -/
def sentences : Complaint → List String
  | missingArgument => ["Missing argument"]
  | notANumber word cause => ["Not a number: " ++ .ofList word, cause.message]
  | badLength cause => [cause.message]
  | badDelay => ["invalid float literal"]
  | oddDigits word => ["Odd number of hex digits: " ++ .ofList word]
  | notHexadecimal word => ["Not hex: " ++ .ofList word]
  | unknownCommand word => ["Unknown command " ++ .ofList word]
  | setting error => [error.message]
  | master error => error.message :: error.cause?.toList

/-- The line shown to the user. -/
def message (complaint : Complaint) : String :=
  ": ".intercalate complaint.sentences

end Complaint

/-- A number of up to sixteen bits: decimal, or hexadecimal behind `0x`. -/
def readNumber (word : Word) : Except Complaint UInt16 :=
  let result := match word with
    | '0' :: 'x' :: digits => Numeral.read 16 Numeral.maxWord digits
    | digits => Numeral.read 10 Numeral.maxWord digits
  match result with
  | .ok value => .ok value.toUInt16
  | .error cause => .error (.notANumber word cause)

/-- A length in decimal. -/
def readLength (word : Word) : Except Complaint Nat :=
  match Numeral.read 10 Numeral.maxCount word with
  | .ok value => .ok value
  | .error cause => .error (.badLength cause)

/-- A time in seconds. -/
def readDelay (word : Word) : Except Complaint Decimal :=
  match Decimal.read? word with
  | some value => .ok value
  | none => .error .badDelay

/-- The number of octets of a word in UTF-8. -/
def octetCount (word : Word) : Nat :=
  word.foldl (fun count c => count + c.utf8Size) 0

/-- The octets that pairs of hexadecimal digits stand for, if all characters pair up. A plus sign
may take the place of the first digit of a pair. -/
def pairs? : List Char → Option (List UInt8)
  | [] => some []
  | upper :: lower :: rest =>
    match Numeral.read 16 Numeral.maxOctet [upper, lower] with
    | .ok value => (pairs? rest).map (value.toUInt8 :: ·)
    | .error _ => none
  | [_] => none

/-- The octets that a word spells in hexadecimal. -/
def readOctets (word : Word) : Except Complaint (List UInt8) :=
  if octetCount word % 2 ≠ 0 then
    .error (.oddDigits word)
  else
    match pairs? word with
    | some octets => .ok octets
    | none => .error (.notHexadecimal word)

/-- The octets that words spell in hexadecimal, one word behind the other. -/
def readAllOctets : List Word → Except Complaint (List UInt8)
  | [] => .ok []
  | word :: rest => do
    let octets ← readOctets word
    return octets ++ (← readAllOctets rest)

/-- A reader of the words of a line. -/
abbrev Scanner (α : Type) := StateT (List Word) (Except Complaint) α

namespace Scanner

variable {α : Type}

/-- The next word. -/
def word : Scanner Word := do
  match ← get with
  | [] => throw .missingArgument
  | word :: rest =>
    set rest
    return word

/-- The next word, read as a value. -/
def value (read : Word → Except Complaint α) : Scanner α := do
  read (← word)

/-- The next word, read as a value, or a default if there is no word left. -/
def valueD (read : Word → Except Complaint α) (default : α) : Scanner α := do
  if (← get).isEmpty then return default else value read

/-- All words that are left, read as octets. -/
def octets : Scanner (List UInt8) := do
  readAllOctets (← get)

end Scanner

end Sdci.Console
