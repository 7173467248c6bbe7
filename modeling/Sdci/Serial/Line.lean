import Sdci.FaultPlan
import Sdci.Serial.Intake
import Sdci.Transport

/-!
# Serial lines as transports

A serial line sends a frame by writing and flushing, discards by clearing its input, and receives by
reading until a reply is complete. The line here is scripted: its reads yield what a list says, at
once, and chosen calls fail. Time passes only in reads that yield nothing, so a time limit matters
only when it is zero, or when the clock has no such time to come. Then, and when there is no buffer
for the reply, a wait ends the program before it reads anything (`Line.receive?`, `Dialogue.run?`).
-/

namespace Sdci

namespace Serial

/-- The parity bit of a character. -/
inductive Parity
  | none
  | odd
  | even
deriving DecidableEq, Repr

/-- How a line is opened. -/
structure Opening where
  path : String
  bitsPerSecond : Nat
  dataBits : Nat := 8
  parity : Parity := .even
  stopBits : Nat := 1
  /-- Time limit for reads, in milliseconds. -/
  timeout : Nat := 100
deriving DecidableEq, Repr

/-- A call that reached a line. -/
inductive Record
  | write (octets : List UInt8)
  | read (size : Nat)
  | clear
deriving DecidableEq, Repr

/-- The most octets that a buffer can have. -/
def maxBuffer : Nat := 0x7FFFFFFFFFFFFFFF

/-- A scripted serial line. -/
structure Line where
  /-- What the reads yield, the next one first; they time out when there are none left. -/
  reads : List ReadResult
  writes : FaultPlan := {}
  flushes : FaultPlan := {}
  clears : FaultPlan := {}
  timeouts : FaultPlan := {}
  /-- How far ahead the clock can tell a time, in milliseconds. It counts seconds from its start, up
  to the largest signed number of sixty-four bits. -/
  clockLeft : Nat := 0x8000000000000000 * 1000 - 1
  /-- The calls so far, the latest first. -/
  record : List Record := []
deriving DecidableEq, Repr

namespace Line

variable (line : Line)

/-- Write octets. -/
def write (octets : List UInt8) : Except Failure Unit × Line :=
  (if line.writes.nextFails then .error ⟨.brokenPipe, "write failed"⟩ else .ok (),
    { line with writes := line.writes.advance, record := .write octets :: line.record })

/-- Push out what was written. -/
def flush : Except Failure Unit × Line :=
  (if line.flushes.nextFails then .error ⟨.brokenPipe, "flush failed"⟩ else .ok (),
    { line with flushes := line.flushes.advance })

/-- Drop what has come in so far. -/
def clear : Except Failure Unit × Line :=
  (if line.clears.nextFails then .error ⟨.notFound, "clear failed"⟩ else .ok (),
    { line with clears := line.clears.advance, record := .clear :: line.record })

/-- Set the time limit of the next read. -/
def setTimeout : Except Failure Unit × Line :=
  (if line.timeouts.nextFails then .error ⟨.notFound, "set_timeout failed"⟩ else .ok (),
    { line with timeouts := line.timeouts.advance })

/-- What a read of up to `size` octets yields from a script, and the script behind it. What does not
fit stays for the next read. -/
def readScript (size : Nat) : List ReadResult → ReadResult × List ReadResult
  | [] => (.timedOut, [])
  | .octets octets :: rest =>
    if octets.length ≤ size then (.octets octets, rest)
    else (.octets (octets.take size), .octets (octets.drop size) :: rest)
  | result :: rest => (result, rest)

/-- Read up to `size` octets. -/
def read (size : Nat) : ReadResult × Line :=
  let (result, reads) := readScript size line.reads
  (result, { line with reads, record := .read size :: line.record })

/-- Send a frame. Writing no octets is no call. -/
def send (frame : List UInt8) : Except Failure Unit × Line :=
  if frame.isEmpty then
    line.flush
  else
    match line.write frame with
    | (.ok (), line) => line.flush
    | (.error failure, line) => (.error failure, line)

/-- An interrupted read takes its item off the script. -/
theorem length_lt_of_readScript {size : Nat} {reads others : List ReadResult}
    (h : readScript size reads = (.interrupted, others)) : others.length < reads.length := by
  unfold readScript at h
  split at h
  · simp at h
  · split at h <;> simp at h
  · obtain ⟨-, rfl⟩ := by simpa using h
    simp

/-- An intake that goes on after a read has fewer octets missing or a shorter script ahead. -/
theorem lt_of_read {intake next : Intake} {result : ReadResult} {line waiting rest : Line}
    (hmissing : intake.missing ≠ 0) (htimeout : line.setTimeout = (.ok (), waiting))
    (hread : waiting.read intake.missing = (result, rest))
    (htake : intake.take result = .more next) :
    Prod.Lex (· < ·) (· < ·) (next.missing, rest.reads.length)
      (intake.missing, line.reads.length) := by
  have hwaiting : waiting.reads = line.reads := (congrArg (·.2.reads) htimeout).symm
  obtain hlt | ⟨rfl, rfl⟩ := Intake.missing_lt_of_take hmissing htake
  · exact .left _ _ hlt
  · have hreads := congrArg (·.2.reads) hread
    have hresult := congrArg (·.1) hread
    simp only [read] at hreads hresult
    refine .right _ ?_
    rw [← hreads, ← hwaiting]
    exact length_lt_of_readScript (Prod.ext hresult rfl)

/-- Read until an intake is complete or a read yields nothing. -/
def fill (timeout : Nat) (intake : Intake) (line : Line) :
    Except Failure (Option (List UInt8)) × Line :=
  if _ : intake.missing = 0 then
    (.ok (some intake.received), line)
  else if timeout = 0 then
    (.ok none, line)
  else
    match _ : line.setTimeout with
    | (.error failure, line) => (.error failure, line)
    | (.ok (), waiting) =>
      match _ : waiting.read intake.missing with
      | (result, rest) =>
        match _ : intake.take result with
        | .finished result => (result, rest)
        | .more next => fill timeout next rest
termination_by (intake.missing, line.reads.length)
decreasing_by exact lt_of_read ‹_› ‹_› ‹_› ‹_›

@[simp]
theorem clockLeft_fill (timeout : Nat) (intake : Intake) (line : Line) :
    (line.fill timeout intake).2.clockLeft = line.clockLeft := by
  fun_induction line.fill timeout intake with
  | case1 | case2 => rfl
  | case3 intake line _ _ failure other hset => exact congrArg (·.2.clockLeft) hset.symm
  | case4 intake line _ _ waiting hset result rest hread =>
    exact (congrArg (·.2.clockLeft) hread).symm.trans (congrArg (·.2.clockLeft) hset).symm
  | case5 intake line _ _ waiting hset result rest hread next htake ih =>
    refine ih.trans ?_
    exact (congrArg (·.2.clockLeft) hread).symm.trans (congrArg (·.2.clockLeft) hset).symm

/-- The wait for `count` octets can begin: the clock tells its end, and there is a buffer. -/
def CanWait (count timeout : Nat) : Prop :=
  timeout ≤ line.clockLeft ∧ count ≤ maxBuffer

instance (count timeout : Nat) : Decidable (line.CanWait count timeout) :=
  inferInstanceAs (Decidable (_ ∧ _))

/-- Wait for `count` octets; `none` if the wait ends the program. -/
def receive? (count timeout : Nat) : Option (Except Failure (Option (List UInt8)) × Line) :=
  if line.CanWait count timeout then some (line.fill timeout { wanted := count }) else none

/-- A line as a transport, for those whose waits can begin. -/
instance : Transport Line where
  send frame line := line.send frame
  receive count timeout line := line.fill timeout { wanted := count }
  discard line := line.clear

@[simp]
theorem clockLeft_answer (call : Call) :
    (Transport.answer line call).2.clockLeft = line.clockLeft := by
  cases call with
  | send frame =>
    show (line.send frame).2.clockLeft = line.clockLeft
    unfold send write flush
    split
    · rfl
    · split
      · next hwrite => exact (congrArg (·.2.clockLeft) hwrite).symm
      · next hwrite => exact (congrArg (·.2.clockLeft) hwrite).symm
  | receive count timeout => exact clockLeft_fill timeout { wanted := count } line
  | discard | pause duration | note notice => rfl

/-- The answer to a call; `none` if it is a wait that ends the program. -/
def answer? : (call : Call) → Option (call.Answer × Line)
  | .receive count timeout => line.receive? count timeout
  | call => some (Transport.answer line call)

end Line

end Serial

namespace Dialogue

variable {α : Type}

/-- Hold a dialogue over a serial line: the calls that were answered, and the result with the line
behind them unless a wait ended the program. -/
def run? : Dialogue α → Serial.Line → List Event × Option (α × Serial.Line)
  | done value, line => ([], some (value, line))
  | ask call next, line =>
    match line.answer? call with
    | none => ([], none)
    | some (answer, line) =>
      let (events, outcome) := (next answer).run? line
      (⟨call, answer⟩ :: events, outcome)

end Dialogue

end Sdci
