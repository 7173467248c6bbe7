import Mathlib.Data.Stream.Init
import Sdci.Bounded
import Sdci.Serial.Line

/-!
# What a line yields, an octet at a time

The operating system hands out what comes in on a line in pieces of its own choice, and may disturb
a read. `Line.input` forgets both: it is the sequence of the octets, time-outs, ends and failures.
Waiting for a reply takes its octets, or all up to the first event that is none
(`Line.fill_eq_takeOctets`), and never more, so two lines with the same input cannot be told apart
(`Line.chunking_invisible`). A wait that ends the program does so on both of them.
-/

namespace Sdci

/-- None of the calls to come fails. -/
def FaultPlan.Harmless (plan : FaultPlan) : Prop :=
  ∀ call ∈ plan.failing, call < plan.made

namespace FaultPlan.Harmless

variable {plan : FaultPlan}

theorem nextFails (h : plan.Harmless) : plan.nextFails = false := by
  rw [FaultPlan.nextFails, decide_eq_false_iff_not]
  intro hmem
  exact Nat.lt_irrefl _ (h _ hmem)

theorem advance (h : plan.Harmless) : plan.advance.Harmless :=
  fun call hcall => Nat.lt_succ_of_lt (h call hcall)

end FaultPlan.Harmless

namespace Serial

/-! ### Events -/

/-- What a line yields, an octet at a time. -/
inductive InputEvent
  | octet (octet : UInt8)
  | timedOut
  | endOfInput
  | failed (failure : Failure)
deriving DecidableEq, Repr

/-- What a wait for octets ends in with an event that is none. -/
def InputEvent.ending? : InputEvent → Option (Except Failure (Option (List UInt8)))
  | octet _ => none
  | timedOut | endOfInput => some (.ok none)
  | failed failure => some (.error failure)

/-- The events of a read. One that is interrupted has none. -/
def ReadResult.events : ReadResult → List InputEvent
  | octets [] => [.endOfInput]
  | octets (octet :: rest) => .octet octet :: rest.map .octet
  | timedOut => [.timedOut]
  | interrupted => []
  | failed failure => [.failed failure]

/-- The octets of a read. -/
def ReadResult.received : ReadResult → List UInt8
  | octets content => content
  | timedOut | interrupted | failed _ => []

/-- The events of a script of reads, which time out when there are none left. -/
def inputOf (reads : List ReadResult) : Stream' InputEvent :=
  reads.flatMap ReadResult.events ++ₛ Stream'.const .timedOut

/-- The events that a line has ahead. -/
def Line.input (line : Line) : Stream' InputEvent :=
  inputOf line.reads

theorem ReadResult.events_octets {octets : List UInt8} (h : octets ≠ []) :
    (ReadResult.octets octets).events = octets.map .octet := by
  cases octets with
  | nil => exact absurd rfl h
  | cons octet rest => rfl

theorem inputOf_cons (result : ReadResult) (reads : List ReadResult) :
    inputOf (result :: reads) = result.events ++ₛ inputOf reads := by
  rw [inputOf, List.flatMap_cons, Stream'.append_append_stream]
  rfl

/-- A read takes its events off the input, and yields no more octets than it asks for. -/
theorem inputOf_readScript {size : Nat} (hsize : 0 < size) {reads rest : List ReadResult}
    {result : ReadResult} (h : Line.readScript size reads = (result, rest)) :
    inputOf reads = result.events ++ₛ inputOf rest ∧
      result.events.length ≤ size := by
  unfold Line.readScript at h
  split at h
  · obtain ⟨rfl, rfl⟩ := Prod.mk.inj h
    exact ⟨Stream'.const_eq _, hsize⟩
  · next octets others =>
    split at h
    · next hlength =>
      obtain ⟨rfl, rfl⟩ := Prod.mk.inj h
      refine ⟨inputOf_cons _ _, ?_⟩
      obtain rfl | hne := eq_or_ne octets []
      · exact hsize
      · rwa [ReadResult.events_octets hne, List.length_map]
    · next hlength =>
      obtain ⟨rfl, rfl⟩ := Prod.mk.inj h
      have htake : octets.take size ≠ [] := by
        rw [← List.length_pos_iff, List.length_take]
        omega
      have hdrop : octets.drop size ≠ [] := by
        rw [← List.length_pos_iff, List.length_drop]
        omega
      have hne : octets ≠ [] := by
        rintro rfl
        exact hdrop List.drop_nil
      constructor
      · rw [inputOf_cons, inputOf_cons, ReadResult.events_octets htake,
          ReadResult.events_octets hdrop, ReadResult.events_octets hne,
          ← Stream'.append_append_stream, ← List.map_append, List.take_append_drop]
      · rw [ReadResult.events_octets htake, List.length_map]
        exact List.length_take_le _ _
  · next result rest' hnot =>
    obtain ⟨rfl, rfl⟩ := Prod.mk.inj h
    refine ⟨inputOf_cons _ _, ?_⟩
    cases result with
    | octets octets => exact absurd rfl (hnot octets)
    | timedOut | failed failure => exact hsize
    | interrupted => exact Nat.zero_le _

/-! ### Taking octets -/

/-- Take octets off an input and add them to those received before. The first event that is none
ends the attempt, and is taken too. -/
def takeOctets (received : List UInt8) : Nat → Stream' InputEvent →
    Except Failure (Option (List UInt8)) × Stream' InputEvent
  | 0, input => (.ok (some received), input)
  | count + 1, input =>
    match input.head with
    | .octet octet => takeOctets (received ++ [octet]) count input.tail
    | .timedOut | .endOfInput => (.ok none, input.tail)
    | .failed failure => (.error failure, input.tail)

variable {received octets : List UInt8} {count : Nat} {input : Stream' InputEvent}

theorem takeOctets_append (h : octets.length ≤ count) :
    takeOctets received count (octets.map .octet ++ₛ input) =
      takeOctets (received ++ octets) (count - octets.length) input := by
  induction octets generalizing received count with
  | nil => simp [Stream'.nil_append_stream]
  | cons octet rest ih =>
    obtain _ | count := count
    · simp at h
    rw [List.map_cons, Stream'.cons_append_stream, takeOctets, Stream'.head_cons, Stream'.tail_cons]
    simp only [List.length_cons, Nat.add_le_add_iff_right] at h
    simp only [ih h, List.append_assoc, List.singleton_append, List.length_cons,
      Nat.add_sub_add_right]

theorem takeOctets_of_ending {event : InputEvent} {result : Except Failure (Option (List UInt8))}
    (h : octets.length < count) (hevent : event.ending? = some result) :
    takeOctets received count (octets.map .octet ++ₛ Stream'.cons event input) =
      (result, input) := by
  rw [takeOctets_append (Nat.le_of_lt h)]
  obtain ⟨missing, hmissing⟩ := Nat.exists_eq_add_of_lt h
  rw [show count - octets.length = missing + 1 by omega, takeOctets, Stream'.head_cons,
    Stream'.tail_cons]
  cases event <;> cases hevent <;> rfl

/-- If the input begins with as many octets as are wanted, they are taken and nothing else. -/
theorem takeOctets_of_take (h : input.take count = octets.map .octet) :
    takeOctets received count input = (.ok (some (received ++ octets)), input.drop count) := by
  have hlength : octets.length = count := by
    rw [← List.length_map (f := InputEvent.octet), ← h, Stream'.length_take]
  have hinput : input = octets.map .octet ++ₛ input.drop count := by
    rw [← h, Stream'.append_take_drop]
  conv_lhs => rw [hinput]
  rw [takeOctets_append (Nat.le_of_eq hlength), hlength, Nat.sub_self]
  rfl

/-- Otherwise the first event that is no octet is taken too, and says how the attempt ends. -/
theorem takeOctets_of_get {place : Nat} (hplace : place < count)
    (htake : input.take place = octets.map .octet)
    {result : Except Failure (Option (List UInt8))}
    (hending : (input.get place).ending? = some result) :
    takeOctets received count input = (result, input.drop (place + 1)) := by
  have hlength : octets.length = place := by
    rw [← List.length_map (f := InputEvent.octet), ← htake, Stream'.length_take]
  have hinput : input =
      octets.map .octet ++ₛ Stream'.cons (input.get place) (input.drop (place + 1)) := by
    rw [← htake, ← Stream'.tail_drop', ← Stream'.head_drop, Stream'.eta, Stream'.append_take_drop]
  conv_lhs => rw [hinput]
  exact takeOctets_of_ending (hlength.symm ▸ hplace) hending

/-- An input begins with as many octets as are wanted, or with fewer and an event that is none. -/
theorem exists_octets (count : Nat) (input : Stream' InputEvent) :
    (∃ octets : List UInt8, input.take count = octets.map .octet) ∨
      ∃ place < count, (∃ octets : List UInt8, input.take place = octets.map .octet) ∧
        ∃ result, (input.get place).ending? = some result := by
  induction count with
  | zero => exact .inl ⟨[], rfl⟩
  | succ count ih =>
    obtain ⟨octets, htake⟩ | ⟨place, hplace, hrest⟩ := ih
    · cases hevent : input.get count with
      | octet octet =>
        refine .inl ⟨octets ++ [octet], ?_⟩
        rw [Stream'.take_succ', htake, hevent, List.map_append]
        rfl
      | timedOut | endOfInput | failed failure =>
        exact .inr ⟨count, Nat.lt_succ_self _, ⟨octets, htake⟩, _, congrArg _ hevent⟩
    · exact .inr ⟨place, Nat.lt_succ_of_lt hplace, hrest⟩

/-- An input that begins with octets has no other event among them. -/
theorem ending?_eq_none {place : Nat} (hplace : place < count)
    (htake : input.take count = octets.map .octet) : (input.get place).ending? = none := by
  have hget : (input.take count)[place]? = some (input.get place) := Stream'.getElem?_take hplace
  rw [htake, List.getElem?_map, Option.map_eq_some_iff] at hget
  obtain ⟨octet, -, heq⟩ := hget
  rw [← heq]
  rfl

/-! ### A line that fills an intake -/

namespace Intake

variable {intake next : Intake} {result : ReadResult}

/-- An intake ends with a read that yields something but octets. -/
theorem events_of_finished {ended : Except Failure (Option (List UInt8))}
    (h : intake.take result = .finished ended) :
    ∃ event, result.events = [event] ∧ event.ending? = some ended := by
  unfold take at h
  split at h
  · cases h
    exact ⟨_, rfl, rfl⟩
  · cases h
    exact ⟨_, rfl, rfl⟩
  · cases h
  · cases h
  · cases h
    exact ⟨_, rfl, rfl⟩

/-- An intake goes on with octets, or with none if the read was interrupted. -/
theorem events_of_more (h : intake.take result = .more next) :
    result.events = result.received.map .octet ∧
      next = { intake with received := intake.received ++ result.received } := by
  unfold take at h
  split at h
  · cases h
  · cases h
  · next octets hne =>
    cases h
    exact ⟨ReadResult.events_octets hne, rfl⟩
  · cases h
    refine ⟨rfl, ?_⟩
    rw [ReadResult.received, List.append_nil]
  · cases h

theorem missing_append (octets : List UInt8) :
    { intake with received := intake.received ++ octets }.missing =
      intake.missing - octets.length := by
  simp only [missing, List.length_append]
  omega

end Intake

namespace Line

/-- The line behind a read. -/
def afterRead (line : Line) (size : Nat) (rest : List ReadResult) : Line :=
  { line with
    reads := rest
    timeouts := line.timeouts.advance
    record := .read size :: line.record }

theorem read_of_setTimeout {line waiting rest : Line} {size : Nat} {result : ReadResult}
    (hset : line.setTimeout = (.ok (), waiting)) (hread : waiting.read size = (result, rest)) :
    readScript size line.reads = (result, rest.reads) ∧ rest = line.afterRead size rest.reads := by
  obtain rfl := congrArg Prod.snd hset
  obtain ⟨rfl, rfl⟩ := Prod.mk.inj hread
  exact ⟨rfl, rfl⟩

/-- A line whose time limit can always be set fills an intake read by read: what holds of a complete
intake, of one that a read ends, and of one before a read if it holds behind it, holds of all. -/
theorem fill_induction {timeout : Nat} (htimeout : timeout ≠ 0)
    {motive : Intake → Line → Except Failure (Option (List UInt8)) × Line → Prop}
    (complete : ∀ intake line, intake.missing = 0 →
      motive intake line (.ok (some intake.received), line))
    (finished : ∀ intake line result rest ended, 0 < intake.missing →
      readScript intake.missing line.reads = (result, rest) →
      intake.take result = .finished ended →
      motive intake line (ended, line.afterRead intake.missing rest))
    (more : ∀ intake line result rest next filled, 0 < intake.missing →
      readScript intake.missing line.reads = (result, rest) →
      intake.take result = .more next →
      motive next (line.afterRead intake.missing rest) filled → motive intake line filled)
    (intake : Intake) {line : Line} (hplan : line.timeouts.Harmless) :
    motive intake line (line.fill timeout intake) := by
  fun_induction line.fill timeout intake with
  | case1 intake line hmissing => exact complete intake line hmissing
  | case2 => contradiction
  | case3 intake line hmissing _ failure other hset =>
    rw [setTimeout, hplan.nextFails] at hset
    cases hset
  | case4 intake line hmissing _ waiting hset result rest hread ended htake =>
    obtain ⟨hscript, hrest⟩ := read_of_setTimeout hset hread
    rw [hrest]
    exact finished intake line result _ ended (Nat.pos_of_ne_zero hmissing) hscript htake
  | case5 intake line hmissing _ waiting hset result rest hread next htake ih =>
    obtain ⟨hscript, hrest⟩ := read_of_setTimeout hset hread
    have hfilled := ih (by rw [hrest]; exact hplan.advance)
    generalize rest.fill timeout next = filled at hfilled ⊢
    rw [hrest] at hfilled
    exact more intake line result _ next filled (Nat.pos_of_ne_zero hmissing) hscript htake hfilled

/-- A fill takes its octets off the input, whatever pieces they come in. -/
theorem fill_eq_takeOctets {timeout : Nat} (htimeout : timeout ≠ 0) (intake : Intake) {line : Line}
    (hplan : line.timeouts.Harmless) :
    ((line.fill timeout intake).1, (line.fill timeout intake).2.input) =
      takeOctets intake.received intake.missing line.input := by
  refine fill_induction htimeout (motive := fun intake line filled =>
      (filled.1, filled.2.input) = takeOctets intake.received intake.missing line.input)
    (fun intake line hmissing => ?_)
    (fun intake line result rest ended hmissing hread htake => ?_)
    (fun intake line result rest next filled hmissing hread htake ih => ?_) intake hplan
  · rw [hmissing]
    rfl
  · obtain ⟨event, hevents, hended⟩ := Intake.events_of_finished htake
    have hinput : line.input = Stream'.cons event (inputOf rest) := by
      rw [input, (inputOf_readScript hmissing hread).1, hevents]
      rfl
    rw [hinput]
    exact (takeOctets_of_ending (show [].length < _ from hmissing) hended).symm
  · obtain ⟨hevents, rfl⟩ := Intake.events_of_more htake
    obtain ⟨hinput, hlength⟩ := inputOf_readScript hmissing hread
    rw [hevents, List.length_map] at hlength
    rw [ih, input, input, hinput, hevents, takeOctets_append hlength, Intake.missing_append]
    rfl

/-- What reads of the given sizes yield, one after the other, and the script behind them. -/
def readAll : List Nat → List ReadResult → List ReadResult × List ReadResult
  | [], reads => ([], reads)
  | size :: sizes, reads =>
    let (result, reads) := readScript size reads
    let (results, reads) := readAll sizes reads
    (result :: results, reads)

/-- Each of the reads asks for an octet at least, and for what is still missing of a number. -/
def AskForMissing (wanted : Nat) (reads : List ReadResult) (sizes : List Nat) : Prop :=
  ∀ before size behind, sizes = before ++ size :: behind → 0 < size ∧
    ((readAll before reads).1.flatMap ReadResult.received).length + size = wanted

theorem askForMissing_nil (wanted : Nat) (reads : List ReadResult) :
    AskForMissing wanted reads [] := by
  intro before size behind h
  simp at h

/-- A read asks for all that is missing, and those behind it for what it leaves. -/
theorem AskForMissing.cons {wanted : Nat} {reads rest : List ReadResult} {result : ReadResult}
    {sizes : List Nat} (hwanted : 0 < wanted) (hread : readScript wanted reads = (result, rest))
    (hlength : result.received.length ≤ wanted)
    (h : AskForMissing (wanted - result.received.length) rest sizes) :
    AskForMissing wanted reads (wanted :: sizes) := by
  intro before size behind hsizes
  obtain _ | ⟨_, before⟩ := before
  · obtain ⟨rfl, -⟩ := List.cons.inj hsizes
    exact ⟨hwanted, Nat.zero_add _⟩
  · obtain ⟨rfl, hbefore⟩ := List.cons.inj hsizes
    obtain ⟨hpos, hsum⟩ := h before size behind hbefore
    refine ⟨hpos, ?_⟩
    rw [readAll, hread, List.flatMap_cons, List.length_append, Nat.add_assoc, hsum]
    exact Nat.add_sub_cancel' hlength

theorem length_received_le {size : Nat} (hsize : 0 < size) {reads rest : List ReadResult}
    {result : ReadResult} (hread : readScript size reads = (result, rest)) :
    result.received.length ≤ size := by
  refine Nat.le_trans ?_ (inputOf_readScript hsize hread).2
  cases result with
  | timedOut | interrupted | failed failure => exact Nat.zero_le _
  | octets octets =>
    cases octets with
    | nil => exact Nat.zero_le _
    | cons octet rest => simp [ReadResult.received, ReadResult.events]

/-- A fill makes no reads but such. -/
theorem exists_readAll_fill {timeout : Nat} (htimeout : timeout ≠ 0) (intake : Intake) {line : Line}
    (hplan : line.timeouts.Harmless) :
    ∃ sizes : List Nat,
      (line.fill timeout intake).2.record = (sizes.map .read).reverse ++ line.record ∧
      (line.fill timeout intake).2.reads = (readAll sizes line.reads).2 ∧
      AskForMissing intake.missing line.reads sizes := by
  refine fill_induction htimeout (motive := fun intake line filled => ∃ sizes : List Nat,
      filled.2.record = (sizes.map .read).reverse ++ line.record ∧
      filled.2.reads = (readAll sizes line.reads).2 ∧
      AskForMissing intake.missing line.reads sizes)
    (fun intake line _ => ⟨[], rfl, rfl, askForMissing_nil _ _⟩)
    (fun intake line result rest ended hmissing hread htake => ?_)
    (fun intake line result rest next filled hmissing hread htake ih => ?_) intake hplan
  · have hlength := length_received_le hmissing hread
    refine ⟨[intake.missing], rfl, ?_, .cons hmissing hread hlength (askForMissing_nil _ _)⟩
    rw [readAll, hread]
    rfl
  · obtain ⟨-, rfl⟩ := Intake.events_of_more htake
    obtain ⟨sizes, hrecord, hreads, hsizes⟩ := ih
    rw [Intake.missing_append] at hsizes
    have hlength := length_received_le hmissing hread
    refine ⟨intake.missing :: sizes, ?_, ?_, hsizes.cons hmissing hread hlength⟩
    · rw [hrecord, afterRead, List.map_cons, List.reverse_cons, List.append_assoc]
      rfl
    · rw [hreads, readAll, hread]
      rfl

/-! ### Lines that cannot be told apart -/

/-- The lines have the same input and the same time ahead and fail in the same calls, and their time
limits can always be set. -/
structure Alike (line other : Line) : Prop where
  input : line.input = other.input
  clockLeft : line.clockLeft = other.clockLeft
  writes : line.writes = other.writes
  flushes : line.flushes = other.flushes
  clears : line.clears = other.clears
  timeouts : line.timeouts.Harmless
  timeouts' : other.timeouts.Harmless

/-- A fill makes no calls but to set time limits and to read. -/
theorem fill_keeps {timeout : Nat} (htimeout : timeout ≠ 0) (intake : Intake) {line : Line}
    (hplan : line.timeouts.Harmless) :
    let after := (line.fill timeout intake).2
    after.writes = line.writes ∧ after.flushes = line.flushes ∧ after.clears = line.clears ∧
      after.timeouts.Harmless := by
  refine fill_induction htimeout (motive := fun intake line filled => line.timeouts.Harmless →
      filled.2.writes = line.writes ∧ filled.2.flushes = line.flushes ∧
        filled.2.clears = line.clears ∧ filled.2.timeouts.Harmless)
    (fun intake line _ hplan => ⟨rfl, rfl, rfl, hplan⟩)
    (fun intake line _ _ _ _ _ _ hplan => ⟨rfl, rfl, rfl, hplan.advance⟩)
    (fun intake line _ _ _ _ _ _ _ ih hplan => ih hplan.advance) intake hplan hplan

/-- Nothing is read for no octets or in no time. -/
theorem fill_of_zero {count timeout : Nat} (h : count = 0 ∨ timeout = 0) (line : Line) :
    line.fill timeout { wanted := count } =
      (.ok (if count = 0 then some [] else none), line) := by
  rw [fill]
  by_cases hcount : count = 0
  · simp [Intake.missing, hcount]
  · simp [Intake.missing, hcount, h.resolve_left hcount]

namespace Alike

variable {line other : Line} (h : Alike line other)

include h

theorem write (octets : List UInt8) :
    (line.write octets).1 = (other.write octets).1 ∧
      Alike (line.write octets).2 (other.write octets).2 := by
  refine ⟨?_, h.input, h.clockLeft, congrArg FaultPlan.advance h.writes, h.flushes, h.clears,
    h.timeouts, h.timeouts'⟩
  rw [Line.write, Line.write, h.writes]

theorem flush : line.flush.1 = other.flush.1 ∧ Alike line.flush.2 other.flush.2 := by
  refine ⟨?_, h.input, h.clockLeft, h.writes, congrArg FaultPlan.advance h.flushes, h.clears,
    h.timeouts, h.timeouts'⟩
  rw [Line.flush, Line.flush, h.flushes]

theorem clear : line.clear.1 = other.clear.1 ∧ Alike line.clear.2 other.clear.2 := by
  refine ⟨?_, h.input, h.clockLeft, h.writes, h.flushes, congrArg FaultPlan.advance h.clears,
    h.timeouts, h.timeouts'⟩
  rw [Line.clear, Line.clear, h.clears]

theorem send (frame : List UInt8) :
    (line.send frame).1 = (other.send frame).1 ∧
      Alike (line.send frame).2 (other.send frame).2 := by
  rw [Line.send, Line.send]
  split
  · exact h.flush
  · obtain ⟨hresult, hafter⟩ := h.write frame
    generalize line.write frame = written at hresult hafter ⊢
    generalize other.write frame = written' at hresult hafter ⊢
    obtain ⟨result, line⟩ := written
    obtain ⟨result', other⟩ := written'
    obtain rfl : result = result' := hresult
    cases result with
    | ok => exact hafter.flush
    | error failure => exact ⟨rfl, hafter⟩

/-- What a wait ends in follows from the input. -/
theorem fill (count timeout : Nat) :
    (line.fill timeout { wanted := count }).1 = (other.fill timeout { wanted := count }).1 ∧
      Alike (line.fill timeout { wanted := count }).2
        (other.fill timeout { wanted := count }).2 := by
  by_cases hzero : count = 0 ∨ timeout = 0
  · rw [fill_of_zero hzero, fill_of_zero hzero]
    exact ⟨rfl, h⟩
  · obtain ⟨-, htimeout⟩ := not_or.mp hzero
    have hline := fill_eq_takeOctets htimeout { wanted := count } h.timeouts
    have hother := fill_eq_takeOctets htimeout { wanted := count } h.timeouts'
    rw [← h.input, ← hline] at hother
    obtain ⟨hresult, hinput⟩ := Prod.mk.inj hother
    obtain ⟨hwrites, hflushes, hclears, hplan⟩ := fill_keeps htimeout { wanted := count } h.timeouts
    obtain ⟨hwrites', hflushes', hclears', hplan'⟩ :=
      fill_keeps htimeout { wanted := count } h.timeouts'
    refine ⟨hresult.symm, hinput.symm, ?_, ?_, ?_, ?_, hplan, hplan'⟩
    · rw [clockLeft_fill, clockLeft_fill, h.clockLeft]
    · exact hwrites.trans (h.writes.trans hwrites'.symm)
    · exact hflushes.trans (h.flushes.trans hflushes'.symm)
    · exact hclears.trans (h.clears.trans hclears'.symm)

theorem answer (call : Call) :
    (Transport.answer line call).1 = (Transport.answer other call).1 ∧
      Alike (Transport.answer line call).2 (Transport.answer other call).2 := by
  cases call with
  | send frame => exact h.send frame
  | receive count timeout => exact h.fill count timeout
  | discard => exact h.clear
  | pause duration | note notice => exact ⟨rfl, h⟩

/-- A call ends the program on both lines, or gets the same answer. -/
theorem answer? (call : Call) :
    line.answer? call = none ∧ other.answer? call = none ∨
      ∃ answer after after', line.answer? call = some (answer, after) ∧
        other.answer? call = some (answer, after') ∧ Alike after after' := by
  obtain ⟨hanswer, hafter⟩ := h.answer call
  have hsome : ∃ answer after after', some (Transport.answer line call) = some (answer, after) ∧
      some (Transport.answer other call) = some (answer, after') ∧ Alike after after' := by
    refine ⟨_, _, (Transport.answer other call).2, rfl, ?_, hafter⟩
    exact congrArg some (Prod.ext hanswer.symm rfl)
  cases call with
  | receive count timeout =>
    have hwait : line.CanWait count timeout ↔ other.CanWait count timeout := by
      rw [CanWait, CanWait, h.clockLeft]
    by_cases hcan : line.CanWait count timeout
    · rw [Line.answer?, Line.answer?, receive?, receive?, if_pos hcan, if_pos (hwait.mp hcan)]
      exact .inr hsome
    · exact .inl ⟨if_neg hcan, if_neg fun hother => hcan (hwait.mpr hother)⟩
  | send frame | discard | pause duration | note notice => exact .inr hsome

/-- Whoever talks over one of the lines gets the answers of the other. -/
theorem run? {α : Type} (dialogue : Dialogue α) :
    (dialogue.run? line).1 = (dialogue.run? other).1 ∧
      (dialogue.run? line).2.map Prod.fst = (dialogue.run? other).2.map Prod.fst := by
  induction dialogue generalizing line other with
  | done value => exact ⟨rfl, rfl⟩
  | ask call next ih =>
    obtain ⟨hline, hother⟩ | ⟨answer, after, after', hline, hother, hafter⟩ := h.answer? call
    · rw [Dialogue.run?, Dialogue.run?, hline, hother]
      exact ⟨rfl, rfl⟩
    · obtain ⟨hevents, hvalue⟩ := ih answer hafter
      simp only [Dialogue.run?, hline, hother]
      exact ⟨congrArg (_ :: ·) hevents, hvalue⟩

end Alike

/-- A wait for octets gets them if the input begins with as many, and then leaves what is behind
them. Otherwise it takes all up to the first event that is none, and ends as that event says. -/
theorem fill_outcome {line : Line} (hplan : line.timeouts.Harmless) {timeout : Nat}
    (htimeout : timeout ≠ 0) (count : Nat) :
    let (result, after) := line.fill timeout { wanted := count }
    (∀ octets, result = .ok (some octets) ↔ line.input.take count = octets.map .octet) ∧
      (∀ octets, result = .ok (some octets) → after.input = line.input.drop count) ∧
      ((∀ octets, result ≠ .ok (some octets)) → ∃ place < count,
        (∃ octets : List UInt8, line.input.take place = octets.map .octet) ∧
        (line.input.get place).ending? = some result ∧
        after.input = line.input.drop (place + 1)) := by
  have hfill := fill_eq_takeOctets htimeout { wanted := count } hplan
  generalize line.fill timeout { wanted := count } = filled at hfill ⊢
  obtain ⟨result, after⟩ := filled
  obtain ⟨octets, htake⟩ | ⟨place, hplace, ⟨octets, htake⟩, ending, hending⟩ :=
    exists_octets count line.input
  · obtain ⟨rfl, hafter⟩ := Prod.mk.inj (hfill.trans (takeOctets_of_take htake))
    refine ⟨fun others => ?_, fun _ _ => hafter, fun hnone => absurd rfl (hnone octets)⟩
    rw [htake, List.map_inj_right fun _ _ => InputEvent.octet.inj]
    constructor
    · intro h
      exact Option.some.inj (Except.ok.inj h)
    · rintro rfl
      rfl
  · obtain ⟨rfl, hafter⟩ := Prod.mk.inj (hfill.trans (takeOctets_of_get hplace htake hending))
    have hne : ∀ octets, result ≠ .ok (some octets) := by
      rintro octets rfl
      cases hevent : line.input.get place <;> rw [hevent] at hending <;> cases hending
    refine ⟨fun others => ⟨fun h => absurd h (hne others), fun h => ?_⟩,
      fun others h => absurd h (hne others),
      fun _ => ⟨place, hplace, ⟨octets, htake⟩, hending, hafter⟩⟩
    rw [ending?_eq_none hplace h] at hending
    cases hending

/-- A wait ends the program exactly if the clock has no such time to come, or there is no buffer. -/
theorem receive?_eq_none_iff {line : Line} {count timeout : Nat} :
    line.receive? count timeout = none ↔ line.clockLeft < timeout ∨ maxBuffer < count := by
  rw [receive?, ite_eq_right_iff, CanWait]
  constructor
  · intro h
    by_contra hnot
    obtain ⟨hclock, hbuffer⟩ := not_or.mp hnot
    cases h ⟨Nat.le_of_not_lt hclock, Nat.le_of_not_lt hbuffer⟩
  · rintro (hclock | hbuffer) ⟨hle, hle'⟩
    · exact absurd hle (Nat.not_le.mpr hclock)
    · exact absurd hle' (Nat.not_le.mpr hbuffer)

theorem fill_eq_of_receive? {line after : Line} {count timeout : Nat}
    {result : Except Failure (Option (List UInt8))}
    (h : line.receive? count timeout = some (result, after)) :
    line.fill timeout { wanted := count } = (result, after) := by
  rw [receive?] at h
  split at h
  · exact Option.some.inj h
  · cases h

/-- The pieces in which a line hands out what has come in, and the reads that are disturbed, cannot
be told from what comes of any calls: two scripts with the same input give the same answers,
whatever is sent, waited for and discarded, and whichever call follows on which answer. A wait ends
the program exactly if the clock has no such time to come or there is no buffer for as many octets.
All others get their octets if and only if the input begins with as many, and leave what is behind
them. Otherwise they take all up to the first event that is none and end as that event says. Every
read that a wait makes asks for an octet at least and for no more than is missing. -/
theorem chunking_invisible (line : Line) (hplan : line.timeouts.Harmless)
    {reads others : List ReadResult} (hinput : inputOf reads = inputOf others) :
    let first := { line with reads := reads }
    let second := { line with reads := others }
    (∀ {α : Type} (dialogue : Dialogue α),
      (dialogue.run? first).1 = (dialogue.run? second).1 ∧
        (dialogue.run? first).2.map Prod.fst = (dialogue.run? second).2.map Prod.fst) ∧
    (∀ count timeout,
      first.receive? count timeout = none ↔ line.clockLeft < timeout ∨ maxBuffer < count) ∧
    ∀ count timeout result after, timeout ≠ 0 →
      first.receive? count timeout = some (result, after) →
      (∀ octets, result = .ok (some octets) ↔ first.input.take count = octets.map .octet) ∧
      (∀ octets, result = .ok (some octets) → after.input = first.input.drop count) ∧
      ((∀ octets, result ≠ .ok (some octets)) → ∃ place < count,
        (∃ octets : List UInt8, first.input.take place = octets.map .octet) ∧
        (first.input.get place).ending? = some result ∧
        after.input = first.input.drop (place + 1)) ∧
      ∃ sizes : List Nat,
        after.record = (sizes.map .read).reverse ++ first.record ∧
        after.reads = (readAll sizes reads).2 ∧
        ∀ before size behind, sizes = before ++ size :: behind → 0 < size ∧
          ((readAll before reads).1.flatMap ReadResult.received).length + size = count := by
  intro first second
  refine ⟨fun dialogue => ?_, fun count timeout => receive?_eq_none_iff,
    fun count timeout result after htimeout hreceive => ?_⟩
  · have halike : Alike first second := ⟨hinput, rfl, rfl, rfl, rfl, hplan, hplan⟩
    exact halike.run? dialogue
  · replace hplan : first.timeouts.Harmless := hplan
    have houtcome := fill_outcome hplan htimeout count
    have hreads := exists_readAll_fill htimeout { wanted := count } hplan
    rw [fill_eq_of_receive? hreceive] at houtcome hreads
    obtain ⟨hoctets, hleft, hnone⟩ := houtcome
    exact ⟨hoctets, hleft, hnone, hreads⟩

/-- Three octets in one piece, and the same three with interruptions and an octet to a read. -/
theorem chunking_invisible_of_interrupted :
    let line : Line := { reads := [] }
    let reads := [.octets [0x00, 0x2A, 0x81], .timedOut]
    let others := [.interrupted, .octets [0x00], .octets [0x2A], .interrupted, .octets [0x81],
      .timedOut]
    line.timeouts.Harmless ∧ inputOf reads = inputOf others ∧
      ((Dialogue.call (.receive 2 100)).run? { line with reads := reads }).1 =
        ((Dialogue.call (.receive 2 100)).run? { line with reads := others }).1 ∧
      ∃ after, receive? { line with reads := others } 2 100 =
        some (.ok (some [0x00, 0x2A]), after) := by
  intro line reads others
  have hplan : line.timeouts.Harmless := by
    intro call hcall
    cases hcall
  have hinput : inputOf reads = inputOf others := rfl
  obtain ⟨-, hnone, hsome⟩ := chunking_invisible line hplan hinput.symm
  refine ⟨hplan, hinput, ((chunking_invisible line hplan hinput).1 _).1, ?_⟩
  cases hreceive : receive? { line with reads := others } 2 100 with
  | none => exact absurd ((hnone 2 100).mp hreceive) (by decide)
  | some received =>
    obtain ⟨result, after⟩ := received
    obtain rfl := ((hsome 2 100 result after (by decide) hreceive).1 [0x00, 0x2A]).mpr rfl
    exact ⟨after, rfl⟩

/-- There are lengths with no buffer, and times that no clock tells, so not every wait comes to an
end. -/
theorem wait_ends_program :
    (¬∀ (line : Line) (count : Nat), 0 < count → count < Reply.lengthModulus →
        (line.receive? count 120000).isSome) ∧
      ¬∀ (line : Line) (timeout : Nat), timeout ≠ 0 → timeout < Reply.lengthModulus * 1000 →
        (line.receive? 1 timeout).isSome := by
  constructor
  · intro h
    have hlargest := h { reads := [] } (Reply.lengthModulus - 1) (by decide) (by decide)
    rw [receive?_eq_none_iff.mpr (by decide)] at hlargest
    cases hlargest
  · intro h
    have hlargest := h { reads := [] } (Reply.lengthModulus * 1000 - 1) (by decide) (by decide)
    rw [receive?_eq_none_iff.mpr (by decide)] at hlargest
    cases hlargest

end Line

end Serial

end Sdci
