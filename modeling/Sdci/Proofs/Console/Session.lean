import Sdci.Console.Program
import Sdci.Proofs.Console.Request

/-!
# Sessions at the console

Which lines are read as commands, and where the console ends, follows from the lines alone
(`readings`, `commands`). What the commands do, one behind the other, is the rest of a session
(`answerLines_eq`): the console prompts before each of them, ends only where it is told to, where
the input is over, or at a delay that is no time, and idle lines could as well be missing
(`run_survives`).
-/

namespace Sdci

namespace Console

open Serial

/-! ### Which lines are commands -/

/-- The lines that are read as commands while nothing ends the console, each with the lines behind
it. A poll that is started takes a line. -/
def readings : List String → List (String × List String)
  | [] => []
  | typed :: rest =>
    (typed, rest) :: match startsPoll typed, rest with
      | false, rest => readings rest
      | true, [] => []
      | true, _ :: rest => readings rest

/-- Whether the console ends with a command. -/
def ends (typed : String) : Bool :=
  quits typed || aborts typed

/-- The commands before the one that the console ends with. -/
def commands (lines : List String) : List String :=
  ((readings lines).map Prod.fst).takeWhile (!ends ·)

/-- The command that the console ends with, and the lines behind it. -/
def ending? (lines : List String) : Option (String × List String) :=
  (readings lines).find? (ends ·.1)

/-- The lines to be read behind a command. -/
def behind (typed : String) (rest : List String) : List String :=
  if startsPoll typed then rest.tail else rest

theorem length_behind_lt (typed : String) (rest : List String) :
    (behind typed rest).length < (typed :: rest).length := by
  rw [behind]
  split
  · simp only [List.length_tail, List.length_cons]
    omega
  · exact Nat.lt_succ_self _

theorem readings_cons (typed : String) (rest : List String) :
    readings (typed :: rest) = (typed, rest) :: readings (behind typed rest) := by
  cases hpoll : startsPoll typed with
  | false => simp [readings, behind, hpoll]
  | true => cases rest <;> simp [readings, behind, hpoll]

section

variable {typed : String} (rest : List String)

theorem commands_of_ends (h : ends typed = true) : commands (typed :: rest) = [] := by
  simp [commands, readings_cons, h]

theorem commands_of_not_ends (h : ends typed = false) :
    commands (typed :: rest) = typed :: commands (behind typed rest) := by
  simp [commands, readings_cons, h]

theorem ending?_of_ends (h : ends typed = true) : ending? (typed :: rest) = some (typed, rest) := by
  simp [ending?, readings_cons, h]

theorem ending?_of_not_ends (h : ends typed = false) :
    ending? (typed :: rest) = ending? (behind typed rest) := by
  simp [ending?, readings_cons, h]

end

/-! ### What commands do -/

/-- Where a console stands between two commands. -/
structure Standing (σ : Type) where
  master : Master
  transport : σ
  /-- How many cycles the polls to come run. -/
  cycles : List Nat

namespace Standing

variable {σ : Type} [Transport σ] (standing : Standing σ)

/-- The reaction to a command, and the transport behind it. -/
def reaction (typed : String) : Reaction × σ :=
  let (reaction, transport, _) :=
    (answer standing.master typed (standing.cycles.headD 0)).run standing.transport
  (reaction, transport)

/-- Where the console stands behind a command. -/
def after (typed : String) : Standing σ where
  master := (standing.reaction typed).1.master
  transport := (standing.reaction typed).2
  cycles := if startsPoll typed then standing.cycles.tail else standing.cycles

/-- The turns of the console: one for each command, and one in which it ends. All begin with the
state that the master is in then. -/
def turns (standing : Standing σ) : List String → List Turn
  | [] => [⟨standing.master.state, ""⟩]
  | typed :: rest =>
    ⟨standing.master.state, (standing.reaction typed).1.output⟩ :: (standing.after typed).turns rest

/-! ### Reactions -/

/-- The cycles of a poll do not change what the console does behind it. -/
theorem next_answer (master : Master) (typed : String) (count : Nat) (transport : σ) :
    ((answer master typed count).run transport).1.next =
      ((react master typed).run transport).1.next := by
  change Reaction.next (((react master typed).bind _).run transport).1 = _
  rw [Dialogue.run_bind]
  obtain ⟨⟨after, output, next⟩, transport, events⟩ := (react master typed).run transport
  cases next with
  | prompt | quit | abort => rfl
  | poll delay =>
    change Reaction.next (((pollCycles after delay count).bind _).run transport).1 = _
    rw [Dialogue.run_bind]
    rfl

/-- A command that calls nobody and starts no poll leaves the transport as it is. -/
theorem reaction_of_done {typed : String} {reaction : Reaction}
    (h : react standing.master typed = .done reaction) (hnot : ∀ delay, reaction.next ≠ .poll delay) :
    standing.reaction typed = (reaction, standing.transport) := by
  have hanswer : answer standing.master typed (standing.cycles.headD 0) = .done reaction := by
    obtain ⟨master, output, next⟩ := reaction
    unfold answer
    rw [h]
    cases next with
    | prompt | quit | abort => rfl
    | poll delay => exact absurd rfl (hnot delay)
  rw [Standing.reaction, hanswer]
  rfl

variable {typed : String}

theorem reaction_of_quits (h : quits typed = true) :
    standing.reaction typed = (⟨standing.master, "", .quit⟩, standing.transport) :=
  standing.reaction_of_done (react_of_quits h _) nofun

theorem reaction_of_aborts (h : aborts typed = true) :
    standing.reaction typed = (⟨standing.master, "", .abort⟩, standing.transport) := by
  obtain ⟨delay, hdelay, htime⟩ := (Option.any_eq_true ..).mp h
  refine standing.reaction_of_done ?_ nofun
  rw [react_of_pollDelay? hdelay, if_neg (by simpa using htime)]

theorem next_reaction (typed : String) :
    (standing.reaction typed).1.next =
      if quits typed then .quit else match pollDelay? typed with
        | none => .prompt
        | some delay => if delay.isTime then .poll delay else .abort :=
  (next_answer ..).trans (next_react ..)

/-- An idle line leaves the console where it stands. -/
theorem after_of_isIdle (h : isIdle typed = true) : standing.after typed = standing := by
  obtain ⟨output, hreact⟩ := react_of_isIdle h
  rw [after, standing.reaction_of_done (hreact standing.master) nofun, startsPoll_of_isIdle h]
  rfl

theorem answerLines_cons (typed : String) (rest : List String) :
    answerLines standing.master standing.transport standing.cycles (typed :: rest) =
      .after ⟨standing.master.state, (standing.reaction typed).1.output⟩
        (let reaction := (standing.reaction typed).1
        let transport := (standing.reaction typed).2
        match reaction.next, rest with
        | .quit, rest => ⟨reaction.master, transport, [], rest, false⟩
        | .abort, rest => ⟨reaction.master, transport, [], rest, true⟩
        | .poll _, [] => .atEnd reaction.master transport
        | .poll _, _ :: rest => answerLines reaction.master transport standing.cycles.tail rest
        | .prompt, rest => answerLines reaction.master transport standing.cycles rest) :=
  answerLines.eq_def ..

theorem answerLines_of_quits (h : quits typed = true) (rest : List String) :
    answerLines standing.master standing.transport standing.cycles (typed :: rest) =
      ⟨standing.master, standing.transport, [⟨standing.master.state, ""⟩], rest, false⟩ := by
  rw [answerLines_cons, standing.reaction_of_quits h]
  rfl

theorem answerLines_of_aborts (h : aborts typed = true) (rest : List String) :
    answerLines standing.master standing.transport standing.cycles (typed :: rest) =
      ⟨standing.master, standing.transport, [⟨standing.master.state, ""⟩], rest, true⟩ := by
  rw [answerLines_cons, standing.reaction_of_aborts h]
  rfl

/-- Behind a command that it does not end with, the console goes on from where it stands then. -/
theorem answerLines_of_not_ends (h : ends typed = false) (rest : List String) :
    answerLines standing.master standing.transport standing.cycles (typed :: rest) =
      .after ⟨standing.master.state, (standing.reaction typed).1.output⟩
        (answerLines (standing.after typed).master (standing.after typed).transport
          (standing.after typed).cycles (behind typed rest)) := by
  obtain ⟨hquits, haborts⟩ := Bool.or_eq_false_iff.mp h
  have hnext := standing.next_reaction typed
  rw [hquits] at hnext
  rw [answerLines_cons, after, behind, startsPoll]
  cases hpoll : pollDelay? typed with
  | none =>
    rw [hpoll] at hnext
    simp only [hnext]
    rfl
  | some delay =>
    rw [aborts, hpoll] at haborts
    replace haborts : delay.isTime = true := by simpa using haborts
    simp only [hpoll, haborts] at hnext
    simp only [hnext, Option.any_some, haborts]
    cases rest with
    | nil => rfl
    | cons taken rest => rfl

end Standing

/-- A session is the commands before its end, one behind the other. -/
theorem answerLines_eq {σ : Type} [Transport σ] (standing : Standing σ) : (lines : List String) →
    answerLines standing.master standing.transport standing.cycles lines =
      { master := ((commands lines).foldl Standing.after standing).master
        transport := ((commands lines).foldl Standing.after standing).transport
        turns := standing.turns (commands lines)
        unread := ((ending? lines).map Prod.snd).getD []
        aborted := (ending? lines).any (aborts ·.1) }
  | [] => rfl
  | typed :: rest => by
    cases hends : ends typed with
    | true =>
      rw [commands_of_ends rest hends, ending?_of_ends rest hends, Option.any_some]
      obtain hquits | haborts := (Bool.or_eq_true ..).mp hends
      · rw [standing.answerLines_of_quits hquits, aborts, pollDelay?_of_quits hquits]
        rfl
      · rw [standing.answerLines_of_aborts haborts, haborts]
        rfl
    | false =>
      rw [standing.answerLines_of_not_ends hends, answerLines_eq _ (behind typed rest),
        commands_of_not_ends rest hends, ending?_of_not_ends rest hends]
      rfl
termination_by lines => lines.length
decreasing_by exact length_behind_lt typed rest

/-! ### Sessions without some of their idle lines -/

theorem ends_of_isIdle {typed : String} (h : isIdle typed = true) : ends typed = false := by
  obtain ⟨-, hquits, hpoll⟩ := of_isIdle h
  rw [ends, hquits, aborts, hpoll]
  rfl

/-- Without polls, every line is read as a command. -/
theorem commands_of_forall {lines : List String} (h : ∀ typed ∈ lines, startsPoll typed = false) :
    commands lines = lines.takeWhile (!ends ·) := by
  have hreadings : (readings lines).map Prod.fst = lines := by
    induction lines with
    | nil => rfl
    | cons typed rest ih =>
      obtain ⟨htyped, hrest⟩ := List.forall_mem_cons.mp h
      rw [readings_cons, behind, htyped, List.map_cons, if_neg Bool.false_ne_true, ih hrest]
  rw [commands, hreadings]

theorem filter_takeWhile (lines : List String) :
    (lines.takeWhile (!ends ·)).filter (!isIdle ·) =
      (lines.filter (!isIdle ·)).takeWhile (!ends ·) := by
  rw [List.takeWhile_filter]
  congr 2
  funext typed
  cases hidle : isIdle typed with
  | false => rfl
  | true => rw [ends_of_isIdle hidle]; rfl

namespace Standing

variable {σ : Type} [Transport σ]

theorem foldl_filter (standing : Standing σ) (typed : List String) :
    (typed.filter (!isIdle ·)).foldl after standing = typed.foldl after standing := by
  induction typed generalizing standing with
  | nil => rfl
  | cons first rest ih =>
    rw [List.filter_cons]
    cases hidle : isIdle first with
    | false => exact ih (standing.after first)
    | true =>
      rw [List.foldl_cons, standing.after_of_isIdle hidle]
      exact ih standing

/-- Idle lines could be missing. -/
theorem foldl_commands_eq (standing : Standing σ) {lines others : List String}
    (h : ∀ typed ∈ lines, startsPoll typed = false)
    (hothers : others.filter (!isIdle ·) = lines.filter (!isIdle ·)) :
    (commands others).foldl after standing = (commands lines).foldl after standing := by
  have h' : ∀ typed ∈ others, startsPoll typed = false := by
    intro typed hmem
    cases hidle : isIdle typed with
    | true => exact startsPoll_of_isIdle hidle
    | false =>
      have hfilter : typed ∈ others.filter (!isIdle ·) :=
        List.mem_filter.mpr ⟨hmem, by rw [hidle]; rfl⟩
      rw [hothers] at hfilter
      exact h typed (List.mem_filter.mp hfilter).1
  rw [commands_of_forall h, commands_of_forall h', ← foldl_filter, filter_takeWhile, hothers,
    ← filter_takeWhile, foldl_filter]

end Standing

/-! ### Runs of the program -/

/-- Where the console stands before it reads a line. -/
def Arguments.start (arguments : Arguments) (line : Line) (cycles : List Nat) : Standing Line where
  master := { Master.new arguments.geometry with baudRate := arguments.baudRate }
  transport := line
  cycles := cycles

/-- The console notes its rate before it begins, and calls nobody else. -/
theorem Arguments.master_eq (arguments : Arguments) (line : Line) (cycles : List Nat) :
    arguments.master = .ask (.note (.baudRateSet arguments.baudRate)) fun _ =>
      .done (arguments.start line cycles).master := by
  have hperform : (Operation.useBaudRate arguments.baudRate).perform (.new arguments.geometry) =
      .ask (.note (.baudRateSet arguments.baudRate)) fun _ =>
        .done (.ok .nothing, (arguments.start line cycles).master) := by
    rw [Operation.perform, Operation.action, Master.Action.start_bind, Master.useBaudRate,
      Master.Action.start_bind, Master.Action.start_note]
    rfl
  rw [Arguments.master, hperform]
  rfl

theorem run_eq {arguments : List String} {accepted : Arguments}
    (h : Arguments.ofList arguments = .ok accepted) (line : Line) (lines : List String)
    (cycles : List Nat) :
    run arguments accepted.path line lines cycles =
      { opening := some accepted.opening
        failure := none
        output := .join (((accepted.start line cycles).turns (commands lines)).map Turn.text)
        line := ((commands lines).foldl Standing.after (accepted.start line cycles)).transport
        unread := ((ending? lines).map Prod.snd).getD []
        aborted := (ending? lines).any (aborts ·.1) } := by
  have hrun : accepted.master.run line =
      ((accepted.start line cycles).master, line, [⟨.note (.baudRateSet accepted.baudRate), ()⟩]) := by
    rw [accepted.master_eq line cycles]
    rfl
  unfold run
  rw [h]
  change (if accepted.path ≠ accepted.path then _ else _) = _
  rw [if_neg (not_not_intro rfl)]
  rw [hrun]
  exact congrArg (fun transcript : Transcript Line =>
    (⟨some accepted.opening, none, transcript.output, transcript.transport, transcript.unread,
      transcript.aborted⟩ : Result)) (answerLines_eq (accepted.start line cycles) lines)

/-- The program comes to an end in every session, except at a poll with a delay that is no time.
What it reads and where it ends follows from the lines; what it prints is a prompt with the state of
the master and the output of each command, and the prompt that it ends at; and the calls to the
serial line are those of the commands. An idle line calls nobody and leaves the master as it is, so
where no poll is started, sessions that differ in idle lines do the same with the serial line. -/
theorem run_survives {arguments : List String} {accepted : Arguments}
    (h : Arguments.ofList arguments = .ok accepted) (line : Line) (lines : List String)
    (cycles : List Nat) :
    let result := run arguments accepted.path line lines cycles
    let start := accepted.start line cycles
    result.opening = some accepted.opening ∧ result.failure = none ∧
      result.aborted = (ending? lines).any (aborts ·.1) ∧
      result.unread = ((ending? lines).map Prod.snd).getD [] ∧
      result.output = .join ((start.turns (commands lines)).map Turn.text) ∧
      result.line = ((commands lines).foldl Standing.after start).transport ∧
      (∀ typed, isIdle typed = true → ∃ output, ∀ master,
        react master typed = .done ⟨master, output, .prompt⟩) ∧
      ((∀ typed ∈ lines, startsPoll typed = false) →
        ∀ others : List String, others.filter (!isIdle ·) = lines.filter (!isIdle ·) →
          (run arguments accepted.path line others cycles).line = result.line) := by
  intro result start
  have hresult : result = _ := run_eq h line lines cycles
  refine ⟨?_, ?_, ?_, ?_, ?_, ?_, fun typed hidle => react_of_isIdle hidle,
    fun hpolls others hothers => ?_⟩
  all_goals rw [hresult]
  rw [run_eq h line others cycles, start.foldl_commands_eq hpolls hothers]

/-- A session with a line that cannot be written to: two idle lines could be missing. -/
theorem run_survives_of_idle :
    let accepted : Arguments := ⟨"/dev/ttyUSB0", ⟨.type0, 0, 0, by decide, by decide⟩, .com2⟩
    let line : Line := { reads := [], writes := { failing := [0] } }
    let lines := ["phy", "startup", "bogus 1", "q", "event"]
    let others := ["startup", "q", "event"]
    Arguments.ofList [] = .ok accepted ∧ (∀ typed ∈ lines, startsPoll typed = false) ∧
      others.filter (!isIdle ·) = lines.filter (!isIdle ·) ∧
      (run [] "/dev/ttyUSB0" line others).line = (run [] "/dev/ttyUSB0" line lines).line ∧
      (run [] "/dev/ttyUSB0" line lines).failure = none ∧
      (run [] "/dev/ttyUSB0" line lines).aborted = false ∧
      (run [] "/dev/ttyUSB0" line lines).unread = ["event"] := by
  intro accepted line lines others
  have haccepted : Arguments.ofList [] = .ok accepted := rfl
  have hpolls : ∀ typed ∈ lines, startsPoll typed = false := by decide +kernel
  have hothers : others.filter (!isIdle ·) = lines.filter (!isIdle ·) := by decide +kernel
  have hending : ending? lines = some ("q", ["event"]) := by decide +kernel
  obtain ⟨-, hfailure, haborted, hunread, -, -, -, hline⟩ := run_survives haccepted line lines []
  rw [hending] at haborted hunread
  exact ⟨haccepted, hpolls, hothers, hline hpolls others hothers, hfailure,
    haborted.trans (by decide +kernel), hunread⟩

/-- Nothing is read behind a poll whose delay is too great to be counted. -/
theorem run_aborted_of_delay :
    (run [] "/dev/ttyUSB0" { reads := [] } ["poll 1e20", "q"]).aborted = true ∧
      (run [] "/dev/ttyUSB0" { reads := [] } ["poll 1e20", "q"]).unread = ["q"] := by
  decide +kernel

end Console

end Sdci
