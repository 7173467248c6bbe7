import Sdci.Console.Reaction
import Sdci.Proofs.Result
import Sdci.Transport

/-!
# What a line asks for

The words of a line decide what it asks for: nothing if it is idle (`isIdle`), the end if its first
word says so (`quits`), a poll if it names a delay (`pollDelay?`), and otherwise an operation of the
master (`exists_request`). An idle line calls nobody and leaves the master as it is
(`react_of_isIdle`).
-/

namespace Sdci.Console

open Text

/-! ### Scanning -/

namespace Scanner

variable {α : Type} (read : Word → Except Complaint α) (default : α)

@[simp]
theorem run_value_nil : (value read).run [] = .error .missingArgument := rfl

@[simp]
theorem run_value_cons (word : Word) (rest : List Word) :
    (value read).run (word :: rest) = (read word).map (·, rest) := by
  change ((read word) >>= fun value => pure (value, rest)) = _
  cases read word <;> rfl

@[simp]
theorem run_valueD_nil : (valueD read default).run [] = .ok (default, []) := rfl

@[simp]
theorem run_valueD_cons (word : Word) (rest : List Word) :
    (valueD read default).run (word :: rest) = (read word).map (·, rest) :=
  run_value_cons read word rest

@[simp]
theorem run_octets (words : List Word) :
    octets.run words = (readAllOctets words).map (·, words) := by
  change ((readAllOctets words) >>= fun value => pure (value, words)) = _
  cases readAllOctets words <;> rfl

end Scanner

/-- Words can be read as octets if each of them can. -/
theorem isOk_readAllOctets (words : List Word) :
    (readAllOctets words).isOk = words.all fun word => (readOctets word).isOk := by
  induction words with
  | nil => rfl
  | cons word rest ih =>
    rw [List.all_cons, ← ih, readAllOctets]
    cases readOctets word with
    | error complaint => rfl
    | ok octets => cases readAllOctets rest <;> rfl

namespace Verb

theorem ofWord?_eq_quit_iff {word : Word} :
    ofWord? word = some quit ↔ String.ofList word = "quit" ∨ String.ofList word = "q" := by
  unfold ofWord?
  split <;> simp_all

theorem ofWord?_eq_poll_iff {word : Word} :
    ofWord? word = some poll ↔ String.ofList word = "poll" := by
  unfold ofWord?
  split <;> simp_all

/-- Whether words are the arguments of a verb: none is missing, and all that are looked at can be
read. -/
def fits : Verb → List Word → Bool
  | startUp, _ | enterOperate, _ | requestEvent, _ | quit, _ => true
  | cycle, octets => octets.all fun word => (readOctets word).isOk
  | poll, delay :: _ => (readDelay delay).isOk
  | readParameter, [index] => (readNumber index).isOk
  | readParameter, index :: subindex :: _ => (readNumber index).isOk && (readNumber subindex).isOk
  | writeParameter, index :: subindex :: octets =>
    (readNumber index).isOk && (readNumber subindex).isOk &&
      octets.all fun word => (readOctets word).isOk
  | resize, inputLength :: outputLength :: _ =>
    (readLength inputLength).isOk && (readLength outputLength).isOk
  | switchPhyMode, mode :: _ => (readPhyMode mode).isOk
  | injectFaults, [] => true
  | injectFaults, count :: _ => (readNumber count).isOk
  | poll, [] | readParameter, [] | writeParameter, [] | writeParameter, [_] | resize, [] |
    resize, [_] | switchPhyMode, [] => false

/-- The arguments of a verb are read if they fit, and only then. -/
theorem isOk_scan (verb : Verb) (arguments : List Word) :
    (verb.scan.run arguments).isOk = verb.fits arguments := by
  fun_cases fits verb arguments
  all_goals
    simp only [scan, StateT.run_bind, StateT.run_pure, Scanner.run_value_nil,
      Scanner.run_value_cons, Scanner.run_valueD_nil, Scanner.run_valueD_cons, Scanner.run_octets,
      isOk_ok, isOk_error, isOk_pure, isOk_map, isOk_bind, any_ok, any_error, any_map, any_const,
      isOk_readAllOctets, Bool.and_true, Bool.and_false, Bool.and_assoc]

/-- Only to quit and to poll are no operations of the master. -/
theorem request_of_scan {verb : Verb} {arguments rest : List Word} {request : Request}
    (h : verb.scan.run arguments = .ok (request, rest)) :
    (verb = quit ∧ request = .quit) ∨
      (verb = poll ∧ ∃ word delay, arguments = word :: rest ∧ readDelay word = .ok delay ∧
        request = .poll delay) ∨
      verb ≠ quit ∧ verb ≠ poll ∧ ∃ operation, request = .operation operation := by
  cases verb with
  | quit =>
    cases h
    exact .inl ⟨rfl, rfl⟩
  | poll =>
    obtain _ | ⟨word, others⟩ := arguments
    · cases h
    · simp only [scan, StateT.run_bind, Scanner.run_value_cons, bind_eq_ok] at h
      obtain ⟨_, hread, h⟩ := h
      cases hdelay : readDelay word with
      | error e =>
        rw [hdelay] at hread
        cases hread
      | ok delay =>
        rw [hdelay] at hread
        cases hread
        cases h
        exact .inr (.inl ⟨rfl, word, delay, rfl, hdelay, rfl⟩)
  | startUp | enterOperate | requestEvent =>
    cases h
    exact .inr (.inr ⟨nofun, nofun, _, rfl⟩)
  | cycle | switchPhyMode | injectFaults =>
    simp only [scan, StateT.run_bind, bind_eq_ok] at h
    obtain ⟨_, -, h⟩ := h
    cases h
    exact .inr (.inr ⟨nofun, nofun, _, rfl⟩)
  | readParameter | resize =>
    simp only [scan, StateT.run_bind, bind_eq_ok] at h
    obtain ⟨_, -, _, -, h⟩ := h
    cases h
    exact .inr (.inr ⟨nofun, nofun, _, rfl⟩)
  | writeParameter =>
    simp only [scan, StateT.run_bind, bind_eq_ok] at h
    obtain ⟨_, -, _, -, _, -, h⟩ := h
    cases h
    exact .inr (.inr ⟨nofun, nofun, _, rfl⟩)

end Verb

/-! ### Lines -/

/-- Whether a line is blank, begins with an unknown word, or has arguments that do not fit. -/
def isIdle (line : String) : Bool :=
  match words line.toList with
  | [] => true
  | word :: arguments => (Verb.ofWord? word).all fun verb => !verb.fits arguments

/-- Whether the first word of a line is one to quit with. -/
def quits (line : String) : Bool :=
  match words line.toList with
  | [] => false
  | word :: _ => String.ofList word = "quit" || String.ofList word = "q"

/-- The delay of a poll that a line asks for. -/
def pollDelay? (line : String) : Option Decimal :=
  match words line.toList with
  | [] | [_] => none
  | word :: delay :: _ => if String.ofList word = "poll" then (readDelay delay).toOption else none

/-- Whether a line starts a poll. -/
def startsPoll (line : String) : Bool :=
  (pollDelay? line).any Decimal.isTime

/-- Whether a line asks for a poll with a delay that is no time. -/
def aborts (line : String) : Bool :=
  (pollDelay? line).any fun delay => !delay.isTime

section

variable {line : String} {word : Word} {arguments : List Word}
  (hwords : words line.toList = word :: arguments)

include hwords

theorem ofLine_cons :
    Request.ofLine line = match Verb.ofWord? word with
      | some verb => (verb.scan.run arguments).map fun (request, _) => some request
      | none => .error (.unknownCommand word) := by
  have hscan : Request.scan.run (word :: arguments) =
      (match Verb.ofWord? word with
        | some verb => verb.scan
        | none => throw (.unknownCommand word) : Scanner Request).run arguments := rfl
  unfold Request.ofLine
  rw [hwords]
  change (Request.scan.run (word :: arguments)).map _ = _
  rw [hscan]
  cases Verb.ofWord? word <;> rfl

theorem quits_cons_iff : quits line = true ↔ Verb.ofWord? word = some .quit := by
  rw [quits, hwords, Verb.ofWord?_eq_quit_iff]
  simp

theorem pollDelay?_cons_iff (delay : Decimal) :
    pollDelay? line = some delay ↔
      Verb.ofWord? word = some .poll ∧
        ∃ first rest, arguments = first :: rest ∧ readDelay first = .ok delay := by
  rw [pollDelay?, hwords, Verb.ofWord?_eq_poll_iff]
  obtain _ | ⟨first, rest⟩ := arguments
  · simp
  · cases hread : readDelay first <;> simp [hread, Except.toOption]

theorem quits_eq_false (h : Verb.ofWord? word ≠ some .quit) : quits line = false := by
  rwa [← Bool.not_eq_true, quits_cons_iff hwords]

theorem pollDelay?_eq_none (h : Verb.ofWord? word ≠ some .poll) : pollDelay? line = none :=
  Option.eq_none_iff_forall_ne_some.mpr fun delay hdelay =>
    h ((pollDelay?_cons_iff hwords delay).mp hdelay).1

theorem isIdle_cons_iff :
    isIdle line = true ↔ ∀ verb, Verb.ofWord? word = some verb → verb.fits arguments = false := by
  rw [isIdle, hwords, Option.all_eq_true]
  simp only [Bool.not_eq_true']

end

variable {line : String}

/-- An idle line has no request, and is none to end or to poll with. -/
theorem of_isIdle (h : isIdle line = true) :
    (Request.ofLine line = .ok none ∨ ∃ complaint, Request.ofLine line = .error complaint) ∧
      quits line = false ∧ pollDelay? line = none := by
  cases hwords : words line.toList with
  | nil => simp [Request.ofLine, quits, pollDelay?, hwords]
  | cons word arguments =>
    have hfits := (isIdle_cons_iff hwords).mp h
    refine ⟨.inr ?_, quits_eq_false hwords fun hverb => Bool.noConfusion (hfits _ hverb),
      Option.eq_none_iff_forall_ne_some.mpr fun delay hdelay => ?_⟩
    · rw [ofLine_cons hwords]
      cases hverb : Verb.ofWord? word with
      | none => exact ⟨_, rfl⟩
      | some verb =>
        obtain ⟨complaint, hscan⟩ :=
          exists_error_of_isOk ((verb.isOk_scan arguments).trans (hfits verb hverb))
        exact ⟨complaint, congrArg (Except.map _) hscan⟩
    · obtain ⟨hverb, first, rest, rfl, hread⟩ := (pollDelay?_cons_iff hwords delay).mp hdelay
      have hnot := hfits _ hverb
      rw [Verb.fits, hread] at hnot
      cases hnot

theorem isIdle_eq_false_of_quits (h : quits line = true) : isIdle line = false :=
  Bool.eq_false_iff.mpr fun hidle => nomatch (of_isIdle hidle).2.1.symm.trans h

theorem isIdle_eq_false_of_pollDelay? {delay : Decimal} (h : pollDelay? line = some delay) :
    isIdle line = false :=
  Bool.eq_false_iff.mpr fun hidle => nomatch (of_isIdle hidle).2.2.symm.trans h

theorem startsPoll_of_isIdle (h : isIdle line = true) : startsPoll line = false := by
  rw [startsPoll, (of_isIdle h).2.2]
  rfl

/-- Any other line has a request, and its words tell whether it is to quit or to poll. -/
theorem exists_request (h : isIdle line = false) :
    ∃ request, Request.ofLine line = .ok (some request) ∧
      (request = .quit ∧ quits line = true ∧ pollDelay? line = none ∨
        (∃ delay, request = .poll delay ∧ quits line = false ∧ pollDelay? line = some delay) ∨
        (∃ operation, request = .operation operation) ∧ quits line = false ∧
          pollDelay? line = none) := by
  cases hwords : words line.toList with
  | nil => simp [isIdle, hwords] at h
  | cons word arguments =>
    rw [← Bool.not_eq_true, isIdle_cons_iff hwords, Classical.not_forall] at h
    obtain ⟨verb, h⟩ := h
    obtain ⟨hverb, hfits⟩ := Classical.not_imp.mp h
    rw [Bool.not_eq_false] at hfits
    obtain ⟨⟨request, rest⟩, hscan⟩ := exists_ok_of_isOk ((verb.isOk_scan arguments).trans hfits)
    have hline := ofLine_cons hwords
    rw [hverb] at hline
    refine ⟨request, hline.trans (congrArg (Except.map _) hscan), ?_⟩
    obtain ⟨rfl, rfl⟩ | ⟨rfl, first, delay, rfl, hread, rfl⟩ | ⟨hquit, hpoll, hrequest⟩ :=
      Verb.request_of_scan hscan
    · exact .inl ⟨rfl, (quits_cons_iff hwords).mpr hverb,
        pollDelay?_eq_none hwords (by rw [hverb]; nofun)⟩
    · exact .inr (.inl ⟨delay, rfl, quits_eq_false hwords (by rw [hverb]; nofun),
        (pollDelay?_cons_iff hwords delay).mpr ⟨hverb, first, rest, rfl, hread⟩⟩)
    · exact .inr (.inr ⟨hrequest,
        quits_eq_false hwords fun h => hquit (Option.some.inj (hverb.symm.trans h)),
        pollDelay?_eq_none hwords fun h => hpoll (Option.some.inj (hverb.symm.trans h))⟩)

theorem pollDelay?_of_quits (h : quits line = true) : pollDelay? line = none := by
  obtain ⟨_, -, ⟨-, -, hnone⟩ | ⟨_, -, hnot, -⟩ | ⟨-, -, hnone⟩⟩ :=
    exists_request (isIdle_eq_false_of_quits h)
  · exact hnone
  · cases hnot.symm.trans h
  · exact hnone

/-! ### Reactions -/

/-- An idle line calls nobody, and the console goes on with the master as it was. -/
theorem react_of_isIdle (h : isIdle line = true) :
    ∃ output, ∀ master, react master line = .done ⟨master, output, .prompt⟩ := by
  obtain ⟨hline | ⟨complaint, hline⟩, -, -⟩ := of_isIdle h
  · exact ⟨"", fun master => by rw [react, hline]; rfl⟩
  · exact ⟨endLine complaint.message, fun master => by rw [react, hline]; rfl⟩

theorem react_of_request {request : Request} (h : Request.ofLine line = .ok (some request))
    (master : Master) : react master line = reactTo master request := by
  rw [react, h]

theorem react_of_quits (h : quits line = true) (master : Master) :
    react master line = .done ⟨master, "", .quit⟩ := by
  obtain ⟨request, hrequest, ⟨rfl, -⟩ | ⟨_, -, hnot, -⟩ | ⟨-, hnot, -⟩⟩ :=
    exists_request (isIdle_eq_false_of_quits h)
  · exact react_of_request hrequest master
  · rw [hnot] at h
    cases h
  · rw [hnot] at h
    cases h

theorem react_of_pollDelay? {delay : Decimal} (h : pollDelay? line = some delay)
    (master : Master) :
    react master line = .done (if delay.isTime then
        ⟨master, endLine "Press enter to stop polling.", .poll delay⟩
      else
        ⟨master, "", .abort⟩) := by
  obtain ⟨request, hrequest, ⟨-, -, hnot⟩ | ⟨other, rfl, -, hdelay⟩ | ⟨-, -, hnot⟩⟩ :=
    exists_request (isIdle_eq_false_of_pollDelay? h)
  · rw [hnot] at h
    cases h
  · obtain rfl := Option.some.inj (h.symm.trans hdelay)
    rw [react_of_request hrequest, reactTo]
    split <;> rfl
  · rw [hnot] at h
    cases h

/-- The console prompts again behind an operation, whatever came of it. -/
theorem next_perform {σ : Type} [Transport σ] (master : Master) (operation : Operation)
    (transport : σ) : ((perform master operation).run transport).1.next = .prompt := by
  change Reaction.next (((operation.perform master).bind _).run transport).1 = _
  rw [Dialogue.run_bind]
  obtain ⟨⟨outcome | e, master⟩, transport, events⟩ := (operation.perform master).run transport
  · rfl
  · rfl

/-- The words of a line decide what the console does next. -/
theorem next_react {σ : Type} [Transport σ] (master : Master) (line : String) (transport : σ) :
    ((react master line).run transport).1.next =
      if quits line then .quit else match pollDelay? line with
        | none => .prompt
        | some delay => if delay.isTime then .poll delay else .abort := by
  cases hquits : quits line with
  | true =>
    rw [react_of_quits hquits]
    rfl
  | false =>
    cases hpoll : pollDelay? line with
    | some delay =>
      rw [react_of_pollDelay? hpoll]
      change (if delay.isTime then _ else _ : Reaction).next = if delay.isTime then _ else _
      split <;> rfl
    | none =>
      cases hidle : isIdle line with
      | true =>
        obtain ⟨output, hreact⟩ := react_of_isIdle hidle
        rw [hreact]
        rfl
      | false =>
        obtain ⟨request, hrequest, ⟨-, hnot, -⟩ | ⟨_, -, -, hnot⟩ | ⟨⟨operation, rfl⟩, -⟩⟩ :=
          exists_request hidle
        · rw [hnot] at hquits
          cases hquits
        · rw [hnot] at hpoll
          cases hpoll
        · rw [react_of_request hrequest]
          exact next_perform master operation transport

end Sdci.Console
