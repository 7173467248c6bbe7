import Sdci.Proofs.Master.Connection
import Sdci.Proofs.Master.Transcript
import Sdci.Proofs.Text.Hex
import Sdci.Script

/-!
# The log is a transcript

The log of a run says which frames went out, in their order and with all their octets, and which
changes of the state were made, each one where the one before led to (`Master.log_transcribes`).
-/

namespace Sdci

open Text

/-! ### Lines -/

theorem ConnectionState.exists_head?_name (state : ConnectionState) :
    ∃ c, state.name.toList.head? = some c := by
  cases state <;> exact ⟨_, rfl⟩

/-- A state is told by the first letter of its name. -/
theorem ConnectionState.eq_of_head?_name {state other : ConnectionState}
    (h : state.name.toList.head? = other.name.toList.head?) : state = other := by
  revert h
  cases state <;> cases other <;> decide

namespace Notice

variable {notice : Notice}

/-- The frame that is noted. -/
def frame? : Notice → Option (List UInt8)
  | sending frame => some frame
  | _ => none

/-- The states that a noted change leads from and to. -/
def change? : Notice → Option (ConnectionState × ConnectionState)
  | stateChanged source target => some (source, target)
  | _ => none

/-- The notice is on a level, and its text begins with some words. -/
def Begins (notice : Notice) (level : Level) (words : String) : Prop :=
  notice.level = level ∧ words.toList <+: notice.text.toList

instance {level : Level} {words : String} : Decidable (notice.Begins level words) :=
  inferInstanceAs (Decidable (_ ∧ _))

/-- The line of a frame. -/
def frameLine (frame : List UInt8) : String :=
  "DEBUG Sending " ++ hexList frame

/-- The line of a change of state. -/
def changeLine (change : ConnectionState × ConnectionState) : String :=
  "INFO State " ++ change.1.name ++ " -> " ++ change.2.name

/-- The line of a frame tells its octets. -/
theorem frameLine_injective : Function.Injective frameLine := fun _ _ h =>
  hexList_injective ((String.append_right_inj _).mp h)

theorem line_eq_frameLine {frame : List UInt8} (h : notice.frame? = some frame) :
    notice.line = frameLine frame := by
  cases notice with
  | sending other =>
    obtain rfl : other = frame := Option.some.inj h
    exact (String.append_assoc ..).symm
  | _ => cases h

theorem line_eq_changeLine {change : ConnectionState × ConnectionState}
    (h : notice.change? = some change) : notice.line = changeLine change := by
  cases notice with
  | stateChanged source target =>
    obtain rfl : (source, target) = change := Option.some.inj h
    cases source <;> cases target <;> rfl
  | _ => cases h

theorem head?_toList_append {first : String} (rest : String) {c : Char}
    (h : first.toList.head? = some c) : (first ++ rest).toList.head? = some c := by
  rw [String.toList_append, List.head?_append, h]
  rfl

/-- The line of a change tells its states. -/
theorem changeLine_injective : Function.Injective changeLine := by
  rintro ⟨source, target⟩ ⟨source', target'⟩ h
  simp only [changeLine, String.append_assoc, String.append_right_inj] at h
  have hsource : source = source' := by
    obtain ⟨c, hc⟩ := source.exists_head?_name
    obtain ⟨c', hc'⟩ := source'.exists_head?_name
    have hhead := congrArg (·.toList.head?) h
    simp only [head?_toList_append _ hc, head?_toList_append _ hc'] at hhead
    exact ConnectionState.eq_of_head?_name (hc.trans (hhead.trans hc'.symm))
  subst hsource
  simp only [String.append_right_inj] at h
  rw [ConnectionState.eq_of_head?_name (congrArg (·.toList.head?) h)]

theorem head?_text (target : Isdu.Target) : target.text.toList.head? = some 'I' :=
  head?_toList_append _ (head?_toList_append _ (head?_toList_append _ rfl))

/-- The sentence of an error of a transfer begins with the name of such transfers. -/
theorem head?_message (error : Isdu.TransferError) : error.message.toList.head? = some 'I' := by
  cases error with
  | noResponse target => exact head?_toList_append _ (head?_text target)
  | noStart target | overrun target | noAcknowledgement target =>
    exact head?_toList_append _ (head?_toList_append _ (head?_toList_append _ (head?_text target)))
  | dataTooLong =>
    exact head?_toList_append _ (head?_toList_append _ (head?_toList_append _
      (head?_toList_append _ rfl)))

theorem exists_head?_toString (number : Nat) :
    ∃ c, (toString number).toList.head? = some c ∧ c ≠ 'S' := by
  have htext : (toString number).toList = Nat.toDigits 10 number := Nat.toList_repr
  have hne : Nat.toDigits 10 number ≠ [] := Nat.toDigits_ne_nil
  refine ⟨_, by rw [htext, List.head?_eq_some_head hne], fun heq => ?_⟩
  have hdigit := Nat.isDigit_of_mem_toDigits (by decide) (Nat.le_refl 10) (List.head_mem hne)
  rw [heq] at hdigit
  exact absurd hdigit (by decide)

/-- Few texts begin with the letter that those of frames and changes begin with. -/
theorem exists_head?_text (hframe : notice.frame? = none) (hchange : notice.change? = none)
    (hfixed : notice ∉ [operateCommand, startupBegins, startupFailed]) :
    ∃ c, notice.text.toList.head? = some c ∧ c ≠ 'S' := by
  cases notice with
  | sending => cases hframe
  | stateChanged => cases hchange
  | operateCommand | startupBegins | startupFailed => exact absurd (by simp) hfixed
  | faultsAnswered answered count =>
    obtain ⟨c, hc, hne⟩ := exists_head?_toString answered
    exact ⟨c, head?_toList_append _ (head?_toList_append _ (head?_toList_append _ hc)), hne⟩
  | transferFailed error => exact ⟨'I', head?_message error, by decide⟩
  | _ =>
    -- The first words of a text are fixed, whatever is put in behind them.
    apply Exists.intro
    constructor
    · repeat' first | apply head?_toList_append | rfl
    · decide

/-- Notices that begin like those of frames or changes are of one of these kinds. -/
theorem cases_of_prefix {words : String} (hwords : words.toList.head? = some 'S')
    (h : words.toList <+: notice.text.toList) :
    notice.frame?.isSome ∨ notice.change?.isSome ∨
      notice ∈ [operateCommand, startupBegins, startupFailed] := by
  cases hframe : notice.frame? with
  | some frame => exact .inl rfl
  | none =>
    cases hchange : notice.change? with
    | some change => exact .inr (.inl rfl)
    | none =>
      refine .inr (.inr (Decidable.not_not.mp fun hfixed => ?_))
      obtain ⟨c, hc, hne⟩ := exists_head?_text hframe hchange hfixed
      obtain ⟨rest, hrest⟩ := h
      rw [← hrest, List.head?_append, hwords] at hc
      cases hc
      exact hne rfl

theorem isSome_frame?_iff : notice.frame?.isSome ↔ ∃ frame, notice = sending frame := by
  cases notice <;> simp [frame?]

theorem isSome_change?_iff :
    notice.change?.isSome ↔ ∃ source target, notice = stateChanged source target := by
  cases notice <;> simp [change?]

/-- The notice of the transition command begins with the same word as those of frames. -/
theorem prefix_sending_iff :
    "Sending ".toList <+: notice.text.toList ↔
      notice.frame?.isSome ∨ notice = operateCommand := by
  constructor
  · intro h
    obtain hframe | hchange | hfixed := cases_of_prefix rfl h
    · exact .inl hframe
    · obtain ⟨source, target, rfl⟩ := isSome_change?_iff.mp hchange
      revert h
      cases source <;> cases target <;> decide
    · simp only [List.mem_cons, List.not_mem_nil, or_false] at hfixed
      obtain rfl | rfl | rfl := hfixed
      · exact .inr rfl
      · exact absurd h (by decide)
      · exact absurd h (by decide)
  · rintro (hframe | rfl)
    · obtain ⟨frame, rfl⟩ := isSome_frame?_iff.mp hframe
      exact ⟨_, String.toList_append.symm⟩
    · decide

/-- The notices of frames are the ones that begin like one of them on their level. -/
theorem begins_sending_iff : notice.Begins .debug "Sending " ↔ notice.frame?.isSome := by
  rw [Begins, prefix_sending_iff]
  constructor
  · rintro ⟨hlevel, hframe | rfl⟩
    · exact hframe
    · cases hlevel
  · intro hframe
    obtain ⟨frame, rfl⟩ := isSome_frame?_iff.mp hframe
    exact ⟨rfl, .inl rfl⟩

/-- The notices of changes are the ones that begin like one of them. -/
theorem prefix_state_iff :
    "State ".toList <+: notice.text.toList ↔ notice.change?.isSome := by
  constructor
  · intro h
    obtain hframe | hchange | hfixed := cases_of_prefix rfl h
    · obtain ⟨frame, rfl⟩ := isSome_frame?_iff.mp hframe
      -- The second letter tells the two apart.
      obtain ⟨rest, hrest⟩ := h
      have hsecond := congrArg (·[1]?) (hrest.trans String.toList_append)
      rw [List.getElem?_append_left (by decide), List.getElem?_append_left (by decide)] at hsecond
      exact absurd hsecond (by decide)
    · exact hchange
    · simp only [List.mem_cons, List.not_mem_nil, or_false] at hfixed
      obtain rfl | rfl | rfl := hfixed
      all_goals exact absurd h (by decide)
  · intro hchange
    obtain ⟨source, target, rfl⟩ := isSome_change?_iff.mp hchange
    cases source <;> cases target <;> decide

/-- They are all on one level. -/
theorem info_of_prefix (h : "State ".toList <+: notice.text.toList) : notice.level = .info := by
  obtain ⟨source, target, rfl⟩ := isSome_change?_iff.mp (prefix_state_iff.mp h)
  rfl

theorem begins_state_iff : notice.Begins .info "State " ↔ notice.change?.isSome := by
  rw [Begins, ← prefix_state_iff, and_iff_right_iff_imp]
  exact info_of_prefix

end Notice

/-- The notices in the log. -/
def noticesIn (events : List Event) : List Notice :=
  events.filterMap Event.notice?

/-- The lines of the log that are on a level and begin with some words there. -/
def linesIn (events : List Event) (level : Notice.Level) (words : String) : List String :=
  ((noticesIn events).filter (·.Begins level words)).map Notice.line

/-- The frames that are noted. -/
def framesNoted (events : List Event) : List (List UInt8) :=
  (noticesIn events).filterMap Notice.frame?

/-- The changes of state that are noted. -/
def changesNoted (events : List Event) : List (ConnectionState × ConnectionState) :=
  (noticesIn events).filterMap Notice.change?

section Lines

variable {α : Type} {p : Notice → Prop} [DecidablePred p] {f : Notice → Option α} {g : α → String}

/-- Notices that are told by a property of theirs have the lines of what they note. -/
theorem map_line_filter (hp : ∀ notice, p notice ↔ (f notice).isSome)
    (hg : ∀ notice value, f notice = some value → notice.line = g value) (notices : List Notice) :
    (notices.filter (p ·)).map Notice.line = (notices.filterMap f).map g := by
  induction notices with
  | nil => rfl
  | cons notice rest ih =>
    cases hvalue : f notice with
    | none =>
      have hnot : ¬p notice := fun h => by simpa [hvalue] using (hp notice).mp h
      rw [List.filter_cons_of_neg (by simpa using hnot), List.filterMap_cons_none hvalue, ih]
    | some value =>
      have hholds : p notice := (hp notice).mpr (by rw [hvalue]; rfl)
      rw [List.filter_cons_of_pos (by simpa using hholds), List.filterMap_cons_some hvalue,
        List.map_cons, List.map_cons, hg notice value hvalue, ih]

theorem linesIn_sending (events : List Event) :
    linesIn events .debug "Sending " = (framesNoted events).map Notice.frameLine :=
  map_line_filter (fun _ => Notice.begins_sending_iff) (fun _ _ => Notice.line_eq_frameLine) _

theorem linesIn_state (events : List Event) :
    linesIn events .info "State " = (changesNoted events).map Notice.changeLine :=
  map_line_filter (fun _ => Notice.begins_state_iff) (fun _ _ => Notice.line_eq_changeLine) _

end Lines

/-! ### Chains of changes -/

/-- The changes lead from one state to another: each begins where the one before ended, and none
leads back to where it began. -/
def Leads : ConnectionState → List (ConnectionState × ConnectionState) → ConnectionState → Prop
  | source, [], target => target = source
  | source, (first, second) :: rest, target =>
    first = source ∧ second ≠ source ∧ Leads second rest target

section Leads

variable {source middle target : ConnectionState}
  {changes first second : List (ConnectionState × ConnectionState)}

theorem Leads.append (h : Leads source first middle) (h' : Leads middle second target) :
    Leads source (first ++ second) target := by
  induction first generalizing source with
  | nil =>
    obtain rfl : middle = source := h
    exact h'
  | cons change rest ih =>
    obtain ⟨hfirst, hne, hrest⟩ := h
    exact ⟨hfirst, hne, ih hrest⟩

/-- When all changes lead to the same state, there is at most one of them. -/
theorem Leads.eq_of_forall (state : ConnectionState) (h : Leads source changes target)
    (hstate : ∀ change ∈ changes, change.2 = state) :
    changes = if target = source then [] else [(source, target)] := by
  rcases changes with _ | ⟨⟨first, second⟩, _ | ⟨⟨third, fourth⟩, rest⟩⟩
  · exact (if_pos h).symm
  · obtain ⟨rfl, hne, rfl⟩ := h
    exact (if_neg hne).symm
  · obtain ⟨rfl, -, rfl, hne, -⟩ := h
    have hsecond : third = state := hstate (first, third) (by simp)
    have hfourth : fourth = state := hstate (third, fourth) (by simp)
    exact absurd (hfourth.trans hsecond.symm) hne

/-- Of the changes that the transition to operate may make, there are both, one or none. -/
theorem Leads.enterOperate (h : Leads source changes target)
    (hallowed : ∀ change ∈ changes, Operation.enterOperate.MayChange change.1 change.2) :
    changes = [] ∧ target = source ∨
      changes = [(.preoperate, .established)] ∧ source = .preoperate ∧ target = .established ∨
      changes = [(.established, .operate)] ∧ source = .established ∧ target = .operate ∨
      changes = [(.preoperate, .established), (.established, .operate)] ∧
        source = .preoperate ∧ target = .operate := by
  rcases changes with _ | ⟨⟨first, second⟩, rest⟩
  · exact .inl ⟨rfl, h⟩
  obtain ⟨rfl, -, hrest⟩ := h
  obtain ⟨hfirst, hmay⟩ := List.forall_mem_cons.mp hallowed
  -- Nothing leads on from operate, and from established one change does.
  have hend {rest : List (ConnectionState × ConnectionState)} (h : Leads .operate rest target)
      (hallowed : ∀ change ∈ rest, Operation.enterOperate.MayChange change.1 change.2) :
      rest = [] ∧ target = .operate := by
    rcases rest with _ | ⟨⟨third, fourth⟩, others⟩
    · exact ⟨rfl, h⟩
    · obtain ⟨rfl, -, -⟩ := h
      obtain ⟨heq, -⟩ | ⟨heq, -⟩ := (List.forall_mem_cons.mp hallowed).1 <;> cases heq
  obtain ⟨rfl, rfl⟩ | ⟨rfl, rfl⟩ := hfirst
  · rcases rest with _ | ⟨⟨third, fourth⟩, others⟩
    · exact .inr (.inl ⟨rfl, rfl, hrest⟩)
    · obtain ⟨rfl, -, hothers⟩ := hrest
      obtain ⟨hsecond, hbehind⟩ := List.forall_mem_cons.mp hmay
      obtain ⟨heq, -⟩ | ⟨-, rfl⟩ := hsecond
      · cases heq
      · obtain ⟨rfl, rfl⟩ := hend hothers hbehind
        exact .inr (.inr (.inr ⟨rfl, rfl, rfl⟩))
  · obtain ⟨rfl, rfl⟩ := hend hrest hmay
    exact .inr (.inr (.inl ⟨rfl, rfl, rfl⟩))

end Leads

/-! ### Transcripts of the log -/

namespace Transcript

variable {allowed : ConnectionState → ConnectionState → Prop} {source target : ConnectionState}
  {events : List Event}

/-- A call that has no place of its own in a transcript neither sends anything nor notes a frame or
a change. -/
theorem cons_of_isAside {event : Event} (h : event.call.isAside) (events : List Event) :
    framesIn (event :: events) = framesIn events ∧
      framesNoted (event :: events) = framesNoted events ∧
      changesNoted (event :: events) = changesNoted events := by
  obtain ⟨call, answer⟩ := event
  cases call with
  | send frame => cases h
  | receive | discard | pause => exact ⟨rfl, rfl, rfl⟩
  | note notice =>
    cases notice with
    | sending | stateChanged => cases h
    | _ => exact ⟨rfl, rfl, rfl⟩

/-- The frames that are noted are those that are sent. -/
theorem framesNoted_eq (h : Transcript allowed source events target) :
    framesNoted events = framesIn events := by
  induction h with
  | nil state => rfl
  | sent frame answer _ ih => exact congrArg (frame :: ·) ih
  | changed hne hallowed _ ih => exact ih
  | announced hallowed _ ih => exact ih
  | aside haside _ ih =>
    obtain ⟨hframes, hnoted, -⟩ := cons_of_isAside haside _
    rw [hframes, hnoted, ih]

theorem leads (h : Transcript allowed source events target) :
    Leads source (changesNoted events) target := by
  induction h with
  | nil state => rfl
  | sent frame answer _ ih => exact ih
  | changed hne hallowed _ ih => exact ⟨rfl, hne.symm, ih⟩
  | announced hallowed _ ih => exact ih
  | aside haside _ ih =>
    obtain ⟨-, -, hchanges⟩ := cons_of_isAside haside _
    rwa [hchanges]

theorem allowed_of_mem (h : Transcript allowed source events target) :
    ∀ change ∈ changesNoted events, allowed change.1 change.2 := by
  induction h with
  | nil state => exact nofun
  | sent frame answer _ ih => exact ih
  | changed hne hallowed _ ih => exact List.forall_mem_cons.mpr ⟨hallowed, ih⟩
  | announced hallowed _ ih => exact ih
  | aside haside _ ih =>
    obtain ⟨-, -, hchanges⟩ := cons_of_isAside haside _
    rwa [hchanges]

/-- The transition to operate is noted only where it is allowed. -/
theorem allowed_of_announced (h : Transcript allowed source events target)
    (hmem : .operateCommand ∈ noticesIn events) : allowed .preoperate .established := by
  induction h with
  | nil state => cases hmem
  | sent frame answer _ ih => exact ih ((List.mem_cons.mp hmem).resolve_left nofun)
  | changed hne _ _ ih => exact ih ((List.mem_cons.mp hmem).resolve_left nofun)
  | announced hallowed _ ih => exact hallowed
  | @aside source target event events haside _ ih =>
    obtain ⟨call, answer⟩ := event
    cases call with
    | send | receive | discard | pause => exact ih hmem
    | note notice =>
      refine ih ((List.mem_cons.mp hmem).resolve_left ?_)
      rintro rfl
      cases haside

end Transcript

/-! ### Steps -/

/-- No other operation can establish the communication. -/
theorem Operation.eq_enterOperate {operation : Operation}
    (h : operation.MayChange .preoperate .established) : operation = .enterOperate := by
  cases operation with
  | enterOperate => rfl
  | _ => simp [MayChange] at h

namespace Step

variable {step : Step}

/-- A record that begins like those of frames is one of them, or says that the transition to operate
begins. -/
theorem debug_or_enterOperate {notice : Notice} (hmem : notice ∈ noticesIn step.events)
    (h : "Sending ".toList <+: notice.text.toList) :
    notice.level = .debug ∨ step.operation = .enterOperate ∧
      notice.line = "INFO Sending OPERATE transition command" := by
  obtain hframe | rfl := Notice.prefix_sending_iff.mp h
  · exact .inl (Notice.begins_sending_iff.mpr hframe).1
  · exact .inr ⟨Operation.eq_enterOperate (step.transcript.allowed_of_announced hmem), by decide⟩

/-- The changes of state that the step makes. The transition to operate makes both of its own if it
succeeds, and the first one if nothing but the confirmation is missing; every other operation makes
at most one. -/
def Makes (step : Step) (changes : List (ConnectionState × ConnectionState)) : Prop :=
  match step.operation with
  | .enterOperate =>
    (step.Announces → step.Succeeds →
        changes = [(.preoperate, .established), (.established, .operate)]) ∧
      (step.Announces → ¬step.Succeeds → changes = [(.preoperate, .established)]) ∧
      (¬step.Announces → changes = [])
  | _ =>
    changes = if step.target.state = step.source.state then []
      else [(step.source.state, step.target.state)]

theorem makes_of_ne (h : step.operation ≠ .enterOperate)
    {changes : List (ConnectionState × ConnectionState)} :
    step.Makes changes ↔ changes = if step.target.state = step.source.state then []
      else [(step.source.state, step.target.state)] := by
  rw [Makes]
  split
  · next heq => exact absurd heq h
  · rfl

theorem makes_enterOperate (h : step.operation = .enterOperate) :
    step.Makes (changesNoted step.events) := by
  have hedge := step.followsEdge
  have hpath := step.transcript.leads.enterOperate (by
    have hallowed := step.transcript.allowed_of_mem
    rwa [h] at hallowed)
  rw [FollowsEdge, h] at hedge
  rw [Makes, h]
  obtain ⟨hup, hestablished, hstay⟩ := hedge
  refine ⟨fun hannounces hsucceeds => ?_, fun hannounces hfails => ?_, fun hsilent => ?_⟩
  · have hsource := hannounces.2.1
    have htarget := hup hannounces hsucceeds
    rw [hsource, htarget] at hpath
    simpa using hpath
  · have hsource := hannounces.2.1
    have htarget := hestablished hannounces hfails
    rw [hsource, htarget] at hpath
    simpa using hpath
  · have htarget := hstay hsilent
    rw [htarget] at hpath
    obtain ⟨hnone, -⟩ | ⟨-, hsource, htarget⟩ | ⟨-, hsource, htarget⟩ | ⟨-, hsource, htarget⟩ :=
      hpath
    · exact hnone
    all_goals cases hsource.symm.trans htarget

/-- The changes that are noted are those that the step makes. -/
theorem makes_changesNoted (step : Step) : step.Makes (changesNoted step.events) := by
  have hallowed := step.transcript.allowed_of_mem
  have hone (state : ConnectionState) (hne : step.operation ≠ .enterOperate)
      (hstate : ∀ change ∈ changesNoted step.events, change.2 = state) :
      step.Makes (changesNoted step.events) :=
    (makes_of_ne hne).mpr (step.transcript.leads.eq_of_forall state hstate)
  cases hop : step.operation with
  | enterOperate => exact makes_enterOperate hop
  | startUp =>
    rw [hop] at hallowed
    exact hone .preoperate (by rw [hop]; nofun) hallowed
  | cycle | cycleWith | readParameter | writeParameter =>
    rw [hop] at hallowed
    exact hone .operate (by rw [hop]; nofun) fun change hmem => (hallowed change hmem).2
  | _ =>
    -- Nothing is noted, so any state will do.
    rw [hop] at hallowed
    exact hone .startup (by rw [hop]; nofun) fun change hmem => (hallowed change hmem).elim

/-- No step makes more than two changes, and only the transition to operate makes two. -/
theorem Makes.length_le {changes : List (ConnectionState × ConnectionState)}
    (h : step.Makes changes) :
    changes.length ≤ if step.operation = .enterOperate then 2 else 1 := by
  split
  · next hop =>
    rw [Makes, hop] at h
    obtain ⟨htwo, hone, hnone⟩ := h
    by_cases hannounces : step.Announces
    · by_cases hsucceeds : step.Succeeds
      · simp [htwo hannounces hsucceeds]
      · simp [hone hannounces hsucceeds]
    · simp [hnone hannounces]
  · next hop =>
    rw [(makes_of_ne hop).mp h]
    split <;> simp

end Step

/-! ### Runs -/

/-- Everything that happens in some steps. -/
def eventsOf (steps : List Step) : List Event :=
  steps.flatMap Step.events

section Append

variable (first second : List Event)

theorem noticesIn_append : noticesIn (first ++ second) = noticesIn first ++ noticesIn second :=
  List.filterMap_append

theorem framesNoted_append :
    framesNoted (first ++ second) = framesNoted first ++ framesNoted second := by
  rw [framesNoted, noticesIn_append, List.filterMap_append]
  rfl

theorem changesNoted_append :
    changesNoted (first ++ second) = changesNoted first ++ changesNoted second := by
  rw [changesNoted, noticesIn_append, List.filterMap_append]
  rfl

end Append

namespace Run

variable {master target : Master} {steps : List Step}

theorem framesNoted_eq (run : Run master steps target) :
    framesNoted (eventsOf steps) = framesIn (eventsOf steps) := by
  induction run with
  | nil master => rfl
  | cons step rest ih =>
    rw [eventsOf, List.flatMap_cons, framesNoted_append, framesIn_append,
      step.transcript.framesNoted_eq]
    exact congrArg _ ih

theorem leads (run : Run master steps target) :
    Leads master.state (changesNoted (eventsOf steps)) target.state := by
  induction run with
  | nil master => rfl
  | cons step rest ih =>
    rw [eventsOf, List.flatMap_cons, changesNoted_append]
    exact step.transcript.leads.append ih

end Run

/-- The log of a run from the beginning, whatever is done and whatever the line answers. Behind each
step, the lines of frames are those of the frames that were sent, in their order, whether or not the
sending failed, and the lines of changes are a chain from startup to the state of the master. A line
tells its frame or change. Each step has the lines of its own frames and of the changes that it
makes, at most two. On other levels no line begins like one of a change, and only the first of the
transition to operate begins like one of a frame. -/
theorem Master.log_transcribes {geometry : Geometry} {settings : Settings} {steps : List Step}
    {target : Master} (run : Run (Master.new geometry settings) steps target) :
    (∀ before behind, steps = before ++ behind →
      ∃ middle, Run (Master.new geometry settings) before middle ∧ Run middle behind target ∧
        linesIn (eventsOf before) .debug "Sending " =
          (framesIn (eventsOf before)).map Notice.frameLine ∧
        ∃ changes, linesIn (eventsOf before) .info "State " = changes.map Notice.changeLine ∧
          Leads .startup changes middle.state) ∧
      Function.Injective Notice.frameLine ∧ Function.Injective Notice.changeLine ∧
      ∀ step ∈ steps,
        linesIn step.events .debug "Sending " = (framesIn step.events).map Notice.frameLine ∧
        (∀ notice ∈ noticesIn step.events,
          ("Sending ".toList <+: notice.text.toList →
            notice.level = .debug ∨ step.operation = .enterOperate ∧
              notice.line = "INFO Sending OPERATE transition command") ∧
          ("State ".toList <+: notice.text.toList → notice.level = .info)) ∧
        ∃ changes, linesIn step.events .info "State " = changes.map Notice.changeLine ∧
          Leads step.source.state changes step.target.state ∧ step.Makes changes ∧
          changes.length ≤ if step.operation = .enterOperate then 2 else 1 := by
  refine ⟨?_, Notice.frameLine_injective, Notice.changeLine_injective, fun step _ =>
    ⟨?_, fun notice hmem => ⟨Step.debug_or_enterOperate hmem, Notice.info_of_prefix⟩,
      changesNoted step.events, linesIn_state _, step.transcript.leads, step.makes_changesNoted,
      step.makes_changesNoted.length_le⟩⟩
  · rintro before behind rfl
    obtain ⟨middle, hbefore, hbehind⟩ := Run.append_iff.mp run
    refine ⟨middle, hbefore, hbehind, ?_, changesNoted (eventsOf before), linesIn_state _,
      hbefore.leads⟩
    rw [linesIn_sending, hbefore.framesNoted_eq]
  · rw [linesIn_sending, step.transcript.framesNoted_eq]

/-- A device that answers the first probe and the first cycle, and a line that fails behind them. -/
theorem Master.log_transcribes_of_answers :
    let answers : Script :=
      { replies := [.octets (Checksum.attach [0]), .octets (Checksum.attach [0])]
        sends := { failing := [4] } }
    let session := (Master.new .type0).steps answers [.startUp, .enterOperate, .wakeUp]
    linesIn (eventsOf session.1) .debug "Sending " =
        ["DEBUG Sending [95, 1D]", "DEBUG Sending [00, 24]", "DEBUG Sending [0F, 0D]",
          "DEBUG Sending [00, 24]", "DEBUG Sending [95, 1D]"] ∧
      ∃ changes, changes.map Notice.changeLine =
          ["INFO State STARTUP -> PREOPERATE", "INFO State PREOPERATE -> ESTAB_COM",
            "INFO State ESTAB_COM -> OPERATE"] ∧
        Leads .startup changes session.2.1.state := by
  intro answers session
  obtain ⟨hlog, -⟩ := log_transcribes (run_steps (Master.new .type0) answers _)
  obtain ⟨middle, -, hbehind, hframes, changes, hchanges, hleads⟩ :=
    hlog session.1 [] (List.append_nil _).symm
  obtain rfl := Run.nil_iff.mp hbehind
  refine ⟨?_, changes, ?_, hleads⟩
  · rw [hframes]
    decide +kernel
  · rw [← hchanges]
    decide +kernel

/-- With that line, more lines begin with the word than there are frames. -/
theorem Master.sending_not_frames :
    ¬∀ (geometry : Geometry) (settings : Settings) (steps : List Step) (target : Master),
      Run (Master.new geometry settings) steps target →
        ((noticesIn (eventsOf steps)).filter fun notice =>
            "Sending ".toList <+: notice.text.toList).length =
          (framesIn (eventsOf steps)).length := by
  let answers : Script :=
    { replies := [.octets (Checksum.attach [0]), .octets (Checksum.attach [0])] }
  intro h
  have hlength := h _ _ _ _ (run_steps (Master.new .type0) answers [.startUp, .enterOperate])
  exact absurd hlength (by decide +kernel)

end Sdci
