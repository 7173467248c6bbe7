import Sdci.Proofs.Master.Conversation
import Sdci.Script

/-!
# Calls that fail

A call to the line that fails is the last one of its operation, and what the operation reports is
that failure (`Operation.OnLine.reports`). Of the master, only the connection state can have changed
before, and only in two places: behind the transition command, and behind a valid exchange of a
transfer (`Master.broken_off`).
-/

namespace Sdci

/-- The failure of the call, if it failed. -/
def Event.failure? : Event → Option Failure
  | ⟨.send _, .error failure⟩ | ⟨.receive .., .error failure⟩ | ⟨.discard, .error failure⟩ =>
    some failure
  | _ => none

/-! ### Reports -/

section Reports

variable {α β : Type}

/-- The result tells what became of the calls: the last one failed and it is that failure, or none
failed and it is no such failure. -/
inductive Reports : List Event → Except MasterError α → Prop
  | quiet {result : Except MasterError α} (h : ∀ failure, result ≠ .error (.transport failure)) :
    Reports [] result
  | failed {event : Event} {failure : Failure} (h : event.failure? = some failure) :
    Reports [event] (.error (.transport failure))
  | answered {event : Event} {events : List Event} {result : Except MasterError α}
    (h : event.failure? = none) (rest : Reports events result) : Reports (event :: events) result

namespace Reports

variable {result : Except MasterError α}

/-- Nothing follows a call that failed, and its failure is the result. -/
theorem of_failed {before after : List Event} {event : Event} {failure : Failure}
    (h : Reports (before ++ event :: after) result) (hfailed : event.failure? = some failure) :
    after = [] ∧ result = .error (.transport failure) := by
  induction before with
  | nil =>
    cases h with
    | failed hevent =>
      obtain rfl := Option.some.inj (hevent.symm.trans hfailed)
      exact ⟨rfl, rfl⟩
    | answered hevent => cases hevent.symm.trans hfailed
  | cons first before ih =>
    rw [List.cons_append] at h
    generalize hrest : before ++ event :: after = rest at h ih
    cases h with
    | failed => simp at hrest
    | answered _ h => exact ih h

/-- A failure that is reported is that of the last call. -/
theorem exists_failed {events : List Event} {failure : Failure}
    (h : Reports events result) (hresult : result = .error (.transport failure)) :
    ∃ before event, events = before ++ [event] ∧ event.failure? = some failure := by
  induction h with
  | quiet h => exact absurd hresult (h failure)
  | @failed event other h =>
    obtain rfl : other = failure := by simpa using hresult
    exact ⟨[], event, rfl, h⟩
  | @answered first events result _ _ ih =>
    obtain ⟨before, event, rfl, hevent⟩ := ih hresult
    exact ⟨first :: before, event, rfl, hevent⟩

end Reports

end Reports

/-! ### Operations -/

namespace Master

open Master.Action

variable {α : Type} {allowed : List UInt8 → Nat → Nat → Prop} {origin : Master}

theorem Silent.reports {dialogue : Dialogue (Except MasterError α × Master)}
    (h : Silent dialogue) {events : List Event} {outcome : Except MasterError α × Master}
    (path : dialogue.Path events outcome) : Reports events outcome.1 := by
  obtain ⟨result, target, rfl, hresult⟩ := h
  obtain ⟨rfl, rfl⟩ := Dialogue.path_done_iff.mp path
  exact .quiet hresult

theorem Conversation.reports {dialogue : Dialogue (Except MasterError α × Master)}
    (h : Conversation allowed origin dialogue) {events : List Event}
    {outcome : Except MasterError α × Master} (path : dialogue.Path events outcome) :
    Reports events outcome.1 := by
  induction h generalizing events with
  | done hresult htarget =>
    obtain ⟨rfl, rfl⟩ := Dialogue.path_done_iff.mp path
    exact .quiet hresult
  | roundTrip hallowed hmaster hnext ih =>
    obtain ⟨failure, rfl, rfl⟩ | ⟨failure, rfl, rfl⟩ | ⟨reply, rest, hrest, rfl⟩ :=
      path_roundTrip_iff.mp path
    · exact .failed rfl
    · exact .answered rfl (.failed rfl)
    · exact .answered rfl (.answered rfl (ih reply hrest))

end Master

open Master Master.Action

theorem Operation.OnLine.reports {operation : Operation} {master : Master}
    {dialogue : Dialogue (Except MasterError Outcome × Master)}
    (h : operation.OnLine master dialogue) {events : List Event}
    {outcome : Except MasterError Outcome × Master} (path : dialogue.Path events outcome) :
    Reports events outcome.1 := by
  cases h with
  | silent hdialogue => exact hdialogue.reports path
  | command hoperation =>
    obtain ⟨answer, rest, hrest, rfl⟩ := Dialogue.path_ask_iff.mp path
    obtain ⟨failure, rfl, rfl, rfl⟩ | ⟨value, rfl, hdone⟩ := path_orFail_iff.mp hrest
    · exact .failed rfl
    · obtain ⟨rfl, rfl⟩ := Dialogue.path_done_iff.mp hdone
      exact .answered rfl (.quiet fun _ => nofun)
  | announcement hcommand hnext =>
    obtain ⟨failure, rfl, rfl⟩ | ⟨failure, rfl, rfl⟩ | ⟨rest, hrest, rfl⟩ :=
      path_announce_iff.mp path
    · exact .failed rfl
    · exact .answered rfl (.failed rfl)
    · exact .answered rfl (.answered rfl (hnext.reports hrest))
  | conversation hcommand hdialogue => exact hdialogue.reports path

namespace Step

variable {step : Step}

theorem reports (step : Step) : Reports step.traffic step.result :=
  (step.operation.onLine step.source).reports step.path_wire

/-- The transition command is out and what came in before is dropped, so that the calls behind are
those of the confirming cycle. -/
def Confirming (step : Step) (before : List Event) : Prop :=
  step.operation = .enterOperate ∧ ⟨.discard, .ok ()⟩ ∈ before

/-- A transfer in cyclic frames that began when the transition was announced has had a valid
exchange. -/
def Confirmed (step : Step) (before : List Event) : Prop :=
  step.operation.isTransfer ∧ step.source.state = .established ∧
    step.source.geometry.isCyclic ∧
      ∃ reply ∈ repliesIn before, (step.source.responseTo reply).isValid

/-- The state that a call which fails behind the given events leaves. -/
def LeavesState (step : Step) (before : List Event) : Prop :=
  (step.Confirming before → step.target.state = .established) ∧
    (step.Confirmed before → step.target.state = .operate) ∧
      (¬step.Confirming before → ¬step.Confirmed before →
        step.target.state = step.source.state)

/-- The step ends with the given failure of a call, which comes behind the given events. Of the
master it changes the state at most. -/
structure BreaksOff (step : Step) (before : List Event) (failure : Failure) : Prop where
  result : step.result = .error (.transport failure)
  entered : step.source.Entered step.target
  state : step.LeavesState before

variable {before : List Event} {event : Event} {failure : Failure}

/-- A failed call brings no reply. -/
theorem replies_of_failed (h : step.traffic = before ++ [event])
    (hfailed : event.failure? = some failure) : step.replies = repliesIn before := by
  have hreply : event.reply? = none := by
    obtain ⟨call, answer⟩ := event
    cases call with
    | receive count timeout =>
      rcases answer with error | reply
      · rfl
      · cases hfailed
    | _ => rfl
  rw [replies_eq, h, repliesIn, List.filterMap_append, List.filterMap_cons, hreply]
  simp [repliesIn]

/-- A transfer with a valid exchange has a valid first one. -/
theorem firstExchangeValid_iff (h : step.operation.isTransfer) :
    step.FirstExchangeValid ↔
      ∃ reply ∈ step.replies, (step.source.responseTo reply).isValid := by
  rw [FirstExchangeValid, replies_eq]
  have hbegins := beginsTransfer h
  generalize step.target = target at hbegins
  cases hbegins with
  | silent hreplies => simp [hreplies]
  | refused hreplies hinvalid => simp [hreplies]
  | accepted hreplies hvalid => simp [hreplies, hvalid]

/-- A failed call drops nothing. -/
theorem confirming_iff (hop : step.operation = .enterOperate)
    (h : step.traffic = before ++ [event]) (hfailed : event.failure? = some failure) :
    step.Confirming before ↔ step.Announces := by
  have hne : ⟨.discard, .ok ()⟩ ≠ event := by
    rintro rfl
    cases hfailed
  rw [announces_iff_discards hop, Confirming, h]
  simp [hop, hne]

theorem not_succeeds (h : step.result = .error (.transport failure)) : ¬step.Succeeds := by
  rintro ⟨outcome, houtcome⟩
  cases h.symm.trans houtcome

theorem leavesState_of_unchanged (hop : step.operation ≠ .enterOperate)
    (htransfer : step.operation.isTransfer = false)
    (hstate : step.target.state = step.source.state) : step.LeavesState before := by
  simp [LeavesState, Confirming, Confirmed, hop, htransfer, hstate]

theorem leavesState_of_transfer (h : step.traffic = before ++ [event])
    (hfailed : event.failure? = some failure) (htransfer : step.operation.isTransfer)
    (hmoves : step.MovesTo .operate (step.source.state = .established ∧
      step.source.geometry.isCyclic ∧ step.FirstExchangeValid)) : step.LeavesState before := by
  have hconfirmed : step.Confirmed before ↔ step.source.state = .established ∧
      step.source.geometry.isCyclic ∧ step.FirstExchangeValid := by
    rw [firstExchangeValid_iff htransfer, replies_of_failed h hfailed]
    exact and_iff_right htransfer
  have hconfirming : ¬step.Confirming before := by
    rintro ⟨hop, -⟩
    rw [hop] at htransfer
    cases htransfer
  rw [LeavesState, hconfirmed]
  exact ⟨fun hnot => absurd hnot hconfirming, hmoves.1, fun _ => hmoves.2⟩

/-- Only the transition to operate and a transfer can have changed the state before a call fails. -/
theorem leavesState_of_failed (h : step.traffic = before ++ [event])
    (hfailed : event.failure? = some failure) (hresult : step.result = .error (.transport failure)) :
    step.LeavesState before := by
  have hsucceeds : ¬step.Succeeds := not_succeeds hresult
  have hvalid : ¬step.ReturnsValid := fun ⟨response, hresponse, _⟩ => hsucceeds ⟨_, hresponse⟩
  have hedge := step.followsEdge
  rw [FollowsEdge] at hedge
  cases hop : step.operation with
  | enterOperate =>
    rw [hop] at hedge
    rw [LeavesState, confirming_iff hop h hfailed]
    refine ⟨fun hannounces => hedge.2.1 hannounces hsucceeds, ?_, fun hnot _ => hedge.2.2 hnot⟩
    rintro ⟨htransfer, -⟩
    rw [hop] at htransfer
    cases htransfer
  | readParameter index subindex | writeParameter index subindex data =>
    rw [hop] at hedge
    exact leavesState_of_transfer h hfailed (by rw [hop]; rfl) hedge
  | startUp =>
    rw [hop] at hedge
    exact leavesState_of_unchanged (by simp [hop]) (by rw [hop]; rfl) (hedge.2 hsucceeds)
  | cycle processData octet | cycleWith processData od =>
    rw [hop] at hedge
    have hstate := hedge.2 fun hconfirms => hvalid hconfirms.2
    exact leavesState_of_unchanged (by simp [hop]) (by rw [hop]; rfl) hstate
  | _ =>
    rw [hop] at hedge
    exact leavesState_of_unchanged (by simp [hop]) (by rw [hop]; rfl) hedge

end Step

/-- Whatever call of whatever operation fails, in every state: it is the last call, the operation
reports its failure, and nothing but the connection state can have changed. That is established when
the confirming cycle of a transition fails, and operate when a transfer confirmed the transition
before it failed. No operation reports a failure without a call that failed. -/
theorem Master.broken_off (step : Step) :
    (∀ before event after failure, step.traffic = before ++ event :: after →
      event.failure? = some failure → after = [] ∧ step.BreaksOff before failure) ∧
    ∀ failure, step.result = .error (.transport failure) →
      ∃ before event, step.traffic = before ++ [event] ∧ event.failure? = some failure := by
  refine ⟨fun before event after failure htraffic hfailed => ?_,
    fun failure hresult => step.reports.exists_failed hresult⟩
  have hreports := step.reports
  rw [htraffic] at hreports
  obtain ⟨rfl, hresult⟩ := hreports.of_failed hfailed
  have hentered : step.source.Entered step.target :=
    Step.entered_of_traffic (by rw [htraffic]; simp)
  exact ⟨rfl, hresult, hentered, Step.leavesState_of_failed htraffic hfailed hresult⟩

/-- The line goes down in the confirming cycle of a transition, and in the second exchange of a
transfer that the first one got to operate. -/
theorem Master.broken_off_of_line_down :
    let enter := (Operation.enterOperate.step ((Master.new .type0).enter .preoperate)
      ({ replies := [.failure "line down"] } : Script)).1
    let read := ((Operation.readParameter 0x10 0).step
      ((Master.new ⟨.type11, 1, 1, by decide, by decide⟩ { enforceChecksum := false }).enter
        .established)
      ({ replies := [.octets [0, 0, 0, 0], .failure "line down"] } : Script)).1
    (enter.target.state = .established ∧
      ∃ before, enter.BreaksOff before ⟨.other, "line down"⟩) ∧
    read.target.state = .operate ∧ ∃ before, read.BreaksOff before ⟨.other, "line down"⟩ := by
  intro enter read
  have hbreaks {step : Step} {failure : Failure} (hresult : step.result = .error (.transport failure)) :
      ∃ before, step.BreaksOff before failure := by
    obtain ⟨before, event, htraffic, hfailed⟩ := (broken_off step).2 failure hresult
    exact ⟨before, ((broken_off step).1 before event [] failure htraffic hfailed).2⟩
  exact ⟨⟨rfl, hbreaks rfl⟩, rfl, hbreaks rfl⟩

end Sdci
