import Sdci.Proofs.Dialogue.Loss
import Sdci.Proofs.Master.Connection
import Sdci.Proofs.Reply
import Sdci.Script

/-!
# Damaged replies count as lost

When the settings ask for right checksums, a master takes a reply without one for a missing one. So
a line that loses such replies makes no difference to any session (`Master.steps_lossy`), except to
the cycles that damage their own frame, for these take every reply as it is.
-/

namespace Sdci

/-! ### Replies of no use -/

/-- The octets make no valid response, or do not end in the checksum of those before. -/
def UnusableReply (odWidth : Nat) (octets : List UInt8) : Prop :=
  ¬(Response.decode odWidth octets).isValid ∨
    octets.getLast? ≠ some (Checksum.of octets.dropLast)

/-- The octets are not four, or do not end in the checksum of the first three. -/
def UnusableEvent (octets : List UInt8) : Prop :=
  octets.length ≠ 4 ∨ octets.getLast? ≠ some (Checksum.of (octets.take 3))

/-- The reply is of no use to an operation of a master. -/
def Operation.Unusable (operation : Operation) (master : Master) (octets : List UInt8) : Prop :=
  match operation with
  | .requestEvent => UnusableEvent octets
  | _ => UnusableReply master.geometry.odWidth octets

/-- The operation sends frames with a damaged checksum. -/
def Operation.damages : Operation → Bool
  | damagedCycle .. | injectFaults _ => true
  | _ => false

namespace Master

open Master.Action Isdu

variable {α : Type} {master : Master}

theorem missing_of_responseTo {reply : Option (List UInt8)} {odWidth : Nat}
    (h : master.responseTo reply = .missing odWidth) : odWidth = master.geometry.odWidth := by
  have hdecoded : master.decoded reply = .missing master.geometry.odWidth ∨
      ∃ received, master.decoded reply = .received received := by
    rcases reply with _ | octets
    · exact .inl rfl
    · simp only [decoded, Response.decode]
      cases Reply.decode? master.geometry.odWidth octets with
      | none => exact .inl rfl
      | some received => exact .inr ⟨received, rfl⟩
  rcases hdecoded with hdecoded | ⟨received, hdecoded⟩
  · rw [responseTo, hdecoded, checked] at h
    simp [Response.verdict] at h
    exact h.symm
  · rw [responseTo, hdecoded, checked] at h
    split at h
    · split at h
      · cases h
        rfl
      · cases h
      · cases h
    · cases h

/-- A response that is there was received with a right checksum. -/
theorem eq_of_responseTo (h : master.settings.enforceChecksum) {reply : Option (List UInt8)}
    {received : Reply} (hresponse : master.responseTo reply = .received received) :
    reply = some (Checksum.attach received.body) ∧
      received.octets = Checksum.attach received.body ∧
      (Response.decode master.geometry.odWidth (Checksum.attach received.body)).isValid := by
  rw [responseTo, checked, if_pos h] at hresponse
  rcases reply with _ | octets
  · cases hresponse
  simp only [decoded] at hresponse
  have hdecode : Response.decode master.geometry.odWidth octets = .received received := by
    split at hresponse
    · cases hresponse
    · exact hresponse
    · exact hresponse
  have hverdict : Checksum.of received.body = received.checksum := by
    by_cases hsum : Checksum.of received.body = received.checksum
    · exact hsum
    · simp [hdecode, Response.verdict, hsum] at hresponse
  have hvalid : (Response.decode master.geometry.odWidth octets).isValid := by rw [hdecode]; rfl
  have hoctets : received.octets = octets := by
    have hkeep := Response.octets_of_isValid hvalid
    rwa [hdecode] at hkeep
  have hattach : octets = Checksum.attach received.body := by
    rw [← hoctets, Reply.octets, Checksum.attach, hverdict]
  rw [← hattach]
  exact ⟨rfl, hoctets, hvalid⟩

/-- A reply of no use counts as a missing one. -/
theorem responseTo_of_unusable (h : master.settings.enforceChecksum) {octets : List UInt8}
    (hbad : UnusableReply master.geometry.odWidth octets) :
    master.responseTo (some octets) = master.responseTo none := by
  rw [responseTo_none]
  cases hresponse : master.responseTo (some octets) with
  | missing odWidth => rw [missing_of_responseTo hresponse]
  | received received =>
    obtain ⟨heq, -, hvalid⟩ := eq_of_responseTo h hresponse
    obtain rfl : octets = Checksum.attach received.body := Option.some.inj heq
    rcases hbad with hbad | hbad
    · exact absurd hvalid hbad
    · simp [Checksum.attach] at hbad

theorem eventIn_of_unusable (h : master.settings.enforceChecksum) {octets : List UInt8}
    (hbad : UnusableEvent octets) : master.eventIn (some octets) = none := by
  unfold eventIn
  split
  · next upper lower status checksum heq =>
    cases heq
    rw [if_pos]
    refine ⟨h, fun hsum => ?_⟩
    simp [UnusableEvent, hsum] at hbad
  · rfl

/-! ### Actions -/

/-- The master checks replies, and its session has on-request data of the given width. -/
def Checks (master : Master) (odWidth : Nat) : Prop :=
  master.settings.enforceChecksum ∧ master.geometry.odWidth = odWidth

theorem Checks.enter {odWidth : Nat} (h : master.Checks odWidth) (state : ConnectionState) :
    (master.enter state).Checks odWidth := h

theorem Checks.of_entered {odWidth : Nat} (h : master.Checks odWidth) {target : Master}
    (htarget : master.Entered target) : target.Checks odWidth := by
  obtain ⟨state, rfl⟩ := htarget
  exact h.enter state

/-- The dialogue takes the bad replies for missing ones, and leaves a master that checks replies. -/
def Ignores (odWidth : Nat) (bad : List UInt8 → Prop)
    (dialogue : Dialogue (Except MasterError α × Master)) : Prop :=
  dialogue.Tolerates bad fun outcome => outcome.2.Checks odWidth

section Ignores

variable {odWidth : Nat} {bad : List UInt8 → Prop}

theorem ignores_roundTrip (h : master.Checks odWidth) {frame : List UInt8} {count timeout : Nat}
    {next : Option (List UInt8) → Dialogue (Except MasterError α × Master)}
    (hbad : ∀ octets, bad octets → next (some octets) = next none)
    (hnext : ∀ reply, Ignores odWidth bad (next reply)) :
    Ignores odWidth bad (roundTrip master frame count timeout next) := by
  rintro (failure | _)
  · exact h
  · refine ⟨hbad, ?_⟩
    rintro (failure | reply)
    · exact h
    · exact hnext reply

theorem ignores_announce (h : master.Checks odWidth) {command : Command}
    {next : Dialogue (Except MasterError α × Master)} (hnext : Ignores odWidth bad next) :
    Ignores odWidth bad (announce master command next) := by
  rintro (failure | _)
  · exact h
  · rintro (failure | _)
    · exact h
    · exact hnext

theorem Ignores.bind {β : Type} {action : Action α} {f : α → Action β}
    (h : Ignores odWidth bad (action.wire master))
    (hf : ∀ value target, target.Checks odWidth → Ignores odWidth bad ((f value).wire target)) :
    Ignores odWidth bad (wire (action >>= f) master) := by
  rw [wire_bind]
  refine Dialogue.Tolerates.bind h fun ⟨result, target⟩ htarget => ?_
  rcases result with error | value
  · exact htarget
  · exact hf value target htarget

/-- What looks at a reply only through the response to it ignores replies of no use. -/
theorem ignores_of_response (h : master.Checks odWidth) {frame : List UInt8} {count timeout : Nat}
    {next : Option (List UInt8) → Dialogue (Except MasterError α × Master)}
    (hresponse : ∀ {reply other}, master.responseTo reply = master.responseTo other →
      next reply = next other)
    (hnext : ∀ reply, Ignores odWidth (UnusableReply odWidth) (next reply)) :
    Ignores odWidth (UnusableReply odWidth) (roundTrip master frame count timeout next) := by
  apply ignores_roundTrip h
  · intro octets hbad
    exact hresponse (responseTo_of_unusable h.1 (h.2 ▸ hbad))
  · exact hnext

theorem ignores_wakeUp (h : master.Checks odWidth) : Ignores odWidth bad (wire wakeUp master) := by
  rw [wakeUp, wire_sendFrame]
  rintro (failure | _)
  · exact h
  · exact h

theorem ignores_probe (h : master.Checks odWidth) :
    Ignores odWidth (UnusableReply odWidth) (wire probe master) := by
  rw [wire_probe]
  exact ignores_of_response h (fun heq => by rw [heq]) fun _ => h

theorem ignores_probeUntilValid (h : master.Checks odWidth) (attempts left : Nat) :
    Ignores odWidth (UnusableReply odWidth) (wire (probeUntilValid attempts left) master) := by
  induction left with
  | zero =>
    rw [wire_probeUntilValid_zero]
    exact h
  | succ left ih =>
    rw [wire_probeUntilValid_succ]
    refine ignores_of_response h (fun heq => by simp only [heq]) fun reply => ?_
    split
    · exact h.enter _
    · exact ih

theorem ignores_startUp (h : master.Checks odWidth) :
    Ignores odWidth (UnusableReply odWidth) (wire startUp master) := by
  rw [wire_startUp]
  exact ignores_announce h (ignores_probeUntilValid h _ _)

theorem ignores_cycleWith (h : master.Checks odWidth) (processData : List UInt8)
    (od : OnRequestData) :
    Ignores odWidth (UnusableReply odWidth) (wire (cycleWith processData od) master) := by
  by_cases hstate : master.state = .startup
  · rw [wire_cycleWith_of_startup master hstate]
    exact h
  by_cases hwidth : master.geometry.isCyclic → od.width = master.geometry.odWidth
  · rw [wire_cycleWith master hstate _ hwidth]
    exact ignores_of_response h (fun heq => by rw [heq])
      fun reply => h.of_entered (entered_confirm _ _)
  · obtain ⟨hcyclic, hwidth⟩ := Classical.not_imp.mp hwidth
    rw [wire_cycleWith_of_width master hstate hcyclic _ hwidth]
    exact h

theorem ignores_cycle (h : master.Checks odWidth) (processData : List UInt8) (octet : UInt8) :
    Ignores odWidth (UnusableReply odWidth) (wire (cycle processData octet) master) := by
  rw [wire_cycle_eq]
  exact ignores_cycleWith h _ _

theorem ignores_enterOperate (h : master.Checks odWidth) :
    Ignores odWidth (UnusableReply odWidth) (wire enterOperate master) := by
  by_cases hstate : master.state = .preoperate
  · rw [wire_enterOperate _ hstate]
    refine ignores_announce h (ignores_of_response (h.enter .established) ?_ fun reply => ?_)
    · intro reply other heq
      rw [responseTo_enter] at heq
      simp only [heq]
    split
    · exact h.enter _
    · exact h.enter _
  · rw [wire_enterOperate_of_state _ hstate]
    exact h

theorem ignores_requestEvent (h : master.Checks odWidth) :
    Ignores odWidth UnusableEvent (wire requestEvent master) := by
  by_cases hstate : master.state = .startup
  · rw [wire_requestEvent_of_startup master hstate]
    exact h
  · rw [wire_requestEvent master hstate]
    apply ignores_roundTrip h
    · intro octets hbad
      rw [eventIn_of_unusable h.1 hbad]
      rfl
    · intro reply
      exact h

theorem ignores_transferOctet (h : master.Checks odWidth) (target : Target) (octet : UInt8) :
    Ignores odWidth (UnusableReply odWidth) (wire (transferOctet target octet) master) := by
  by_cases hstate : master.state = .startup
  · rw [wire_transferOctet_of_startup master hstate]
    exact h
  · rw [wire_transferOctet master hstate]
    refine ignores_of_response h (fun heq => by simp only [heq]) fun reply => ?_
    split
    · exact h.of_entered (entered_advance _ _)
    · exact h

theorem ignores_sendOctets (h : master.Checks odWidth) (target : Target) (answer : UInt8)
    (octets : List UInt8) :
    Ignores odWidth (UnusableReply odWidth) (wire (sendOctets target answer octets) master) := by
  induction octets generalizing answer master with
  | nil => exact h
  | cons octet rest ih =>
    exact Ignores.bind (ignores_transferOctet h target octet) fun answer _ htarget =>
      ih htarget answer

theorem ignores_listen {ρ : Type} [Receiver ρ α] (h : master.Checks odWidth) (target : Target)
    (receiver : ρ) (octet : UInt8) :
    Ignores odWidth (UnusableReply odWidth)
      (wire (listen target receiver octet : Action α) master) := by
  induction receiver, octet using Receiver.feed_induction generalizing master with
  | done receiver octet result hfeed =>
    rw [wire_listen_of_done master target hfeed]
    exact h
  | needData receiver octet next hfeed ih =>
    rw [listen_of_needData target hfeed]
    exact Ignores.bind (ignores_transferOctet h target 0) fun answer _ htarget =>
      ih answer htarget

theorem ignores_transfer {ρ : Type} [Receiver ρ α] (h : master.Checks odWidth)
    (request : Request) (receiver : ρ) :
    Ignores odWidth (UnusableReply odWidth)
      (wire (transfer request receiver : Action α) master) :=
  Ignores.bind (ignores_sendOctets h request.target 0 request.odOctets) fun answer _ htarget =>
    ignores_listen htarget request.target receiver answer

end Ignores

/-! ### Operations -/

/-- Giving back something else looks at no reply. -/
theorem tolerates_bind_pure {β : Type} {bad : List UInt8 → Prop} {action : Action α} {f : α → β}
    (h : (action.wire master).Tolerates bad fun _ => True) :
    (wire (action >>= fun value => pure (f value)) master).Tolerates bad fun _ => True := by
  rw [wire_bind]
  refine h.bind fun ⟨result, target⟩ _ => ?_
  rcases result with error | value
  · trivial
  · trivial

/-- An operation that does not damage its frames takes replies of no use for missing ones. -/
theorem tolerates_action (h : master.settings.enforceChecksum) {operation : Operation}
    (hop : operation.damages = false) :
    (operation.action.wire master).Tolerates (operation.Unusable master) fun _ => True := by
  have hchecks : master.Checks master.geometry.odWidth := ⟨h, rfl⟩
  have hignores {α : Type} {bad : List UInt8 → Prop} {action : Action α} {f : α → Outcome}
      (h : Ignores master.geometry.odWidth bad (action.wire master)) :
      (wire (action >>= fun value => pure (f value)) master).Tolerates bad fun _ => True :=
    tolerates_bind_pure (h.mono fun _ _ => trivial)
  cases operation with
  | wakeUp => exact hignores (ignores_wakeUp hchecks)
  | probe => exact hignores (ignores_probe hchecks)
  | startUp => exact hignores (ignores_startUp hchecks)
  | enterOperate => exact hignores (ignores_enterOperate hchecks)
  | cycle processData octet => exact hignores (ignores_cycle hchecks processData octet)
  | cycleWith processData od => exact hignores (ignores_cycleWith hchecks processData od)
  | requestEvent => exact hignores (ignores_requestEvent hchecks)
  | readParameter index subindex =>
    refine hignores ?_
    rw [wire_readParameter]
    exact ignores_transfer hchecks _ _
  | writeParameter index subindex data =>
    refine hignores ?_
    by_cases hlength : data.length ≤ Isdu.maxWriteLength
    · rw [wire_writeParameter _ _ _ hlength]
      exact Ignores.bind (ignores_transfer hchecks _ _) fun _ _ htarget => htarget
    · rw [wire_writeParameter_of_lt _ _ _ (Nat.not_le.mp hlength)]
      exact hchecks
  | resize inputLength outputLength =>
    refine tolerates_bind_pure ?_
    rw [wire_resize]
    split <;> trivial
  | reconfigure geometry =>
    refine tolerates_bind_pure ?_
    rw [wire_reconfigure, wire_resize]
    split
    · trivial
    split
    · split <;> trivial
    split <;> trivial
  | switchPhyMode mode =>
    refine tolerates_bind_pure ?_
    rw [wire_switchPhyMode]
    split <;> trivial
  | selectBaudRate name =>
    refine tolerates_bind_pure ?_
    rw [wire_selectBaudRate]
    split <;> trivial
  | useBaudRate rate =>
    refine tolerates_bind_pure ?_
    rw [wire_useBaudRate]
    trivial
  | damagedCycle | injectFaults => cases hop

end Master

/-! ### Sessions -/

/-- What there is to a step but the replies and the log. -/
structure Observation where
  source : Master
  operation : Operation
  calls : List Call
  result : Except MasterError Outcome
  target : Master

def Step.observation (step : Step) : Observation :=
  ⟨step.source, step.operation, step.traffic.map Event.call, step.result, step.target⟩

/-- Only replies of no use are lost in the steps. -/
def LosesUnusable : List Step → List Bool → Prop
  | [], _ => True
  | step :: steps, lost =>
    (∀ octets, (some octets, true) ∈ step.replies.zip lost →
      step.operation.Unusable step.source octets) ∧
      LosesUnusable steps (lost.drop step.replies.length)

section Lossy

variable {σ : Type} [Transport σ]

/-- An operation does not see the loss of replies of no use. -/
theorem Operation.step_lossy {operation : Operation} (hop : operation.damages = false)
    {master : Master} (h : master.settings.enforceChecksum) {line : σ} {lost : List Bool}
    (hlost : ∀ octets, (some octets, true) ∈ (operation.step master line).1.replies.zip lost →
      operation.Unusable master octets) :
    (operation.step master (⟨line, lost⟩ : Lossy σ)).1.observation =
        (operation.step master line).1.observation ∧
      (operation.step master (⟨line, lost⟩ : Lossy σ)).2 =
        ⟨(operation.step master line).2,
          lost.drop (operation.step master line).1.replies.length⟩ := by
  have hrun := Dialogue.run_wire (operation.perform master) line
  have hrun' := Dialogue.run_wire (operation.perform master) (⟨line, lost⟩ : Lossy σ)
  have hunharmed : (operation.perform master).wire.Unharmed line lost := by
    refine Dialogue.run_lossy (Master.tolerates_action h hop) ?_
    intro octets hmem
    apply hlost octets
    rw [hrun, repliesIn_traffic] at hmem
    exact hmem
  obtain ⟨hvalue, hline, hcalls⟩ := hunharmed
  rw [hrun, hrun'] at hvalue hline hcalls
  rw [repliesIn_traffic] at hline
  refine ⟨?_, hline⟩
  simp only [Step.observation, Operation.step, Step.traffic] 
  rw [hvalue, hcalls]

/-- A session does not see the loss of replies of no use. -/
theorem Master.steps_lossy_of_checks {master : Master} (h : master.settings.enforceChecksum)
    {operations : List Operation} (hops : ∀ operation ∈ operations, operation.damages = false)
    {line : σ} {lost : List Bool} (hlost : LosesUnusable (master.steps line operations).1 lost) :
    (master.steps (⟨line, lost⟩ : Lossy σ) operations).1.map Step.observation =
        (master.steps line operations).1.map Step.observation ∧
      (master.steps (⟨line, lost⟩ : Lossy σ) operations).2.1 =
        (master.steps line operations).2.1 ∧
      (master.steps (⟨line, lost⟩ : Lossy σ) operations).2.2.line =
        (master.steps line operations).2.2 := by
  induction operations generalizing master line lost with
  | nil => exact ⟨rfl, rfl, rfl⟩
  | cons operation rest ih =>
    rw [steps_cons] at hlost
    obtain ⟨hhead, htail⟩ := hlost
    obtain ⟨hstep, hline⟩ := operation.step_lossy (hops operation (List.mem_cons_self ..)) h hhead
    have htarget : (operation.step master (⟨line, lost⟩ : Lossy σ)).1.target =
        (operation.step master line).1.target := congrArg Observation.target hstep
    have hsettings : (operation.step master line).1.target.settings.enforceChecksum := by
      rw [(operation.step master line).1.target_settings]
      exact h
    have hrest : ∀ operation ∈ rest, operation.damages = false :=
      fun other hmem => hops other (List.mem_cons_of_mem operation hmem)
    obtain ⟨hsteps, hend, hends⟩ := ih hsettings hrest htail
    rw [steps_cons, steps_cons, hline, htarget, List.map_cons, List.map_cons, hstep, hsteps]
    exact ⟨rfl, hend, hends⟩

end Lossy

/-! ### Valid responses -/

namespace Master

open Master.Action

variable {master : Master} {events : List Event} {response : Response} {target : Master}

/-- A valid response of a round trip has the octets of the reply, which end in their checksum. -/
theorem octets_of_path_roundTrip (h : master.settings.enforceChecksum) {frame : List UInt8}
    {count timeout : Nat} (next : Response → Master)
    (path : (roundTrip master frame count timeout fun reply =>
      .done (.ok (master.responseTo reply), next (master.responseTo reply))).Path events
        (.ok response, target)) (hvalid : response.isValid) :
    ∃ body, some (Checksum.attach body) ∈ repliesIn events ∧
      response.octets = Checksum.attach body := by
  obtain ⟨failure, -, hend⟩ | ⟨failure, -, hend⟩ | ⟨reply, rest, hrest, rfl⟩ :=
    path_roundTrip_iff.mp path
  · cases hend
  · cases hend
  obtain ⟨rfl, hend⟩ := Dialogue.path_done_iff.mp hrest
  obtain ⟨hresponse, -⟩ := Prod.mk.inj hend
  cases Except.ok.inj hresponse
  cases hreceived : master.responseTo reply with
  | missing odWidth =>
    rw [hreceived] at hvalid
    cases hvalid
  | received received =>
    obtain ⟨hreply, hoctets, -⟩ := eq_of_responseTo h hreceived
    refine ⟨received.body, ?_, hoctets⟩
    rw [hreply]
    simp [repliesIn, Event.reply?]

theorem octets_of_path_probe (h : master.settings.enforceChecksum)
    (path : (wire probe master).Path events (.ok response, target)) (hvalid : response.isValid) :
    ∃ body, some (Checksum.attach body) ∈ repliesIn events ∧
      response.octets = Checksum.attach body := by
  rw [wire_probe] at path
  exact octets_of_path_roundTrip h (fun _ => master) path hvalid

theorem octets_of_path_cycleWith (h : master.settings.enforceChecksum) {processData : List UInt8}
    {od : OnRequestData}
    (path : (wire (cycleWith processData od) master).Path events (.ok response, target))
    (hvalid : response.isValid) :
    ∃ body, some (Checksum.attach body) ∈ repliesIn events ∧
      response.octets = Checksum.attach body := by
  by_cases hstate : master.state = .startup
  · rw [wire_cycleWith_of_startup master hstate] at path
    cases (Dialogue.path_done_iff.mp path).2
    cases hvalid
  by_cases hwidth : master.geometry.isCyclic → od.width = master.geometry.odWidth
  · rw [wire_cycleWith master hstate _ hwidth] at path
    exact octets_of_path_roundTrip h master.confirm path hvalid
  · obtain ⟨hcyclic, hwidth⟩ := Classical.not_imp.mp hwidth
    rw [wire_cycleWith_of_width master hstate hcyclic _ hwidth] at path
    cases (Dialogue.path_done_iff.mp path).2

end Master

namespace Step

open Master Master.Action

/-- A valid response that a step gives back has the octets of a reply with a right checksum. -/
theorem octets_of_isValid {step : Step} (hop : step.operation.damages = false)
    (h : step.source.settings.enforceChecksum) {response : Response}
    (hresult : step.result = .ok (.response response)) (hvalid : response.isValid) :
    ∃ body, some (Checksum.attach body) ∈ step.replies ∧
      response.octets = Checksum.attach body := by
  rw [step.replies_eq]
  have hinner (action : Action Response)
      (h : step.operation.action = action >>= fun response => pure (.response response)) :
      (action.wire step.source).Path step.traffic (.ok response, step.target) := by
    obtain ⟨inner, path, heq⟩ := exists_inner action h
    rw [hresult] at heq
    rcases inner with error | other
    · cases heq
    · cases heq
      exact path
  have hother {α : Type} {action : Action α} {f : α → Outcome}
      (h : step.operation.action = action >>= fun value => pure (f value)) :
      ∃ value, f value = .response response := by
    obtain ⟨inner, -, heq⟩ := exists_inner action h
    rw [hresult] at heq
    rcases inner with error | value
    · cases heq
    · exact ⟨value, (Except.ok.inj heq).symm⟩
  cases hstep : step.operation with
  | probe => exact octets_of_path_probe h (hinner probe (by rw [hstep]; rfl)) hvalid
  | cycle processData octet =>
    have path := hinner (cycle processData octet) (by rw [hstep]; rfl)
    rw [wire_cycle_eq] at path
    exact octets_of_path_cycleWith h path hvalid
  | cycleWith processData od =>
    exact octets_of_path_cycleWith h (hinner (cycleWith processData od) (by rw [hstep]; rfl)) hvalid
  | damagedCycle | injectFaults =>
    rw [hstep] at hop
    cases hop
  | _ =>
    obtain ⟨value, heq⟩ := hother (by rw [hstep]; exact rfl)
    cases heq

end Step

/-- With checked replies a damaged reply is the same as a lost one: a line that loses replies of no
use changes nothing but these about a session, whatever the line does otherwise. Every valid
response in it has the octets of a reply that ends in its checksum. -/
theorem Master.steps_lossy {σ : Type} [Transport σ] {geometry : Geometry} {settings : Settings}
    (h : settings.enforceChecksum) {operations : List Operation}
    (hops : ∀ operation ∈ operations, operation.damages = false) (line : σ) {lost : List Bool}
    (hlost : LosesUnusable ((Master.new geometry settings).steps line operations).1 lost) :
    let plain := (Master.new geometry settings).steps line operations
    let lossy := (Master.new geometry settings).steps (⟨line, lost⟩ : Lossy σ) operations
    lossy.1.map Step.observation = plain.1.map Step.observation ∧ lossy.2.1 = plain.2.1 ∧
      lossy.2.2.line = plain.2.2 ∧
      ∀ step ∈ plain.1, ∀ response, step.result = .ok (.response response) → response.isValid →
        ∃ body, some (Checksum.attach body) ∈ step.replies ∧
          response.octets = Checksum.attach body := by
  intro plain lossy
  obtain ⟨hsteps, htarget, hline⟩ := steps_lossy_of_checks h hops hlost
  refine ⟨hsteps, htarget, hline, fun step hmem response hresult hvalid => ?_⟩
  have hop : step.operation.damages = false := by
    apply hops
    rw [← map_operation_steps (Master.new geometry settings) line operations]
    exact List.mem_map_of_mem hmem
  have hchecked : step.source.settings.enforceChecksum := by
    rw [(run_steps (Master.new geometry settings) line operations).source_settings step hmem]
    exact h
  exact Step.octets_of_isValid hop hchecked hresult hvalid

/-- The first probe gets a damaged reply, and it may as well be lost. -/
theorem Master.steps_lossy_of_damaged_probe :
    let line : Script := { replies := [.octets [0, 0xFF], .octets (Checksum.attach [0])] }
    let plain := (Master.new .type0).steps line [.startUp]
    let lossy := (Master.new .type0).steps (⟨line, [true]⟩ : Lossy Script) [.startUp]
    LosesUnusable plain.1 [true] ∧ plain.2.1.state = .preoperate ∧
      lossy.1.map Step.observation = plain.1.map Step.observation := by
  intro line plain lossy
  have hreplies : plain.1.map Step.replies = [[some [0, 0xFF], some (Checksum.attach [0])]] := by
    decide
  have hlost : LosesUnusable plain.1 [true] := by
    refine ⟨fun octets hmem => ?_, trivial⟩
    rw [(List.cons.inj hreplies).1] at hmem
    obtain rfl : octets = [0, 0xFF] := by simpa using hmem
    right
    decide
  exact ⟨hlost, by decide, (steps_lossy rfl (by decide) line hlost).1⟩

end Sdci
