import Sdci.Proofs.Master.Connection

/-!
# Every operation is a conversation

Seen from the line, an operation makes no call, sends one command, or makes round trips, some of
them behind an announcement (`Operation.onLine`). Which round trips these are follows from the
operation and the master that it starts with (`Operation.Exchanges`). What holds of every
conversation holds of every operation.
-/

namespace Sdci

/-! ### The exchanges of an operation -/

namespace Operation

/-- The command that an operation gives before it drops what has come in. -/
def announcement? : Operation → Option Command
  | startUp => some .wakeUp
  | enterOperate => some .operate
  | _ => none

/-- The exchanges that an operation of a master makes: the frame, and the length of the reply and
the time limit that it asks for. -/
def Exchanges (operation : Operation) (master : Master) (frame : List UInt8)
    (count timeout : Nat) : Prop :=
  match operation with
  | probe | startUp =>
    frame = Frame.plain Command.idle.octet 0 ∧ count = 2 ∧ timeout = master.settings.idleTimeout
  | enterOperate =>
    frame = master.cycleFrame [] (.ofFirst master.geometry.odWidth 0) ∧
      count = master.geometry.responseLength ∧ timeout = master.cycleLimit
  | cycle processData octet =>
    frame = master.cycleFrame processData (.ofFirst master.geometry.odWidth octet) ∧
      count = master.geometry.responseLength ∧ timeout = master.cycleLimit
  | cycleWith processData od =>
    (master.geometry.isCyclic → od.width = master.geometry.odWidth) ∧
      frame = master.cycleFrame processData od ∧
      count = master.geometry.responseLength ∧ timeout = master.cycleLimit
  | damagedCycle processData octet =>
    frame = Frame.damage
        (master.cycleFrame processData (.ofFirst master.geometry.odWidth octet)) ∧
      count = master.geometry.responseLength ∧ timeout = master.settings.faultTimeout
  | injectFaults _ =>
    frame = Frame.damage (master.cycleFrame [] (.ofFirst master.geometry.odWidth 0)) ∧
      count = master.geometry.responseLength ∧ timeout = master.settings.faultTimeout
  | requestEvent =>
    frame = Frame.plain Command.event.octet 0 ∧ count = 4 ∧ timeout = master.settings.eventTimeout
  | readParameter .. | writeParameter .. =>
    (∃ octet, frame = master.octetFrame octet) ∧ count = master.geometry.responseLength ∧
      timeout = master.octetTimeout
  | wakeUp | resize .. | reconfigure _ | switchPhyMode _ | selectBaudRate _ | useBaudRate _ => False

end Operation

namespace Master

open Master.Action Isdu

variable {α β : Type} {allowed : List UInt8 → Nat → Nat → Prop} {master : Master}

/-! ### Conversations -/

/-- Round trips one behind the other, all of an allowed kind. None of them changes anything about
the master but its state, and they never end in the failure of a call that did not fail. -/
inductive Conversation (allowed : List UInt8 → Nat → Nat → Prop) (origin : Master) :
    Dialogue (Except MasterError α × Master) → Prop
  | done {result : Except MasterError α} {target : Master}
    (hresult : ∀ failure, result ≠ .error (.transport failure)) (htarget : origin.Entered target) :
    Conversation allowed origin (.done (result, target))
  | roundTrip {master : Master} {frame : List UInt8} {count timeout : Nat}
    {next : Option (List UInt8) → Dialogue (Except MasterError α × Master)}
    (hallowed : allowed frame count timeout) (hmaster : origin.Entered master)
    (hnext : ∀ reply, Conversation allowed origin (next reply)) :
    Conversation allowed origin (roundTrip master frame count timeout next)

theorem Conversation.ok {origin target : Master} (value : α) (htarget : origin.Entered target) :
    Conversation allowed origin (.done (.ok value, target)) :=
  .done (fun _ => nofun) htarget

theorem Conversation.bind {origin : Master} {dialogue : Dialogue (Except MasterError α × Master)}
    {f : α → Action β} (h : Conversation allowed origin dialogue)
    (hf : ∀ value target, origin.Entered target →
      Conversation allowed origin ((f value).wire target)) :
    Conversation allowed origin (dialogue.bind (andThen f)) := by
  induction h with
  | @done result target hresult htarget =>
    rcases result with error | value
    · refine .done (fun failure heq => ?_) htarget
      cases heq
      exact hresult failure rfl
    · exact hf value target htarget
  | roundTrip hallowed hmaster hnext ih =>
    rw [roundTrip_bind]
    exact .roundTrip hallowed hmaster ih

/-- Giving back something else is part of the conversation. -/
theorem Conversation.bind_pure {origin : Master}
    {dialogue : Dialogue (Except MasterError α × Master)} {f : α → β}
    (h : Conversation allowed origin dialogue) :
    Conversation allowed origin (dialogue.bind (andThen fun value => pure (f value))) :=
  h.bind fun _ _ htarget => .ok _ htarget

theorem announce_bind {command : Command} {next : Dialogue (Except MasterError α × Master)}
    (f : α → Action β) :
    (announce master command next).bind (andThen f) =
      announce master command (next.bind (andThen f)) := by
  simp only [announce, Dialogue.ask_bind, orFail_bind]

/-- The dialogue makes no call, and so it does not end in the failure of one. -/
def Silent (dialogue : Dialogue (Except MasterError α × Master)) : Prop :=
  ∃ result target, dialogue = .done (result, target) ∧
    ∀ failure, result ≠ .error (.transport failure)

theorem Silent.ok (value : α) (target : Master) :
    Silent (.done (.ok value, target) : Dialogue (Except MasterError α × Master)) :=
  ⟨_, _, rfl, fun _ => nofun⟩

theorem Silent.error {error : MasterError} {target : Master}
    (h : ∀ failure, error ≠ .transport failure) :
    Silent (.done (.error error, target) : Dialogue (Except MasterError α × Master)) :=
  ⟨_, _, rfl, fun failure heq => h failure (Except.error.inj heq)⟩

theorem Silent.bind_pure {dialogue : Dialogue (Except MasterError α × Master)} {f : α → β}
    (h : Silent dialogue) : Silent (dialogue.bind (andThen fun value => pure (f value))) := by
  obtain ⟨error | value, target, rfl, hresult⟩ := h
  · exact .error fun failure heq => hresult failure (congrArg _ heq)
  · exact .ok _ _

/-! ### Actions -/

theorem conversation_probe
    (h : allowed (Frame.plain Command.idle.octet 0) 2 master.settings.idleTimeout) :
    Conversation allowed master (wire probe master) := by
  rw [wire_probe]
  exact .roundTrip h (.refl _) fun _ => .ok _ (.refl _)

theorem conversation_probeUntilValid
    (h : allowed (Frame.plain Command.idle.octet 0) 2 master.settings.idleTimeout)
    (attempts left : Nat) :
    Conversation allowed master (wire (probeUntilValid attempts left) master) := by
  induction left with
  | zero =>
    rw [wire_probeUntilValid_zero]
    exact .done (fun _ => nofun) (.refl _)
  | succ left ih =>
    rw [wire_probeUntilValid_succ]
    refine .roundTrip h (.refl _) fun reply => ?_
    split
    · exact .ok _ ⟨_, rfl⟩
    · exact ih

/-- The confirming cycle of a transition to operate. -/
theorem conversation_confirmation
    (h : allowed (master.cycleFrame [] (.ofFirst master.geometry.odWidth 0))
      master.geometry.responseLength master.cycleLimit) :
    Conversation allowed master
      (roundTrip (master.enter .established)
        (master.cycleFrame [] (.ofFirst master.geometry.odWidth 0))
        master.geometry.responseLength master.cycleLimit fun reply =>
          if (master.responseTo reply).isValid then
            .done (.ok (), master.enter .operate)
          else
            .done (.error .notConfirmed, master.enter .established)) := by
  refine .roundTrip h ⟨_, rfl⟩ fun reply => ?_
  split
  · exact .ok _ ⟨_, rfl⟩
  · exact .done (fun _ => nofun) ⟨_, rfl⟩

theorem conversation_cycleWith {processData : List UInt8} {od : OnRequestData}
    (h : (master.geometry.isCyclic → od.width = master.geometry.odWidth) →
      allowed (master.cycleFrame processData od) master.geometry.responseLength
        master.cycleLimit) :
    Conversation allowed master (wire (cycleWith processData od) master) := by
  by_cases hstate : master.state = .startup
  · rw [wire_cycleWith_of_startup master hstate]
    exact .ok _ (.refl _)
  by_cases hwidth : master.geometry.isCyclic → od.width = master.geometry.odWidth
  · rw [wire_cycleWith master hstate _ hwidth]
    exact .roundTrip (h hwidth) (.refl _) fun _ => .ok _ (entered_confirm _ _)
  · obtain ⟨hcyclic, hne⟩ := Classical.not_imp.mp hwidth
    rw [wire_cycleWith_of_width master hstate hcyclic _ hne]
    exact .done (fun _ => nofun) (.refl _)

theorem conversation_cycle {processData : List UInt8} {octet : UInt8}
    (h : allowed (master.cycleFrame processData (.ofFirst master.geometry.odWidth octet))
      master.geometry.responseLength master.cycleLimit) :
    Conversation allowed master (wire (cycle processData octet) master) := by
  rw [wire_cycle_eq]
  exact conversation_cycleWith fun _ => h

theorem conversation_damagedCycle {processData : List UInt8} {octet : UInt8}
    (h : allowed
      (Frame.damage (master.cycleFrame processData (.ofFirst master.geometry.odWidth octet)))
      master.geometry.responseLength master.settings.faultTimeout) :
    Conversation allowed master (wire (damagedCycle processData octet) master) := by
  rw [wire_damagedCycle]
  exact .roundTrip h (.refl _) fun _ => .ok _ (.refl _)

theorem conversation_countAnswered
    (h : allowed (Frame.damage (master.cycleFrame [] (.ofFirst master.geometry.odWidth 0)))
      master.geometry.responseLength master.settings.faultTimeout) (answered count : Nat) :
    Conversation allowed master (wire (countAnswered answered count) master) := by
  induction count generalizing answered with
  | zero => exact .ok _ (.refl _)
  | succ count ih =>
    rw [wire_countAnswered_succ]
    exact .roundTrip h (.refl _) fun _ => ih _

theorem conversation_injectFaults
    (h : allowed (Frame.damage (master.cycleFrame [] (.ofFirst master.geometry.odWidth 0)))
      master.geometry.responseLength master.settings.faultTimeout) (count : Nat) :
    Conversation allowed master (wire (injectFaults count) master) := by
  rw [injectFaults, wire_bind, wire_note, Dialogue.done_bind, andThen_ok, wire_bind]
  refine (conversation_countAnswered h 0 count).bind fun answered target htarget => ?_
  by_cases hpos : answered > 0
  · simpa [hpos] using Conversation.ok answered htarget
  · simpa [hpos] using Conversation.ok answered htarget

theorem conversation_requestEvent
    (h : allowed (Frame.plain Command.event.octet 0) 4 master.settings.eventTimeout) :
    Conversation allowed master (wire requestEvent master) := by
  by_cases hstate : master.state = .startup
  · rw [wire_requestEvent_of_startup master hstate]
    exact .ok _ (.refl _)
  · rw [wire_requestEvent master hstate]
    exact .roundTrip h (.refl _) fun _ => .ok _ (.refl _)

/-! ### Transfers -/

theorem Entered.trans {origin target : Master} (h : origin.Entered master)
    (htarget : master.Entered target) : origin.Entered target := by
  obtain ⟨state, rfl⟩ := h
  obtain ⟨other, rfl⟩ := htarget
  exact ⟨other, rfl⟩

section Transfer

variable {origin : Master}
  (hallowed : ∀ octet, allowed (origin.octetFrame octet) origin.geometry.responseLength
    origin.octetTimeout)

include hallowed

theorem conversation_transferOctet (h : origin.Entered master) (target : Target) (octet : UInt8) :
    Conversation allowed origin (wire (transferOctet target octet) master) := by
  by_cases hstate : master.state = .startup
  · rw [wire_transferOctet_of_startup master hstate]
    exact .done (fun _ => nofun) h
  · rw [wire_transferOctet master hstate]
    have hframe : allowed (master.octetFrame octet) master.geometry.responseLength
        master.octetTimeout := by
      obtain ⟨state, rfl⟩ := h
      exact hallowed octet
    refine .roundTrip hframe h fun reply => ?_
    split
    · exact .ok _ (h.trans (entered_advance _ _))
    · exact .done (fun _ => nofun) h

theorem conversation_sendOctets (h : origin.Entered master) (target : Target) (answer : UInt8)
    (octets : List UInt8) :
    Conversation allowed origin (wire (sendOctets target answer octets) master) := by
  induction octets generalizing answer master with
  | nil => exact .ok _ h
  | cons octet rest ih =>
    rw [sendOctets, wire_bind]
    exact (conversation_transferOctet hallowed h target octet).bind fun answer _ hmiddle =>
      ih hmiddle answer

theorem conversation_listen {ρ : Type} [Receiver ρ α] (h : origin.Entered master) (target : Target)
    (receiver : ρ) (octet : UInt8) :
    Conversation allowed origin (wire (listen target receiver octet : Action α) master) := by
  induction receiver, octet using Receiver.feed_induction generalizing master with
  | done receiver octet result hfeed =>
    rw [wire_listen_of_done master target hfeed]
    refine .done (fun failure => ?_) h
    cases result <;> nofun
  | needData receiver octet next hfeed ih =>
    rw [listen_of_needData target hfeed, wire_bind]
    exact (conversation_transferOctet hallowed h target 0).bind fun answer _ hmiddle =>
      ih answer hmiddle

theorem conversation_transfer {ρ : Type} [Receiver ρ α] (h : origin.Entered master)
    (request : Request) (receiver : ρ) :
    Conversation allowed origin (wire (transfer request receiver : Action α) master) := by
  rw [transfer, wire_bind]
  exact (conversation_sendOctets hallowed h request.target 0 request.odOctets).bind
    fun answer _ hmiddle => conversation_listen hallowed hmiddle request.target receiver answer

end Transfer

/-! ### Settings -/

theorem silent_resize (inputLength outputLength : Nat) :
    Silent (wire (resize inputLength outputLength) master) := by
  rw [wire_resize]
  split
  · exact .ok _ _
  · exact .error nofun

theorem silent_reconfigure (geometry : Geometry) :
    Silent (wire (reconfigure geometry) master) := by
  rw [wire_reconfigure]
  split
  · exact .ok _ _
  split
  · exact silent_resize _ _
  split
  · exact .ok _ _
  · exact .error nofun

end Master

/-! ### Operations -/

namespace Operation

open Master Master.Action

/-- What an operation of a master is on the line. -/
inductive OnLine (operation : Operation) (master : Master) :
    Dialogue (Except MasterError Outcome × Master) → Prop
  | silent {dialogue : Dialogue (Except MasterError Outcome × Master)}
    (hdialogue : Silent dialogue) : OnLine operation master dialogue
  | command (hoperation : operation = .wakeUp) :
    OnLine operation master (.ask (.send (Frame.plain Command.wakeUp.octet 0))
      (orFail master fun _ => .done (.ok .nothing, master)))
  | announcement {command : Command} {next : Dialogue (Except MasterError Outcome × Master)}
    (hcommand : operation.announcement? = some command)
    (hnext : Conversation (operation.Exchanges master) master next) :
    OnLine operation master (announce master command next)
  | conversation {dialogue : Dialogue (Except MasterError Outcome × Master)}
    (hcommand : operation.announcement? = none)
    (hdialogue : Conversation (operation.Exchanges master) master dialogue) :
    OnLine operation master dialogue

/-- What configures a master makes no call. -/
theorem silent_of_configures {operation : Operation} (h : operation.configures = true)
    (master : Master) : Silent (operation.action.wire master) := by
  cases operation with
  | resize inputLength outputLength =>
    rw [action, wire_bind]
    exact (silent_resize inputLength outputLength).bind_pure
  | reconfigure geometry =>
    rw [action, wire_bind]
    exact (silent_reconfigure geometry).bind_pure
  | switchPhyMode mode =>
    rw [action, wire_bind, wire_switchPhyMode]
    apply Silent.bind_pure
    split
    · exact .ok _ _
    · exact .error nofun
  | selectBaudRate name =>
    rw [action, wire_bind, wire_selectBaudRate]
    apply Silent.bind_pure
    split
    · exact .ok _ _
    · exact .error nofun
  | useBaudRate rate =>
    rw [action, wire_bind, wire_useBaudRate]
    exact (Silent.ok _ _).bind_pure
  | _ => cases h

/-- Every operation is a conversation on the line, and some are announced. -/
theorem onLine (operation : Operation) (master : Master) :
    operation.OnLine master (operation.action.wire master) := by
  have htalk {α : Type} {action : Action α} {f : α → Outcome}
      (hcommand : operation.announcement? = none)
      (h : operation.action = action >>= fun value => pure (f value))
      (hconversation : Conversation (operation.Exchanges master) master (action.wire master)) :
      operation.OnLine master (operation.action.wire master) := by
    rw [h, wire_bind]
    exact .conversation hcommand hconversation.bind_pure
  cases operation with
  | wakeUp =>
    have hwire : wire (action .wakeUp) master =
        .ask (.send (Frame.plain Command.wakeUp.octet 0))
          (orFail master fun _ => .done (.ok .nothing, master)) := by
      simp [action, Master.wakeUp]
    rw [hwire]
    exact .command rfl
  | probe => exact htalk rfl rfl (conversation_probe ⟨rfl, rfl, rfl⟩)
  | startUp =>
    rw [action, wire_bind, wire_startUp, announce_bind]
    exact .announcement rfl (conversation_probeUntilValid ⟨rfl, rfl, rfl⟩ _ _).bind_pure
  | enterOperate =>
    by_cases hstate : master.state = .preoperate
    · rw [action, wire_bind, wire_enterOperate _ hstate, announce_bind]
      exact .announcement rfl (conversation_confirmation ⟨rfl, rfl, rfl⟩).bind_pure
    · rw [action, wire_bind, wire_enterOperate_of_state _ hstate]
      apply OnLine.silent
      apply Silent.bind_pure
      exact .error (by simp)
  | cycle processData octet => exact htalk rfl rfl (conversation_cycle ⟨rfl, rfl, rfl⟩)
  | cycleWith processData od =>
    exact htalk rfl rfl (conversation_cycleWith fun hwidth => ⟨hwidth, rfl, rfl, rfl⟩)
  | damagedCycle processData octet =>
    exact htalk rfl rfl (conversation_damagedCycle ⟨rfl, rfl, rfl⟩)
  | injectFaults count => exact htalk rfl rfl (conversation_injectFaults ⟨rfl, rfl, rfl⟩ count)
  | requestEvent => exact htalk rfl rfl (conversation_requestEvent ⟨rfl, rfl, rfl⟩)
  | readParameter index subindex =>
    apply htalk rfl rfl
    rw [wire_readParameter]
    exact conversation_transfer (fun octet => ⟨⟨octet, rfl⟩, rfl, rfl⟩) (.refl _) _ _
  | writeParameter index subindex data =>
    by_cases hlength : data.length ≤ Isdu.maxWriteLength
    · apply htalk rfl rfl
      rw [wire_writeParameter _ _ _ hlength, wire_bind]
      exact (conversation_transfer (fun octet => ⟨⟨octet, rfl⟩, rfl, rfl⟩) (.refl _) _ _).bind_pure
    · rw [action, wire_bind, wire_writeParameter_of_lt _ _ _ (Nat.not_le.mp hlength)]
      apply OnLine.silent
      apply Silent.bind_pure
      exact .error (by simp)
  | resize | reconfigure | switchPhyMode | selectBaudRate | useBaudRate =>
    exact .silent (silent_of_configures rfl master)

end Operation

namespace Step

variable {step : Step}

theorem traffic_of_configures (hop : step.operation.configures) : step.traffic = [] := by
  obtain ⟨result, target, hwire, -⟩ := Operation.silent_of_configures hop step.source
  exact (step.of_wire_eq_done hwire).1

/-- What makes a call changes the master in its state alone. -/
theorem entered_of_traffic (h : step.traffic ≠ []) : step.source.Entered step.target := by
  cases hop : step.operation.configures with
  | true => exact absurd (traffic_of_configures hop) h
  | false => exact target_entered hop

end Step

end Sdci
