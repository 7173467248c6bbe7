import Sdci.Proofs.Isdu.Feeding
import Sdci.Proofs.Master.Run

/-!
# What the notices of a master tell

Every frame is noted right before it is sent, and every change of the state is noted by what it
changes (`Transcript`). This is so for each action of a master, since all of them send through
`Master.sendFrame` and change the state through `Master.moveTo` (`Operation.transcribes`).
-/

namespace Sdci

/-! ### Transcripts -/

/-- The call is neither one to send a frame nor one to note a frame, a change of state or the
transition to operate. -/
def Call.isAside : Call → Bool
  | .send _ | .note (.sending _) | .note (.stateChanged ..) | .note .operateCommand => false
  | .receive .. | .discard | .pause _ | .note _ => true

variable {allowed : ConnectionState → ConnectionState → Prop}
  {source middle target : ConnectionState}

/-- The events of a master that goes from one state to another by allowed changes, where each frame
is noted right before it is sent, and each change by the states that it leads from and to. The
transition to operate is noted only where it is allowed. -/
inductive Transcript (allowed : ConnectionState → ConnectionState → Prop) :
    ConnectionState → List Event → ConnectionState → Prop
  | nil (state : ConnectionState) : Transcript allowed state [] state
  | sent {source target : ConnectionState} {events : List Event} (frame : List UInt8)
      (answer : Except Failure Unit) (rest : Transcript allowed source events target) :
      Transcript allowed source
        (⟨.note (.sending frame), ()⟩ :: ⟨.send frame, answer⟩ :: events) target
  | changed {source middle target : ConnectionState} {events : List Event}
      (hne : source ≠ middle) (hallowed : allowed source middle)
      (rest : Transcript allowed middle events target) :
      Transcript allowed source (⟨.note (.stateChanged source middle), ()⟩ :: events) target
  | announced {source target : ConnectionState} {events : List Event}
      (hallowed : allowed .preoperate .established)
      (rest : Transcript allowed source events target) :
      Transcript allowed source (⟨.note .operateCommand, ()⟩ :: events) target
  | aside {source target : ConnectionState} {event : Event} {events : List Event}
      (haside : event.call.isAside) (rest : Transcript allowed source events target) :
      Transcript allowed source (event :: events) target

/-- What happens in two parts is told by a transcript of each. -/
theorem Transcript.append {first second : List Event} (h : Transcript allowed source first middle)
    (h' : Transcript allowed middle second target) :
    Transcript allowed source (first ++ second) target := by
  induction h with
  | nil state => exact h'
  | sent frame answer _ ih => exact .sent frame answer (ih h')
  | changed hne hallowed _ ih => exact .changed hne hallowed (ih h')
  | announced hallowed _ ih => exact .announced hallowed (ih h')
  | aside haside _ ih => exact .aside haside (ih h')

namespace Master

open Master.Action Isdu

variable {α β : Type} {master : Master}

/-- Whatever the line answers, the events of the action are a transcript of what it does. -/
def Transcribes (allowed : ConnectionState → ConnectionState → Prop) (action : Action α)
    (master : Master) : Prop :=
  ∀ events result target, (action.start master).Path events (result, target) →
    Transcript allowed master.state events target.state

/-! ### Ways to make an action -/

/-- Two actions one behind the other; the second is looked at where the first leads to. -/
theorem Transcribes.bind_of_path {action : Action α} {f : α → Action β}
    (h : Transcribes allowed action master)
    (hf : ∀ events value target, (action.start master).Path events (.ok value, target) →
      Transcribes allowed (f value) target) :
    Transcribes allowed (action >>= f) master := by
  intro events result target path
  rw [start_bind, Dialogue.path_bind_iff] at path
  obtain ⟨first, ⟨inner, middle⟩, second, hfirst, hsecond, rfl⟩ := path
  have htranscript := h first inner middle hfirst
  cases inner with
  | error error =>
    obtain ⟨rfl, heq⟩ := Dialogue.path_done_iff.mp hsecond
    cases heq
    exact htranscript.append (.nil _)
  | ok value => exact htranscript.append (hf first value middle hfirst second result target hsecond)

theorem Transcribes.bind {action : Action α} {f : α → Action β}
    (h : Transcribes allowed action master)
    (hf : ∀ value target, Transcribes allowed (f value) target) :
    Transcribes allowed (action >>= f) master :=
  h.bind_of_path fun _ value target _ => hf value target

/-- The action leaves the master as it is. -/
def Keeps (action : Action α) (master : Master) : Prop :=
  (action.start master).Always fun outcome => outcome.2 = master

theorem Transcribes.bind_of_keeps {action : Action α} {f : α → Action β}
    (h : Transcribes allowed action master) (hkeeps : Keeps action master)
    (hf : ∀ value, Transcribes allowed (f value) master) :
    Transcribes allowed (action >>= f) master := by
  refine h.bind_of_path fun events value target path => ?_
  obtain rfl : target = master := hkeeps.of_path path
  exact hf value

theorem Transcribes.get_bind {f : Master → Action α} (h : Transcribes allowed (f master) master) :
    Transcribes allowed (get >>= f) master := by
  intro events result target path
  rw [start_bind, start_get, Dialogue.done_bind] at path
  exact h events result target path

/-- An action that is over at once tells nothing, so it must not change the state. -/
theorem transcribes_of_done {action : Action α} {result : Except MasterError α} {target : Master}
    (h : action.start master = .done (result, target)) (hstate : target.state = master.state) :
    Transcribes allowed action master := by
  intro events other target' path
  rw [h, Dialogue.path_done_iff] at path
  obtain ⟨rfl, heq⟩ := path
  cases heq
  rw [hstate]
  exact .nil _

theorem transcribes_pure (value : α) : Transcribes allowed (pure value) master :=
  transcribes_of_done rfl rfl

theorem transcribes_throw (error : MasterError) :
    Transcribes allowed (throw error : Action α) master :=
  transcribes_of_done rfl rfl

/-- Nothing follows an error. -/
theorem transcribes_throw_bind (error : MasterError) (f : α → Action β) :
    Transcribes allowed (throw error >>= f) master :=
  transcribes_of_done rfl rfl

theorem transcribes_orThrow {ε : Type} (wrap : ε → MasterError) (result : Except ε α) :
    Transcribes allowed (orThrow wrap result) master :=
  transcribes_of_done (start_orThrow master wrap result) rfl

theorem transcribes_set {other : Master} (h : other.state = master.state) :
    Transcribes allowed (set other) master :=
  transcribes_of_done rfl h

/-- A call that has no place of its own in a transcript. -/
theorem transcribes_of_ask {action : Action α} {call : Call}
    {answered : call.Answer → Except MasterError α}
    (h : action.start master = .ask call fun answer => .done (answered answer, master))
    (haside : call.isAside) : Transcribes allowed action master := by
  intro events result target path
  rw [h, Dialogue.path_ask_iff] at path
  obtain ⟨answer, rest, hrest, rfl⟩ := path
  obtain ⟨rfl, heq⟩ := Dialogue.path_done_iff.mp hrest
  cases heq
  exact .aside haside (.nil _)

theorem transcribes_note {notice : Notice} (h : (Call.note notice).isAside) :
    Transcribes allowed (note notice) master :=
  transcribes_of_ask (start_note master notice) h

theorem transcribes_pause (duration : Nat) : Transcribes allowed (pause duration) master :=
  transcribes_of_ask (start_pause master duration) rfl

theorem transcribes_discard : Transcribes allowed discard master :=
  transcribes_of_ask (start_discard master) rfl

theorem transcribes_receive (count timeout : Nat) :
    Transcribes allowed (receive count timeout) master :=
  transcribes_of_ask (start_receive master count timeout) rfl

theorem transcribes_sendFrame (frame : List UInt8) :
    Transcribes allowed (sendFrame frame) master := by
  intro events result target path
  simp only [start_sendFrame, Dialogue.path_ask_iff, Dialogue.path_done_iff] at path
  obtain ⟨_, _, ⟨answer, _, ⟨rfl, heq⟩, rfl⟩, rfl⟩ := path
  cases heq
  exact .sent frame answer (.nil _)

/-- A change of state that is allowed; to stay in a state is none. -/
theorem transcribes_moveTo {state : ConnectionState}
    (h : master.state ≠ state → allowed master.state state) :
    Transcribes allowed (moveTo state) master := by
  intro events result target path
  rw [start_moveTo] at path
  split at path
  · obtain ⟨rfl, heq⟩ := Dialogue.path_done_iff.mp path
    cases heq
    exact .nil _
  · next hne =>
    obtain ⟨_, rest, hrest, rfl⟩ := Dialogue.path_ask_iff.mp path
    obtain ⟨rfl, heq⟩ := Dialogue.path_done_iff.mp hrest
    cases heq
    exact .changed hne (h hne) (.nil _)

/-! ### Exchanges -/

theorem transcribes_noResponse : Transcribes allowed noResponse master :=
  .get_bind (transcribes_pure _)

theorem transcribes_decodeReply (reply : Option (List UInt8)) :
    Transcribes allowed (decodeReply reply) master := by
  cases reply with
  | none => exact (transcribes_note rfl).bind fun _ _ => transcribes_noResponse
  | some octets => exact (transcribes_note rfl).bind fun _ _ => .get_bind (transcribes_pure _)

theorem transcribes_checkChecksum (response : Response) :
    Transcribes allowed (checkChecksum response) master := by
  refine .get_bind ?_
  split
  · split
    · exact (transcribes_note rfl).bind fun _ _ => transcribes_noResponse
    · exact transcribes_pure _
    · exact transcribes_pure _
  · exact transcribes_pure _

theorem transcribes_exchange (frame : List UInt8) (timeout : Nat) :
    Transcribes allowed (exchange frame timeout) master := by
  refine (transcribes_sendFrame frame).bind fun _ _ => .get_bind ?_
  refine (transcribes_receive _ _).bind fun reply _ => ?_
  exact (transcribes_decodeReply reply).bind fun response _ => transcribes_checkChecksum response

theorem transcribes_wakeUp : Transcribes allowed wakeUp master :=
  transcribes_sendFrame _

theorem transcribes_probe : Transcribes allowed probe master :=
  .get_bind (transcribes_exchange _ _)

theorem transcribes_cyclicFrame (processData : List UInt8) (od : OnRequestData) :
    Transcribes allowed (cyclicFrame processData od) master := by
  refine .get_bind ?_
  dsimp only
  split
  · exact (transcribes_note rfl).bind fun _ _ => transcribes_orThrow _ _
  · exact transcribes_orThrow _ _

/-! ### Cycles -/

/-- The end of a cycle, where it may confirm the transition to operate. -/
theorem transcribes_confirm (h : allowed .established .operate) (response : Response) :
    Transcribes allowed (do
      if response.isValid ∧ (← get).state = .established then
        moveTo .operate
      return response) master := by
  refine .get_bind ?_
  dsimp only
  split
  · next hconfirms =>
    refine (transcribes_moveTo fun _ => ?_).bind fun _ _ => transcribes_pure _
    rw [hconfirms.2]
    exact h
  · exact transcribes_pure _

theorem transcribes_cycleWith (h : allowed .established .operate) (processData : List UInt8)
    (od : OnRequestData) : Transcribes allowed (cycleWith processData od) master := by
  refine .get_bind ?_
  dsimp only
  split
  · exact (transcribes_note rfl).bind fun _ _ => transcribes_noResponse
  split
  · refine (transcribes_cyclicFrame processData od).bind fun frame _ => ?_
    exact (transcribes_exchange _ _).bind fun response _ => transcribes_confirm h response
  · exact transcribes_probe.bind fun response _ => transcribes_confirm h response

theorem transcribes_cycle (h : allowed .established .operate) (processData : List UInt8)
    (octet : UInt8) : Transcribes allowed (cycle processData octet) master :=
  .get_bind (transcribes_cycleWith h _ _)

theorem transcribes_damagedCycle (processData : List UInt8) (octet : UInt8) :
    Transcribes allowed (damagedCycle processData octet) master := by
  have hsend (frame : List UInt8) (count timeout : Nat) (target : Master) :
      Transcribes allowed (do
        sendFrame (Frame.damage frame)
        decodeReply (← receive count timeout)) target := by
    refine (transcribes_sendFrame _).bind fun _ _ => ?_
    exact (transcribes_receive _ _).bind fun reply _ => transcribes_decodeReply reply
  refine .get_bind ?_
  dsimp only
  split
  · exact (transcribes_cyclicFrame _ _).bind fun frame _ => hsend frame _ _ _
  · exact (transcribes_pure _).bind fun frame _ => hsend frame _ _ _

theorem transcribes_countAnswered (answered count : Nat) :
    Transcribes allowed (countAnswered answered count) master := by
  induction count generalizing answered master with
  | zero => exact transcribes_pure _
  | succ count ih => exact (transcribes_damagedCycle [] 0).bind fun response _ => ih _

theorem transcribes_injectFaults (count : Nat) :
    Transcribes allowed (injectFaults count) master := by
  refine (transcribes_note rfl).bind fun _ _ => ?_
  refine (transcribes_countAnswered 0 count).bind fun answered _ => ?_
  split
  · exact (transcribes_note rfl).bind fun _ _ => transcribes_pure _
  · exact transcribes_pure _

/-! ### The way to operate -/

theorem transcribes_probeUntilValid (h : ∀ state, allowed state .preoperate)
    (attempts left : Nat) : Transcribes allowed (probeUntilValid attempts left) master := by
  induction left generalizing master with
  | zero => exact (transcribes_note rfl).bind fun _ _ => transcribes_throw _
  | succ left ih =>
    refine transcribes_probe.bind fun response _ => ?_
    split
    · exact (transcribes_note rfl).bind fun _ _ => transcribes_moveTo fun _ => h _
    · split
      · exact .get_bind ((transcribes_pause _).bind fun _ _ => ih)
      · exact ih

theorem transcribes_startUp (h : ∀ state, allowed state .preoperate) :
    Transcribes allowed startUp master := by
  refine (transcribes_note rfl).bind fun _ _ => transcribes_wakeUp.bind fun _ _ => .get_bind ?_
  refine (transcribes_pause _).bind fun _ _ => transcribes_discard.bind fun _ _ => ?_
  exact transcribes_probeUntilValid h _ _

theorem keeps_note (notice : Notice) : Keeps (note notice) master := by
  simp [Keeps]

theorem keeps_pause (duration : Nat) : Keeps (pause duration) master := by
  simp [Keeps]

theorem keeps_discard : Keeps discard master := by
  simp [Keeps]

theorem keeps_sendFrame (frame : List UInt8) : Keeps (sendFrame frame) master := by
  simp [Keeps]

theorem keeps_orThrow {ε : Type} (wrap : ε → MasterError) (result : Except ε α) :
    Keeps (orThrow wrap result) master := by
  simp [Keeps]

theorem transcribes_announcement (h : allowed .preoperate .established) :
    Transcribes allowed (note .operateCommand) master := by
  intro events result target path
  rw [start_note, Dialogue.path_ask_iff] at path
  obtain ⟨_, rest, hrest, rfl⟩ := path
  obtain ⟨rfl, heq⟩ := Dialogue.path_done_iff.mp hrest
  cases heq
  exact .announced h (.nil _)

theorem transcribes_enterOperate (h : allowed .preoperate .established)
    (h' : allowed .established .operate) : Transcribes allowed enterOperate master := by
  refine .get_bind ?_
  dsimp only
  split
  · exact transcribes_throw_bind _ _
  · next hstate =>
    refine (transcribes_announcement h).bind_of_keeps (keeps_note _) fun _ => ?_
    refine (transcribes_sendFrame _).bind_of_keeps (keeps_sendFrame _) fun _ => ?_
    refine (transcribes_pause _).bind_of_keeps (keeps_pause _) fun _ => ?_
    refine transcribes_discard.bind_of_keeps keeps_discard fun _ => ?_
    refine (transcribes_moveTo fun _ => ?_).bind fun _ _ => ?_
    · rw [Decidable.not_not.mp hstate]
      exact h
    refine (transcribes_cycle h' [] 0).bind fun response _ => ?_
    split
    · exact transcribes_pure _
    · exact (transcribes_note rfl).bind fun _ _ => transcribes_throw _

/-! ### Events and transfers -/

theorem transcribes_requestEvent : Transcribes allowed requestEvent master := by
  refine .get_bind ?_
  dsimp only
  split
  · exact (transcribes_note rfl).bind fun _ _ => transcribes_pure _
  refine (transcribes_sendFrame _).bind fun _ _ => (transcribes_receive _ _).bind fun reply _ => ?_
  split
  · refine (transcribes_note rfl).bind fun _ _ => ?_
    split
    · exact (transcribes_note rfl).bind fun _ _ => transcribes_pure _
    · exact (transcribes_note rfl).bind fun _ _ => transcribes_pure _
  · exact transcribes_pure _

theorem transcribes_failTransfer (error : TransferError) :
    Transcribes allowed (failTransfer error : Action α) master :=
  (transcribes_note rfl).bind fun _ _ => transcribes_throw _

section Transfer

variable (h : allowed .established .operate)
include h

theorem transcribes_exchangeOctet (octet : UInt8) :
    Transcribes allowed (exchangeOctet octet) master := by
  refine .get_bind ?_
  split
  · exact transcribes_noResponse
  split
  · exact transcribes_cycle h [] octet
  · exact transcribes_exchange _ _

theorem transcribes_transferOctet (target : Target) (octet : UInt8) :
    Transcribes allowed (transferOctet target octet) master := by
  refine (transcribes_exchangeOctet h octet).bind fun response _ => ?_
  split
  · exact transcribes_pure _
  · exact transcribes_failTransfer _

theorem transcribes_sendOctets (target : Target) (answer : UInt8) (octets : List UInt8) :
    Transcribes allowed (sendOctets target answer octets) master := by
  induction octets generalizing answer master with
  | nil => exact transcribes_pure _
  | cons octet rest ih =>
    exact (transcribes_transferOctet h target octet).bind fun answer _ => ih answer

theorem transcribes_listen {ρ : Type} [Receiver ρ α] (target : Target) (receiver : ρ)
    (octet : UInt8) : Transcribes allowed (listen target receiver octet : Action α) master := by
  induction receiver, octet using Receiver.feed_induction generalizing master with
  | done receiver octet result hdone =>
    rw [listen_of_done target hdone]
    cases result with
    | ok answer => exact transcribes_pure _
    | error error => exact transcribes_failTransfer error
  | needData receiver octet next hnext ih =>
    rw [listen_of_needData target hnext]
    exact (transcribes_transferOctet h target 0).bind fun answer _ => ih answer

theorem transcribes_transfer {ρ : Type} [Receiver ρ α] (request : Request) (receiver : ρ) :
    Transcribes allowed (transfer request receiver : Action α) master :=
  (transcribes_sendOctets h _ _ _).bind fun answer _ => transcribes_listen h _ receiver answer

theorem transcribes_readParameter (index : UInt16) (subindex : UInt8) :
    Transcribes allowed (readParameter index subindex) master := by
  refine (transcribes_note rfl).bind fun _ _ => .get_bind ?_
  refine (transcribes_transfer h _ _).bind fun data _ => ?_
  exact (transcribes_note rfl).bind fun _ _ => transcribes_pure _

theorem transcribes_writeParameter (index : UInt16) (subindex : UInt8) (data : List UInt8) :
    Transcribes allowed (writeParameter index subindex data) master := by
  refine (transcribes_note rfl).bind fun _ _ => ?_
  refine (transcribes_orThrow _ _).bind fun request _ => .get_bind ?_
  exact (transcribes_transfer h _ _).bind fun answer _ => transcribes_note rfl

end Transfer

/-! ### Configuration -/

theorem transcribes_resize (inputLength outputLength : Nat) :
    Transcribes allowed (resize inputLength outputLength) master := by
  refine .get_bind ((transcribes_orThrow _ _).bind_of_keeps (keeps_orThrow _ _) fun geometry => ?_)
  exact (transcribes_set rfl).bind fun _ _ => transcribes_note rfl

theorem transcribes_reconfigure (geometry : Geometry) :
    Transcribes allowed (reconfigure geometry) master := by
  have hset (geometry : Geometry) : Transcribes allowed (do
      note (.reconfigured geometry.sequenceType geometry.inputLength geometry.outputLength)
      set { master with geometry }) master :=
    (transcribes_note rfl).bind_of_keeps (keeps_note _) fun _ => transcribes_set rfl
  refine .get_bind ?_
  dsimp only
  split
  · split
    · exact (transcribes_orThrow _ _).bind_of_keeps (keeps_orThrow _ _) hset
    split
    · exact (transcribes_pure _).bind_of_keeps rfl hset
    · exact transcribes_throw_bind _ _
  · exact transcribes_pure _

theorem transcribes_switchPhyMode (mode : PhyMode) :
    Transcribes allowed (switchPhyMode mode) master := by
  refine .get_bind ?_
  dsimp only
  split
  · exact transcribes_throw_bind _ _
  · exact (transcribes_note rfl).bind_of_keeps (keeps_note _) fun _ => transcribes_set rfl

theorem transcribes_useBaudRate (rate : BaudRate) :
    Transcribes allowed (useBaudRate rate) master :=
  (transcribes_note rfl).bind fun _ _ => transcribes_of_done rfl rfl

theorem transcribes_selectBaudRate (name : String) :
    Transcribes allowed (selectBaudRate name) master := by
  rw [selectBaudRate]
  split
  · exact transcribes_useBaudRate _
  · exact (transcribes_note rfl).bind fun _ _ => transcribes_throw _

end Master

/-! ### Operations -/

open Master

/-- The changes of state that an operation may make. -/
def Operation.MayChange : Operation → ConnectionState → ConnectionState → Prop
  | startUp, _, target => target = .preoperate
  | enterOperate, source, target =>
    source = .preoperate ∧ target = .established ∨ source = .established ∧ target = .operate
  | cycle .., source, target | cycleWith .., source, target | readParameter .., source, target
  | writeParameter .., source, target => source = .established ∧ target = .operate
  | _, _, _ => False

/-- Every operation is told by a transcript, whatever the line answers. -/
theorem Operation.transcribes (operation : Operation) (master : Master) :
    Transcribes operation.MayChange operation.action master := by
  cases operation with
  | wakeUp => exact transcribes_wakeUp.bind fun _ _ => transcribes_pure _
  | probe => exact transcribes_probe.bind fun _ _ => transcribes_pure _
  | startUp =>
    have hchange (source : ConnectionState) : startUp.MayChange source .preoperate := rfl
    exact (transcribes_startUp hchange).bind fun _ _ => transcribes_pure _
  | enterOperate =>
    exact (transcribes_enterOperate (.inl ⟨rfl, rfl⟩) (.inr ⟨rfl, rfl⟩)).bind
      fun _ _ => transcribes_pure _
  | cycle => exact (transcribes_cycle ⟨rfl, rfl⟩ _ _).bind fun _ _ => transcribes_pure _
  | cycleWith => exact (transcribes_cycleWith ⟨rfl, rfl⟩ _ _).bind fun _ _ => transcribes_pure _
  | damagedCycle => exact (transcribes_damagedCycle _ _).bind fun _ _ => transcribes_pure _
  | injectFaults => exact (transcribes_injectFaults _).bind fun _ _ => transcribes_pure _
  | resize => exact (transcribes_resize _ _).bind fun _ _ => transcribes_pure _
  | reconfigure => exact (transcribes_reconfigure _).bind fun _ _ => transcribes_pure _
  | switchPhyMode => exact (transcribes_switchPhyMode _).bind fun _ _ => transcribes_pure _
  | selectBaudRate => exact (transcribes_selectBaudRate _).bind fun _ _ => transcribes_pure _
  | useBaudRate => exact (transcribes_useBaudRate _).bind fun _ _ => transcribes_pure _
  | requestEvent => exact transcribes_requestEvent.bind fun _ _ => transcribes_pure _
  | readParameter =>
    exact (transcribes_readParameter ⟨rfl, rfl⟩ _ _).bind fun _ _ => transcribes_pure _
  | writeParameter =>
    exact (transcribes_writeParameter ⟨rfl, rfl⟩ _ _ _).bind fun _ _ => transcribes_pure _

theorem Step.transcript (step : Step) :
    Transcript step.operation.MayChange step.source.state step.events step.target.state :=
  step.operation.transcribes step.source step.events step.result step.target step.path

end Sdci
