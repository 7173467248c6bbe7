import Sdci.Proofs.Isdu.Feeding
import Sdci.Proofs.Isdu.Octets
import Sdci.Proofs.Master.Run

/-!
# What a step does to the connection state

A step changes the connection state along few edges (`Step.FollowsEdge`), whatever the line answers:
every step takes the edge of its operation (`Step.followsEdge`).
-/

namespace Sdci

/-! ### Steps -/

/-- The call announces the transition to operate: it sends the command, or drops what came in before
it. -/
def Event.Announces (event : Event) : Prop :=
  event.call = .send (Frame.plain Command.operate.octet 0) ∨ event.call = .discard

namespace Step

variable (step : Step)

/-- The step is a startup sequence that succeeds. -/
def StartsUp : Prop := step.operation = .startUp ∧ step.Succeeds

/-- The step is a transition to operate that preoperate allows, and neither sending the command nor
dropping what has come in fails. -/
def Announces : Prop :=
  step.operation = .enterOperate ∧ step.source.state = .preoperate ∧
    ∀ event ∈ step.events, event.Announces → event.failed = false

/-- The step gives back a valid response. -/
def ReturnsValid : Prop := ∃ response, step.result = .ok (.response response) ∧ response.isValid

/-- The first exchange of the step got a valid response. -/
def FirstExchangeValid : Prop :=
  ∃ reply, step.replies.head? = some reply ∧ (step.source.responseTo reply).isValid

/-- The state becomes the given one if the condition holds, and stays as it is otherwise. -/
def MovesTo (state : ConnectionState) (condition : Prop) : Prop :=
  (condition → step.target.state = state) ∧ (¬condition → step.target.state = step.source.state)

/-- The edges that an operation takes the connection state along. -/
def FollowsEdge : Prop :=
  match step.operation with
  | .startUp => step.MovesTo .preoperate step.Succeeds
  | .enterOperate =>
    (step.Announces → step.Succeeds → step.target.state = .operate) ∧
      (step.Announces → ¬step.Succeeds → step.target.state = .established) ∧
      (¬step.Announces → step.target.state = step.source.state)
  | .cycle .. | .cycleWith .. =>
    step.MovesTo .operate (step.source.state = .established ∧ step.ReturnsValid)
  | .readParameter .. | .writeParameter .. =>
    step.MovesTo .operate
      (step.source.state = .established ∧ step.source.geometry.isCyclic ∧ step.FirstExchangeValid)
  | _ => step.target.state = step.source.state

end Step

/-- The operation changes what the master is configured with. -/
def Operation.configures : Operation → Bool
  | resize .. | reconfigure _ | switchPhyMode _ | selectBaudRate _ | useBaudRate _ => true
  | _ => false

/-- The operation is a parameter transfer. -/
def Operation.isTransfer : Operation → Bool
  | readParameter .. | writeParameter .. => true
  | _ => false

/-! ### What an operation does to the master -/

namespace Master

open Master.Action Isdu

variable {α : Type} {master : Master}

/-- The master behind an action: one if it succeeds, and another one if it fails. -/
def EndsIn (success : α → Master) (failure : Master) : Except MasterError α × Master → Prop
  | (.ok value, target) => target = success value
  | (.error _, target) => target = failure

/-- The masters differ in the state alone. -/
def Entered (master target : Master) : Prop := ∃ state, target = master.enter state

theorem Entered.refl (master : Master) : master.Entered master := ⟨master.state, rfl⟩

theorem EndsIn.entered {success : α → Master} {failure : Master}
    (hsuccess : ∀ value, master.Entered (success value)) (hfailure : master.Entered failure)
    {outcome : Except MasterError α × Master} (h : EndsIn success failure outcome) :
    master.Entered outcome.2 := by
  obtain ⟨error | value, target⟩ := outcome
  · obtain rfl : target = failure := h
    exact hfailure
  · obtain rfl : target = success value := h
    exact hsuccess value

theorem entered_confirm (master : Master) (response : Response) :
    master.Entered (master.confirm response) := by
  rw [confirm]
  split
  · exact ⟨_, rfl⟩
  · exact .refl _

theorem entered_advance (master : Master) (response : Response) :
    master.Entered (master.advance response) := by
  rw [advance]
  split
  · exact entered_confirm _ _
  · exact .refl _

theorem always_wakeUp : (wire wakeUp master).Always fun outcome => outcome.2 = master := by
  rw [wakeUp, wire_sendFrame, Dialogue.always_ask, always_orFail]
  exact ⟨fun _ => rfl, fun _ => rfl⟩

theorem always_probe : (wire probe master).Always fun outcome => outcome.2 = master := by
  rw [wire_probe, always_roundTrip]
  exact ⟨fun _ => rfl, fun _ => rfl⟩

theorem always_probeUntilValid (attempts left : Nat) :
    (wire (probeUntilValid attempts left) master).Always
      (EndsIn (fun _ => master.enter .preoperate) master) := by
  induction left with
  | zero =>
    rw [wire_probeUntilValid_zero]
    exact rfl
  | succ left ih =>
    rw [wire_probeUntilValid_succ, always_roundTrip]
    refine ⟨fun _ => rfl, fun reply => ?_⟩
    split
    · exact rfl
    · exact ih

/-- A startup sequence that succeeds ends in preoperate, and one that fails changes nothing. -/
theorem always_startUp :
    (wire startUp master).Always (EndsIn (fun _ => master.enter .preoperate) master) := by
  rw [wire_startUp, always_announce]
  exact ⟨fun _ => rfl, always_probeUntilValid _ _⟩

theorem always_enterOperate :
    (wire enterOperate master).Always fun outcome => master.Entered outcome.2 := by
  by_cases hstate : master.state = .preoperate
  · rw [wire_enterOperate _ hstate, always_announce, always_roundTrip]
    refine ⟨fun _ => .refl _, fun _ => ⟨_, rfl⟩, fun reply => ?_⟩
    split <;> exact ⟨_, rfl⟩
  · rw [wire_enterOperate_of_state _ hstate]
    exact .refl _

theorem confirm_missing (odWidth : Nat) : master.confirm (.missing odWidth) = master := by
  simp [confirm, Response.isValid]

/-- A cycle confirms an announced transition if its response is valid, and does nothing else. -/
theorem always_cycleWith (processData : List UInt8) (od : OnRequestData) :
    (wire (cycleWith processData od) master).Always (EndsIn master.confirm master) := by
  by_cases hstate : master.state = .startup
  · rw [wire_cycleWith_of_startup master hstate]
    exact (confirm_missing _).symm
  by_cases hwidth : master.geometry.isCyclic → od.width = master.geometry.odWidth
  · rw [wire_cycleWith master hstate _ hwidth, always_roundTrip]
    exact ⟨fun _ => rfl, fun _ => rfl⟩
  · obtain ⟨hcyclic, hwidth⟩ := Classical.not_imp.mp hwidth
    rw [wire_cycleWith_of_width master hstate hcyclic _ hwidth]
    exact rfl

theorem always_cycle (processData : List UInt8) (octet : UInt8) :
    (wire (cycle processData octet) master).Always (EndsIn master.confirm master) := by
  rw [wire_cycle_eq]
  exact always_cycleWith _ _

theorem always_damagedCycle (processData : List UInt8) (octet : UInt8) :
    (wire (damagedCycle processData octet) master).Always fun outcome => outcome.2 = master := by
  rw [wire_damagedCycle, always_roundTrip]
  exact ⟨fun _ => rfl, fun _ => rfl⟩

theorem always_countAnswered (answered count : Nat) :
    (wire (countAnswered answered count) master).Always fun outcome => outcome.2 = master := by
  induction count generalizing answered with
  | zero => exact rfl
  | succ count ih =>
    rw [wire_countAnswered_succ, always_roundTrip]
    exact ⟨fun _ => rfl, fun _ => ih _⟩

theorem always_injectFaults (count : Nat) :
    (wire (injectFaults count) master).Always fun outcome => outcome.2 = master := by
  rw [injectFaults, wire_bind, wire_note, Dialogue.done_bind, andThen_ok, always_wire_bind]
  refine (always_countAnswered 0 count).mono fun ⟨result, target⟩ h => ?_
  cases result with
  | error error => exact h
  | ok answered => by_cases hpos : answered > 0 <;> simpa [hpos] using h

theorem always_requestEvent :
    (wire requestEvent master).Always fun outcome => outcome.2 = master := by
  by_cases hstate : master.state = .startup
  · rw [wire_requestEvent_of_startup master hstate]
    exact rfl
  · rw [wire_requestEvent master hstate, always_roundTrip]
    exact ⟨fun _ => rfl, fun _ => rfl⟩

/-- Configuration leaves the state and the settings alone. -/
def Configured (master target : Master) : Prop :=
  target.state = master.state ∧ target.settings = master.settings

theorem always_resize (inputLength outputLength : Nat) :
    (wire (resize inputLength outputLength) master).Always
      fun outcome => master.Configured outcome.2 := by
  rw [wire_resize]
  split <;> exact ⟨rfl, rfl⟩

theorem always_reconfigure (geometry : Geometry) :
    (wire (reconfigure geometry) master).Always fun outcome => master.Configured outcome.2 := by
  rw [wire_reconfigure]
  split
  · exact ⟨rfl, rfl⟩
  split
  · exact always_resize _ _
  split <;> exact ⟨rfl, rfl⟩

theorem always_switchPhyMode (phyMode : PhyMode) :
    (wire (switchPhyMode phyMode) master).Always
      fun outcome => master.Configured outcome.2 := by
  rw [wire_switchPhyMode]
  split <;> exact ⟨rfl, rfl⟩

theorem always_selectBaudRate (name : String) :
    (wire (selectBaudRate name) master).Always
      fun outcome => master.Configured outcome.2 := by
  rw [wire_selectBaudRate]
  split <;> exact ⟨rfl, rfl⟩

theorem always_useBaudRate (baudRate : BaudRate) :
    (wire (useBaudRate baudRate) master).Always
      fun outcome => master.Configured outcome.2 := by
  rw [wire_useBaudRate]
  exact ⟨rfl, rfl⟩

/-! ### What a transfer does to the master -/

/-- No exchange of a transfer changes the master any more. -/
def Settled (master : Master) : Prop := ∀ response, master.advance response = master

/-- An exchange with a valid response leaves nothing for the exchanges behind it to do. -/
theorem settled_advance {response : Response} (h : response.isValid) :
    (master.advance response).Settled := by
  intro other
  by_cases hcyclic : master.geometry.isCyclic
  · by_cases hstate : master.state = .established
    · simp [advance, confirm, hcyclic, h, hstate]
    · simp [advance, confirm, hcyclic, hstate]
  · simp [advance, hcyclic]

theorem advance_of_not_isValid {response : Response} (h : ¬response.isValid) :
    master.advance response = master := by
  simp [advance, confirm, h]

theorem always_transferOctet (h : master.Settled) (target : Target) (octet : UInt8) :
    (wire (transferOctet target octet) master).Always fun outcome => outcome.2 = master := by
  by_cases hstate : master.state = .startup
  · rw [wire_transferOctet_of_startup master hstate]
    exact rfl
  · rw [wire_transferOctet master hstate, always_roundTrip]
    refine ⟨fun _ => rfl, fun reply => ?_⟩
    split
    · exact h _
    · exact rfl

/-- What keeps a settled master may be followed by what keeps it. -/
theorem always_andThen {β : Type} {f : α → Action β} (hf : ∀ value,
    (wire (f value) master).Always fun outcome => outcome.2 = master) {action : Action α}
    (h : (action.wire master).Always fun outcome => outcome.2 = master) :
    (wire (action >>= f) master).Always fun outcome => outcome.2 = master := by
  rw [always_wire_bind]
  refine h.mono fun ⟨result, target⟩ htarget => ?_
  cases result with
  | error error => exact htarget
  | ok value =>
    obtain rfl : target = master := htarget
    exact hf value

theorem always_sendOctets (h : master.Settled) (target : Target) (answer : UInt8)
    (octets : List UInt8) :
    (wire (sendOctets target answer octets) master).Always fun outcome => outcome.2 = master := by
  induction octets generalizing answer with
  | nil => exact rfl
  | cons octet rest ih => exact always_andThen ih (always_transferOctet h target octet)

theorem always_listen {ρ : Type} [Receiver ρ α] (h : master.Settled) (target : Target)
    (receiver : ρ) (octet : UInt8) :
    (wire (listen target receiver octet : Action α) master).Always
      fun outcome => outcome.2 = master := by
  induction receiver, octet using Receiver.feed_induction with
  | done receiver octet result hfeed =>
    rw [wire_listen_of_done master target hfeed]
    exact rfl
  | needData receiver octet next hfeed ih =>
    rw [listen_of_needData target hfeed]
    exact always_andThen ih (always_transferOctet h target 0)

/-- The target is the master behind the first exchange, if there is one. -/
def Advances (master : Master) (events : List Event) (target : Master) : Prop :=
  match (repliesIn events).head? with
  | none => target = master
  | some reply => target = master.advance (master.responseTo reply)

theorem Advances.entered {events : List Event} {target : Master}
    (h : master.Advances events target) : master.Entered target := by
  rw [Advances] at h
  split at h
  · rw [h]
    exact .refl _
  · rw [h]
    exact entered_advance _ _

/-- How a transfer begins: it gets no reply, it ends with one that makes no valid response, or the
first reply makes a valid one and nothing changes the master any more. -/
inductive BeginsTransfer (master : Master) (events : List Event) : Master → Prop
  | silent (hreplies : repliesIn events = []) : BeginsTransfer master events master
  | refused {reply : Option (List UInt8)} (hreplies : repliesIn events = [reply])
    (hinvalid : ¬(master.responseTo reply).isValid) : BeginsTransfer master events master
  | accepted {reply : Option (List UInt8)} {rest : List (Option (List UInt8))}
    (hreplies : repliesIn events = reply :: rest) (hvalid : (master.responseTo reply).isValid) :
    BeginsTransfer master events (master.advance (master.responseTo reply))

/-- The master behind a transfer is the one behind its first exchange. -/
theorem BeginsTransfer.advances {events : List Event} {target : Master}
    (h : master.BeginsTransfer events target) : master.Advances events target := by
  rw [Advances]
  cases h with
  | silent hreplies =>
    rw [hreplies]
    rfl
  | refused hreplies hinvalid =>
    rw [hreplies]
    exact (advance_of_not_isValid hinvalid).symm
  | accepted hreplies hvalid =>
    rw [hreplies]
    rfl

theorem begins_of_path_transfer {ρ : Type} [Receiver ρ α] {request : Request} {receiver : ρ}
    {events : List Event} {result : Except MasterError α} {target : Master}
    (path : (wire (transfer request receiver) master).Path events (result, target)) :
    master.BeginsTransfer events target := by
  obtain ⟨octet, rest, -, hoctets⟩ := request.exists_odOctets_eq
  rw [transfer, hoctets, sendOctets, bind_assoc, wire_bind] at path
  by_cases hstate : master.state = .startup
  · rw [wire_transferOctet_of_startup master hstate] at path
    obtain ⟨rfl, heq⟩ := Dialogue.path_done_iff.mp path
    cases heq
    exact .silent rfl
  rw [wire_transferOctet master hstate, roundTrip_bind, path_roundTrip_iff] at path
  obtain ⟨failure, rfl, heq⟩ | ⟨failure, rfl, heq⟩ | ⟨reply, others, hothers, rfl⟩ := path
  · cases heq
    exact .silent rfl
  · cases heq
    exact .silent rfl
  by_cases hvalid : (master.responseTo reply).isValid
  · rw [if_pos hvalid, Dialogue.done_bind, andThen_ok] at hothers
    have hsettled : (master.advance (master.responseTo reply)).Settled := settled_advance hvalid
    have hkeep := always_andThen (always_listen hsettled request.target receiver)
      (always_sendOctets hsettled request.target
        (master.responseTo reply).onRequestData.first
        (octet :: (Segments.listFrom 1 rest).flatMap Segment.octets))
    obtain rfl : target = master.advance (master.responseTo reply) := hkeep.of_path hothers
    exact .accepted rfl hvalid
  · rw [if_neg hvalid, Dialogue.done_bind, andThen_error] at hothers
    obtain ⟨rfl, heq⟩ := Dialogue.path_done_iff.mp hothers
    cases heq
    exact .refused rfl hvalid

theorem begins_of_path_write {index : UInt16} {subindex : UInt8} {data : List UInt8}
    {events : List Event} {result : Except MasterError Unit} {target : Master}
    (path : (wire (writeParameter index subindex data) master).Path events (result, target)) :
    master.BeginsTransfer events target := by
  by_cases hlength : data.length ≤ maxWriteLength
  · rw [wire_writeParameter master index subindex hlength] at path
    obtain ⟨answer, hanswer, -⟩ := path_wire_bind_pure_iff.mp path
    exact begins_of_path_transfer hanswer
  · rw [wire_writeParameter_of_lt master index subindex (Nat.not_le.mp hlength)] at path
    obtain ⟨rfl, hend⟩ := Dialogue.path_done_iff.mp path
    cases hend
    exact .silent rfl

end Master

/-! ### The edges -/

namespace Step

open Master Master.Action

variable {step : Step} {α : Type}

/-- The action of the operation, without what it does with the value in the end. -/
theorem exists_inner (action : Action α) {f : α → Outcome}
    (h : step.operation.action = action >>= fun value => pure (f value)) :
    ∃ inner, (action.wire step.source).Path step.traffic (inner, step.target) ∧
      step.result = inner.map f := by
  have path := step.path_wire
  rw [h] at path
  exact path_wire_bind_pure_iff.mp path

/-- What holds of every master behind the action holds of the target. -/
theorem target_of_always {action : Action α} {f : α → Outcome}
    (h : step.operation.action = action >>= fun value => pure (f value)) {p : Master → Prop}
    (hp : (action.wire step.source).Always fun outcome => p outcome.2) : p step.target := by
  obtain ⟨inner, path, -⟩ := exists_inner action h
  exact hp.of_path path

theorem succeeds_iff {inner : Except MasterError α} {f : α → Outcome}
    (h : step.result = inner.map f) : step.Succeeds ↔ ∃ value, inner = .ok value := by
  rw [Succeeds, h]
  cases inner <;> simp [Except.map]

theorem followsEdge_startUp (h : step.operation = .startUp) : step.FollowsEdge := by
  obtain ⟨inner, path, hresult⟩ := step.exists_inner startUp (by rw [h]; rfl)
  have hends := always_startUp.of_path path
  rw [FollowsEdge, h]
  cases inner with
  | error error =>
    have htarget : step.target = step.source := hends
    simp [MovesTo, succeeds_iff hresult, htarget]
  | ok value =>
    have htarget : step.target = step.source.enter .preoperate := hends
    simp [MovesTo, succeeds_iff hresult, htarget]

/-- What gives back the response of a cycle takes the edge of a cycle. -/
theorem movesTo_of_confirm {action : Action Response}
    (h : step.operation.action = action >>= fun response => pure (.response response))
    (hends : (action.wire step.source).Always (EndsIn step.source.confirm step.source)) :
    step.MovesTo .operate (step.source.state = .established ∧ step.ReturnsValid) := by
  obtain ⟨inner, path, hresult⟩ := exists_inner action h
  have hinner := hends.of_path path
  cases inner with
  | error error =>
    have htarget : step.target = step.source := hinner
    have hvalid : ¬step.ReturnsValid := by
      rintro ⟨response, hresponse, -⟩
      cases hresult.symm.trans hresponse
    simp [MovesTo, hvalid, htarget]
  | ok response =>
    have htarget : step.target = step.source.confirm response := hinner
    have hvalid : step.ReturnsValid ↔ response.isValid := by
      rw [ReturnsValid, hresult]
      simp [Except.map]
    rw [MovesTo, htarget, hvalid]
    constructor
    · rintro ⟨hstate, hresponse⟩
      simp [confirm, hstate, hresponse]
    · intro hcondition
      rw [confirm, if_neg fun h => hcondition h.symm]

theorem cycleFrame_ne_operate (master : Master) (processData : List UInt8) (od : OnRequestData) :
    master.cycleFrame processData od ≠ Frame.plain Command.operate.octet 0 := by
  rw [cycleFrame]
  split
  · intro heq
    have hlength := length_cyclicFrame_ne_two master.geometry processData od
    rw [heq] at hlength
    exact hlength rfl
  · decide

/-- No call of a cycle announces the transition. -/
theorem not_announces_of_cycle (master : Master) {processData : List UInt8}
    {od : OnRequestData} {count timeout : Nat}
    {next : Option (List UInt8) → Dialogue (Except MasterError α × Master)} {events : List Event}
    {result : Except MasterError α × Master}
    (path : (roundTrip master (master.cycleFrame processData od) count timeout next).Path
      events result) (hnext : ∀ reply, ∃ outcome, next reply = .done outcome) :
    ∀ event ∈ events, ¬event.Announces := by
  have hsend : ∀ answer, ¬Event.Announces ⟨.send (master.cycleFrame processData od), answer⟩ := by
    rintro answer (heq | heq)
    · exact cycleFrame_ne_operate master processData od (Call.send.inj heq)
    · cases heq
  have hreceive : ∀ answer, ¬Event.Announces ⟨.receive count timeout, answer⟩ := by
    rintro answer (heq | heq) <;> cases heq
  obtain ⟨failure, rfl, -⟩ | ⟨failure, rfl, -⟩ | ⟨reply, rest, hrest, rfl⟩ :=
    path_roundTrip_iff.mp path
  · simp [hsend]
  · simp [hsend, hreceive]
  · obtain ⟨outcome, houtcome⟩ := hnext reply
    rw [houtcome] at hrest
    obtain ⟨rfl, -⟩ := Dialogue.path_done_iff.mp hrest
    simp [hsend, hreceive]

theorem announces_iff (h : step.operation = .enterOperate)
    (hstate : step.source.state = .preoperate) :
    step.Announces ↔ ∀ event ∈ step.traffic, event.Announces → event.failed = false := by
  rw [Step.Announces, and_iff_right h, and_iff_right hstate]
  refine forall_congr' fun event => ?_
  constructor
  · intro hevent hmem
    exact hevent (List.mem_filter.mp hmem).1
  · intro hevent hmem hannounces
    have htraffic : event.call.isTraffic := by
      obtain heq | heq := hannounces <;> rw [heq] <;> rfl
    exact hevent ((step.mem_traffic htraffic).mpr hmem) hannounces

/-- The transition is announced exactly if what came in before the command is dropped. -/
theorem announces_iff_discards (h : step.operation = .enterOperate) :
    step.Announces ↔ ⟨.discard, .ok ()⟩ ∈ step.traffic := by
  obtain ⟨inner, path, -⟩ := step.exists_inner enterOperate (by rw [h]; rfl)
  by_cases hstate : step.source.state = .preoperate
  · rw [wire_enterOperate _ hstate, path_announce_iff] at path
    rw [announces_iff h hstate]
    obtain ⟨failure, htraffic, -⟩ | ⟨failure, htraffic, -⟩ | ⟨rest, hrest, htraffic⟩ := path
    · simp [htraffic, Event.Announces, Event.failed]
    · simp [htraffic, Event.Announces, Event.failed]
    · have hquiet : ∀ event ∈ rest, ¬event.Announces := by
        refine not_announces_of_cycle (step.source.enter .established) hrest fun reply => ?_
        split <;> exact ⟨_, rfl⟩
      have hannounces : ∀ event ∈ step.traffic, event.Announces → event.failed = false := by
        intro event hmem hevent
        rw [htraffic, List.mem_cons, List.mem_cons] at hmem
        obtain rfl | rfl | hrest := hmem
        · rfl
        · rfl
        · exact absurd hevent (hquiet event hrest)
      exact ⟨fun _ => by simp [htraffic], fun _ => hannounces⟩
  · rw [wire_enterOperate_of_state _ hstate, Dialogue.path_done_iff] at path
    have hannounces : ¬step.Announces := fun hannounces => hstate hannounces.2.1
    simp [hannounces, path.1]

theorem followsEdge_enterOperate (h : step.operation = .enterOperate) : step.FollowsEdge := by
  obtain ⟨inner, path, hresult⟩ := step.exists_inner enterOperate (by rw [h]; rfl)
  rw [FollowsEdge, h]
  rw [announces_iff_discards h, succeeds_iff hresult]
  by_cases hstate : step.source.state = .preoperate
  · rw [wire_enterOperate _ hstate, path_announce_iff] at path
    obtain ⟨failure, htraffic, hend⟩ | ⟨failure, htraffic, hend⟩ | ⟨rest, hrest, htraffic⟩ := path
    · simp [htraffic, (Prod.mk.inj hend).2]
    · simp [htraffic, (Prod.mk.inj hend).2]
    · have hends : EndsIn (fun _ => step.source.enter .operate) (step.source.enter .established)
          (inner, step.target) := by
        refine Dialogue.Always.of_path (always_roundTrip.mpr ⟨fun _ => rfl, fun reply => ?_⟩) hrest
        split <;> exact rfl
      cases inner with
      | error error =>
        have htarget : step.target = step.source.enter .established := hends
        simp [htraffic, htarget]
      | ok value =>
        have htarget : step.target = step.source.enter .operate := hends
        simp [htraffic, htarget]
  · rw [wire_enterOperate_of_state _ hstate, Dialogue.path_done_iff] at path
    obtain ⟨htraffic, hend⟩ := path
    simp [htraffic, (Prod.mk.inj hend).2]

/-- What performs a transfer and nothing else on the line takes the edge of a transfer. -/
theorem movesTo_of_transfer
    (h : step.source.Advances step.traffic step.target) :
    step.MovesTo .operate (step.source.state = .established ∧ step.source.geometry.isCyclic ∧
      step.FirstExchangeValid) := by
  rw [Advances] at h
  rw [MovesTo, FirstExchangeValid, replies_eq]
  split at h
  · next hnone => simp [hnone, h]
  · next reply hsome =>
    rw [h, hsome]
    constructor
    · rintro ⟨hstate, hcyclic, other, heq, hvalid⟩
      cases heq
      simp [advance, confirm, hstate, hcyclic, hvalid]
    · intro hcondition
      by_cases hcyclic : step.source.geometry.isCyclic
      · have hnot : ¬((step.source.responseTo reply).isValid ∧
            step.source.state = .established) := by
          rintro ⟨hvalid, hstate⟩
          exact hcondition ⟨hstate, hcyclic, reply, rfl, hvalid⟩
        rw [advance, if_pos hcyclic, confirm, if_neg hnot]
      · rw [advance, if_neg hcyclic]

theorem beginsTransfer (h : step.operation.isTransfer) :
    step.source.BeginsTransfer step.traffic step.target := by
  cases hop : step.operation with
  | readParameter index subindex =>
    obtain ⟨inner, path, -⟩ := exists_inner (readParameter index subindex) (by rw [hop]; rfl)
    rw [wire_readParameter] at path
    exact begins_of_path_transfer path
  | writeParameter index subindex data =>
    obtain ⟨inner, path, -⟩ := exists_inner (writeParameter index subindex data) (by rw [hop]; rfl)
    exact begins_of_path_write path
  | _ =>
    rw [hop] at h
    cases h

/-- An operation that configures something changes neither the state nor the settings. -/
theorem target_configured (hop : step.operation.configures = true) :
    step.source.Configured step.target := by
  cases h : step.operation with
  | resize inputLength outputLength =>
    exact target_of_always (by rw [h]; rfl) (always_resize inputLength outputLength)
  | reconfigure geometry =>
    exact target_of_always (by rw [h]; rfl) (always_reconfigure geometry)
  | switchPhyMode mode =>
    exact target_of_always (by rw [h]; rfl) (always_switchPhyMode mode)
  | selectBaudRate name =>
    exact target_of_always (by rw [h]; rfl) (always_selectBaudRate name)
  | useBaudRate rate =>
    exact target_of_always (by rw [h]; rfl) (always_useBaudRate rate)
  | _ =>
    rw [h] at hop
    cases hop

/-- Every step takes the edge of its operation. -/
theorem followsEdge (step : Step) : step.FollowsEdge := by
  have hstay {α : Type} {action : Action α} {f : α → Outcome}
      (h : step.operation.action = action >>= fun value => pure (f value))
      (hkeep : (action.wire step.source).Always fun outcome => outcome.2 = step.source) :
      step.target.state = step.source.state :=
    congrArg Master.state (target_of_always (p := (· = step.source)) h hkeep)
  cases h : step.operation with
  | startUp => exact followsEdge_startUp h
  | enterOperate => exact followsEdge_enterOperate h
  | readParameter index subindex | writeParameter index subindex data =>
    rw [FollowsEdge, h]
    exact movesTo_of_transfer (beginsTransfer (by rw [h]; rfl)).advances
  | cycle processData octet =>
    rw [FollowsEdge, h]
    exact movesTo_of_confirm (by rw [h]; rfl) (always_cycle processData octet)
  | cycleWith processData od =>
    rw [FollowsEdge, h]
    exact movesTo_of_confirm (by rw [h]; rfl) (always_cycleWith processData od)
  | wakeUp =>
    rw [FollowsEdge, h]
    exact hstay (by rw [h]; rfl) always_wakeUp
  | probe =>
    rw [FollowsEdge, h]
    exact hstay (by rw [h]; rfl) always_probe
  | damagedCycle processData octet =>
    rw [FollowsEdge, h]
    exact hstay (by rw [h]; rfl) (always_damagedCycle processData octet)
  | injectFaults count =>
    rw [FollowsEdge, h]
    exact hstay (by rw [h]; rfl) (always_injectFaults count)
  | requestEvent =>
    rw [FollowsEdge, h]
    exact hstay (by rw [h]; rfl) always_requestEvent
  | resize inputLength outputLength | reconfigure geometry | switchPhyMode mode
  | selectBaudRate name | useBaudRate rate =>
    rw [FollowsEdge, h]
    exact (target_configured (by rw [h]; rfl)).1

/-- An operation that configures nothing changes the master in its state alone. -/
theorem target_entered (hop : step.operation.configures = false) :
    step.source.Entered step.target := by
  have hstay {α : Type} {action : Action α} {f : α → Outcome}
      (h : step.operation.action = action >>= fun value => pure (f value))
      (hkeep : (action.wire step.source).Always fun outcome => outcome.2 = step.source) :
      step.source.Entered step.target := by
    rw [target_of_always (p := (· = step.source)) h hkeep]
    exact .refl _
  have hends {α : Type} {action : Action α} {f : α → Outcome} {success : α → Master}
      (h : step.operation.action = action >>= fun value => pure (f value))
      (hkeep : (action.wire step.source).Always (EndsIn success step.source))
      (hsuccess : ∀ value, step.source.Entered (success value)) :
      step.source.Entered step.target :=
    target_of_always h (hkeep.mono fun _ => EndsIn.entered hsuccess (.refl _))
  cases h : step.operation with
  | startUp => exact hends (by rw [h]; rfl) always_startUp fun _ => ⟨_, rfl⟩
  | enterOperate => exact target_of_always (by rw [h]; rfl) always_enterOperate
  | readParameter index subindex | writeParameter index subindex data =>
    exact (beginsTransfer (by rw [h]; rfl)).advances.entered
  | cycle processData octet =>
    exact hends (by rw [h]; rfl) (always_cycle processData octet) (entered_confirm _)
  | cycleWith processData od =>
    exact hends (by rw [h]; rfl) (always_cycleWith processData od) (entered_confirm _)
  | wakeUp => exact hstay (by rw [h]; rfl) always_wakeUp
  | probe => exact hstay (by rw [h]; rfl) always_probe
  | damagedCycle processData octet =>
    exact hstay (by rw [h]; rfl) (always_damagedCycle processData octet)
  | injectFaults count => exact hstay (by rw [h]; rfl) (always_injectFaults count)
  | requestEvent => exact hstay (by rw [h]; rfl) always_requestEvent
  | _ =>
    rw [h] at hop
    cases hop

/-- No operation changes the settings. -/
theorem target_settings (step : Step) : step.target.settings = step.source.settings := by
  cases hop : step.operation.configures with
  | true => exact (target_configured hop).2
  | false =>
    obtain ⟨state, htarget⟩ := target_entered hop
    rw [htarget, enter_settings]

/-- A connection is never given up. -/
theorem target_connected (h : step.source.state ≠ .startup) : step.target.state ≠ .startup := by
  have hmoves {state : ConnectionState} {condition : Prop} (hstate : state ≠ .startup)
      (hmoves : step.MovesTo state condition) : step.target.state ≠ .startup := by
    by_cases hcondition : condition
    · rw [hmoves.1 hcondition]
      exact hstate
    · rw [hmoves.2 hcondition]
      exact h
  have hedge := step.followsEdge
  rw [FollowsEdge] at hedge
  split at hedge
  · exact hmoves (by decide) hedge
  · obtain ⟨hup, hestablished, hstay⟩ := hedge
    by_cases hannounces : step.Announces
    · by_cases hsucceeds : step.Succeeds
      · rw [hup hannounces hsucceeds]
        decide
      · rw [hestablished hannounces hsucceeds]
        decide
    · rw [hstay hannounces]
      exact h
  · exact hmoves (by decide) hedge
  · exact hmoves (by decide) hedge
  · exact hmoves (by decide) hedge
  · exact hmoves (by decide) hedge
  · rw [hedge]
    exact h

end Step

/-- All steps of a run have the settings that it began with. -/
theorem Run.source_settings {master target : Master} {steps : List Step}
    (run : Run master steps target) :
    ∀ step ∈ steps, step.source.settings = master.settings := by
  induction run with
  | nil master => simp
  | cons step rest ih =>
    intro other hmem
    rcases List.mem_cons.mp hmem with rfl | hmem
    · rfl
    · rw [ih other hmem, step.target_settings]

end Sdci
