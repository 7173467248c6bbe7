import Sdci.Proofs.Device.Registry

/-!
# A device is a parameter store

What a master gets from a device behind a line is what its parameters and its events say, over any
list of operations that leaves the geometry alone and begins no request outside of a transfer
(`Device.parameter_store`).
-/

namespace Sdci

open Isdu

namespace Master

open Master.Action Device

variable {registry : Registry} {master : Master} {line : Device.Line} {pollLimit : Nat}

/-- The receiver of a transfer is fed what the request has left in the queue, the answer behind it,
and zeros. -/
theorem play_request {ρ α : Type} [Receiver ρ α]
    (hholds : Holds registry master.geometry line.device) (hstate : master.state ≠ .startup)
    {request : Request} {receiver : ρ} {wrap : α → Outcome}
    (hreceive : ∀ octets, request.receive pollLimit octets =
      outcome wrap (Receiver.feedAll receiver octets))
    {zeros taken : Nat} {result : Except MasterError Outcome}
    (h : request.receive pollLimit (line.device.outbound.drop (request.odOctets.length - 1) ++
      answerQueue registry request ++ List.replicate zeros 0) = (taken, some result)) :
    let played := (wire (transfer request receiver) master).play line
    played.1.1.map wrap = result ∧
      Holds (registry.serve request) master.geometry played.2.device ∧
      played.2.device.outbound =
        (line.device.outbound.drop (request.odOctets.length - 1) ++
          answerQueue registry request).drop taken := by
  intro played
  rw [← outbound_serve hholds, hreceive, outcome] at h
  obtain ⟨hcount, hresult⟩ := Prod.mk.inj h
  obtain ⟨answer, hanswer, hwrap⟩ := Option.map_eq_some_iff.mp hresult
  have hqueued : ((line.device.flushed request).serve request).outbound ≠ [] := by
    rw [outbound_serve hholds]
    exact List.append_ne_nil_of_right_ne_nil _ (answerQueue_ne_nil registry request)
  obtain ⟨after, -, hend, hdevice⟩ := play_transfer (.refl hstate) hholds.geometry_eq hholds.idle
    rfl hqueued (Prod.ext hcount hanswer)
  have hend' : played.1 = (answer.mapError .transfer, after) := hend
  refine ⟨?_, ?_, ?_⟩
  · rw [hend', hwrap]
  · rw [hdevice]
    exact hholds.serve request _
  · rw [hdevice, outbound_serve hholds]

/-- The operation gets the result of the registry, if it is a service, and the device holds the
registry behind it. -/
structure Serves (registry : Registry) (pollLimit : Nat) (geometry : Geometry)
    (operation : Operation) (outcome : Step × Device.Line) : Prop where
  result_eq : operation.isService = true →
    outcome.1.result = (registry.perform pollLimit operation).1
  holds : Holds (registry.perform pollLimit operation).2 geometry outcome.2.device

variable (hholds : Holds registry master.geometry line.device)

include hholds

/-- What a transfer gets, and what it leaves in the queue, whatever was in the queue before. -/
theorem step_request (hstate : master.state ≠ .startup) {request : Request} {zeros taken : Nat}
    {result : Except MasterError Outcome}
    (h : request.receive master.settings.pollLimit
      (line.device.outbound.drop (request.odOctets.length - 1) ++ answerQueue registry request ++
        List.replicate zeros 0) = (taken, some result)) :
    let outcome := request.operation.step master line
    outcome.1.result = result ∧
      Holds (registry.serve request) master.geometry outcome.2.device ∧
      outcome.2.device.outbound =
        (line.device.outbound.drop (request.odOctets.length - 1) ++
          answerQueue registry request).drop taken := by
  cases request with
  | read index subindex =>
    rw [Request.operation]
    intro outcome
    obtain ⟨hresult, -, hline⟩ := step_eq (readParameter index subindex)
      (.readParameter index subindex) rfl master line
    rw [wire_readParameter] at hresult hline
    obtain ⟨hplay, hplayed⟩ := play_request hholds hstate (fun _ => rfl) h
    rw [← hline] at hplayed
    exact ⟨hresult.trans hplay, hplayed⟩
  | write index subindex data length_le =>
    rw [Request.operation]
    intro outcome
    obtain ⟨hresult, -, hline⟩ := step_eq (writeParameter index subindex data)
      (.writeParameter index subindex data) rfl master line
    rw [wire_writeParameter _ _ _ length_le, play_bind_pure] at hresult hline
    obtain ⟨hplay, hplayed⟩ := play_request hholds hstate (fun _ => rfl) h
    have hmap (result : Except MasterError UInt8) :
        (result.map fun _ => ()).map (fun _ => Outcome.nothing) =
          result.map fun _ => Outcome.nothing := by
      cases result <;> rfl
    rw [← hline] at hplayed
    exact ⟨(hresult.trans (hmap _)).trans hplay, hplayed⟩

/-- A transfer that finds no more in the queue than its request lets out gets what the registry
says. -/
theorem step_request_of_length (hstate : master.state ≠ .startup) {request : Request}
    (hout : line.device.outbound.length < request.odOctets.length) :
    let outcome := request.operation.step master line
    Serves registry master.settings.pollLimit master.geometry request.operation outcome ∧
      ∀ value, registry.answer master.settings.pollLimit request = .ok value →
        outcome.2.device.outbound.tail = [] := by
  intro outcome
  obtain ⟨taken, hreceive, hleft⟩ :=
    @Request.receive_answerQueue registry master.settings.pollLimit request
  have hdrop : line.device.outbound.drop (request.odOctets.length - 1) = [] :=
    List.drop_eq_nil_of_le (by omega)
  have hfed : request.receive master.settings.pollLimit
      (line.device.outbound.drop (request.odOctets.length - 1) ++ answerQueue registry request ++
        List.replicate 0 0) =
      (taken, some ((registry.answer master.settings.pollLimit request).mapError .transfer)) := by
    rw [hdrop, List.replicate_zero, List.append_nil, List.nil_append]
    exact hreceive
  obtain ⟨hresult, hafter, hqueue⟩ := step_request hholds hstate hfed
  have hperform := registry.perform_operation master.settings.pollLimit request
  refine ⟨⟨fun _ => ?_, ?_⟩, fun value hvalue => ?_⟩
  · rw [hperform]
    exact hresult
  · rw [hperform]
    exact hafter
  · rw [hqueue, hdrop, List.nil_append]
    exact hleft value hvalue

/-- A write of too much data leaves the device alone. -/
theorem step_write_of_lt (index : UInt16) (subindex : UInt8) {data : List UInt8}
    (h : maxWriteLength < data.length) :
    let operation : Operation := .writeParameter index subindex data
    let outcome := operation.step master line
    Serves registry pollLimit master.geometry operation outcome ∧
      outcome.2.device = line.device := by
  intro operation outcome
  obtain ⟨hresult, -, hline⟩ :=
    step_eq (writeParameter index subindex data) operation rfl master line
  rw [wire_writeParameter_of_lt _ _ _ h] at hresult hline
  have hperform := registry.perform_writeParameter_of_lt pollLimit index subindex h
  refine ⟨⟨fun _ => ?_, ?_⟩, ?_⟩
  · rw [hperform]
    exact hresult
  · rw [hperform, hline]
    exact hholds
  · rw [hline]
    rfl

/-- An event is the next one of the device. -/
theorem step_requestEvent (hstate : master.state ≠ .startup) :
    let outcome := Operation.requestEvent.step master line
    Serves registry pollLimit master.geometry .requestEvent outcome ∧
      outcome.2.device.outbound = line.device.outbound := by
  intro outcome
  obtain ⟨hresult, -, hline⟩ := step_eq requestEvent .requestEvent rfl master line
  rw [wire_requestEvent _ hstate, play_roundTrip, handle_event hholds.idle, eventIn_reportEvent,
    snd_reportEvent] at hresult hline
  obtain ⟨rfl, hgeometry, hidle⟩ := hholds
  refine ⟨⟨fun _ => hresult, ?_⟩, ?_⟩
  · rw [hline]
    exact ⟨rfl, hgeometry, hidle⟩
  · rw [hline]
    rfl

/-- A startup sequence finds an idle device, whatever is left in its queue. -/
theorem step_startUp (hattempts : 0 < master.settings.startupAttempts) :
    let outcome := Operation.startUp.step master line
    Serves registry pollLimit master.geometry .startUp outcome ∧ outcome.2.device.outbound = [] ∧
      outcome.1.target = master.enter .preoperate := by
  intro outcome
  obtain ⟨hresult, htarget, hline⟩ := step_eq startUp .startUp rfl master line
  obtain ⟨attempts, hsucc⟩ : ∃ attempts, master.settings.startupAttempts = attempts + 1 :=
    ⟨_, (Nat.sub_add_cancel hattempts).symm⟩
  have hreaches : master.Reaches line.device.reset (Frame.plain Command.idle.octet 0) 0 :=
    reaches_plain (spares_zero line.device.reset)
  obtain ⟨reply, hhandle, hresponse, -⟩ := hreaches
  rw [exchange_of_idle rfl rfl] at hhandle
  have hvalid : (master.responseTo (some reply.octets)).isValid = true := by
    rw [hresponse]
    rfl
  rw [wire_startUp, play_announce, handle_wakeUp hholds.idle, hsucc, wire_probeUntilValid_succ,
    play_roundTrip, hhandle, if_pos hvalid] at hresult htarget hline
  obtain ⟨rfl, hgeometry, -⟩ := hholds
  refine ⟨⟨fun _ => hresult, ?_⟩, ?_, htarget⟩
  · rw [hline]
    exact ⟨rfl, hgeometry, rfl⟩
  · rw [hline]
    rfl

/-- Every step that spares the device serves its registry. A device at rest stays so, unless a
transfer is given up, and a startup sequence brings it to rest. -/
theorem step_serves {operation : Operation} (hspares : operation.sparesDevice = true)
    (hstate : master.state ≠ .startup) (hattempts : 0 < master.settings.startupAttempts)
    (hout : operation.isTransfer = true → line.device.outbound.tail = []) :
    let outcome := operation.step master line
    Serves registry master.settings.pollLimit master.geometry operation outcome ∧
      (operation = .startUp ∨ line.device.outbound.tail = [] ∧
          (registry.Steady master.settings.pollLimit ∨ operation.isTransfer = false) →
        outcome.2.device.outbound.tail = []) := by
  intro outcome
  have hrequest (request : Request) (hop : request.operation = operation)
      (hout : line.device.outbound.tail = []) :
      Serves registry master.settings.pollLimit master.geometry operation outcome ∧
        (operation = .startUp ∨ line.device.outbound.tail = [] ∧
            (registry.Steady master.settings.pollLimit ∨ operation.isTransfer = false) →
          outcome.2.device.outbound.tail = []) := by
    have hlength : line.device.outbound.length < request.odOctets.length := by
      have hsub := congrArg List.length hout
      have height := request.eight_le_length_odOctets
      rw [List.length_tail, List.length_nil] at hsub
      omega
    subst hop
    obtain ⟨hserves, hleft⟩ := step_request_of_length hholds hstate hlength
    refine ⟨hserves, ?_⟩
    rintro (hstart | ⟨-, hsteady | hnot⟩)
    · cases request <;> cases hstart
    · obtain ⟨value, hvalue⟩ := hsteady.exists_answer request
      exact hleft value hvalue
    · cases request <;> cases hnot
  by_cases hservice : operation.isService = true
  · cases operation with
    | startUp =>
      obtain ⟨hserves, hempty, -⟩ := step_startUp hholds hattempts
      exact ⟨hserves, fun _ => by rw [hempty, List.tail_nil]⟩
    | requestEvent =>
      obtain ⟨hserves, hkeep⟩ := step_requestEvent hholds hstate
      refine ⟨hserves, ?_⟩
      rintro (⟨⟨⟩⟩ | ⟨htail, -⟩)
      rw [hkeep]
      exact htail
    | readParameter index subindex => exact hrequest (.read index subindex) rfl (hout rfl)
    | writeParameter index subindex data =>
      by_cases hlength : data.length ≤ maxWriteLength
      · exact hrequest (.write index subindex data hlength) rfl (hout rfl)
      · obtain ⟨hserves, hkeep⟩ :=
          step_write_of_lt hholds index subindex (Nat.not_le.mp hlength)
        refine ⟨hserves, fun _ => ?_⟩
        rw [hkeep]
        exact hout rfl
    | _ => cases hservice
  · have hquiet : operation.isService = false := by simpa using hservice
    have hdrained : line.device.Drained outcome.2.device :=
      Operation.drained_step hspares hquiet hholds.idle hholds.geometry_eq
    refine ⟨⟨fun hyes => absurd hyes hservice, ?_⟩, ?_⟩
    · rw [Registry.snd_perform_of_not_isService hquiet]
      exact hholds.drained hdrained
    · rintro (rfl | ⟨htail, -⟩)
      · cases hquiet
      · exact hdrained.tail_outbound htail

end Master

/-! ### Runs -/

namespace Device

open Master

variable {registry : Registry} {pollLimit : Nat} {device : Device} {operations : List Operation}

/-- No transfer of the operations finds octets of an answer in the queue that another one left. -/
def Clear (registry : Registry) (pollLimit : Nat) (device : Device) (operations : List Operation) :
    Prop :=
  registry.Steady pollLimit ∧ device.outbound.tail = [] ∨
    ∃ isRested, Operation.paced isRested operations = true ∧
      (isRested = true → device.outbound.tail = [])

theorem Clear.tail_outbound {operation : Operation} {rest : List Operation}
    (h : Clear registry pollLimit device (operation :: rest))
    (htransfer : operation.isTransfer = true) : device.outbound.tail = [] := by
  rcases h with ⟨-, htail⟩ | ⟨isRested, hpaced, htail⟩
  · exact htail
  · rcases (Operation.paced_cons_iff.mp hpaced).1 with hrested | hnot
    · exact htail hrested
    · cases htransfer.symm.trans hnot

theorem Clear.next {operation : Operation} {rest : List Operation} {after : Device}
    (h : Clear registry pollLimit device (operation :: rest))
    (hafter : operation = .startUp ∨ device.outbound.tail = [] ∧
      (registry.Steady pollLimit ∨ operation.isTransfer = false) → after.outbound.tail = []) :
    Clear (registry.perform pollLimit operation).2 pollLimit after rest := by
  rcases h with ⟨hsteady, htail⟩ | ⟨isRested, hpaced, htail⟩
  · exact .inl ⟨hsteady.perform operation, hafter (.inr ⟨htail, .inl hsteady⟩)⟩
  · refine .inr ⟨_, (Operation.paced_cons_iff.mp hpaced).2, fun hrests => hafter ?_⟩
    rcases Operation.rests_iff.mp hrests with hstart | ⟨hrested, hnot⟩
    · exact .inl hstart
    · exact .inr ⟨htail hrested, .inr hnot⟩

/-- The services among the operations got the results of the registry, and the device holds the
registry behind all of them. -/
def Served (registry : Registry) (pollLimit : Nat) (operations : List Operation)
    (session : List Step × Master × Device.Line) : Prop :=
  let store := registry.performAll pollLimit (operations.filter (·.isService))
  (session.1.filter (·.operation.isService)).map Step.result = store.1 ∧
    session.2.2.device.registry = store.2

theorem served_cons {master : Master} {line : Device.Line} {operation : Operation}
    {rest : List Operation}
    (h : Serves registry pollLimit master.geometry operation (operation.step master line))
    (hrest : Served (registry.perform pollLimit operation).2 pollLimit rest
      ((operation.step master line).1.target.steps (operation.step master line).2 rest)) :
    Served registry pollLimit (operation :: rest) (master.steps line (operation :: rest)) := by
  obtain ⟨hresult, -⟩ := h
  obtain ⟨hresults, hregistry⟩ := hrest
  let outcome := operation.step master line
  let session := outcome.1.target.steps outcome.2 rest
  by_cases hservice : operation.isService = true
  · have hsteps : (master.steps line (operation :: rest)).1.filter (·.operation.isService) =
        outcome.1 :: session.1.filter (·.operation.isService) :=
      List.filter_cons_of_pos hservice
    rw [Served, hsteps, List.filter_cons_of_pos hservice, List.map_cons, hresult hservice, hresults]
    exact ⟨rfl, hregistry⟩
  · have hquiet : operation.isService = false := by simpa using hservice
    have hsteps : (master.steps line (operation :: rest)).1.filter (·.operation.isService) =
        session.1.filter (·.operation.isService) :=
      List.filter_cons_of_neg hservice
    rw [Registry.snd_perform_of_not_isService hquiet] at hresults hregistry
    rw [Served, hsteps, List.filter_cons_of_neg hservice, hresults]
    exact ⟨rfl, hregistry⟩

theorem served_steps {master : Master} {line : Device.Line}
    (hholds : Holds registry master.geometry line.device) (hstate : master.state ≠ .startup)
    (hattempts : 0 < master.settings.startupAttempts)
    (hlimit : master.settings.pollLimit = pollLimit)
    (hspares : ∀ operation ∈ operations, operation.sparesDevice = true)
    (hclear : Clear registry pollLimit line.device operations) :
    Served registry pollLimit operations (master.steps line operations) := by
  -- `Holds` and `Clear` are the invariant: with the first a step serves, and with the second a
  -- transfer starts with an empty queue.
  induction operations generalizing registry master line with
  | nil => exact ⟨rfl, hholds.registry_eq⟩
  | cons operation rest ih =>
    obtain ⟨hhead, htail⟩ := List.forall_mem_cons.mp hspares
    let outcome := operation.step master line
    obtain ⟨hserves, hrest⟩ := step_serves hholds hhead hstate hattempts hclear.tail_outbound
    rw [hlimit] at hserves hrest
    have hsettings : outcome.1.target.settings = master.settings := outcome.1.target_settings
    have hholds' : Holds (registry.perform pollLimit operation).2 outcome.1.target.geometry
        outcome.2.device := by
      rw [outcome.1.target_geometry hhead]
      exact hserves.holds
    apply served_cons hserves
    apply ih hholds' (outcome.1.target_connected hstate)
    · rw [hsettings]
      exact hattempts
    · rw [hsettings]
      exact hlimit
    · exact htail
    · exact hclear.next hrest

/-- From a startup sequence on, it does not matter what the state of the master was. -/
theorem served_steps_startUp {master : Master} {line : Device.Line}
    (hholds : Holds registry master.geometry line.device)
    (hattempts : 0 < master.settings.startupAttempts)
    (hspares : ∀ operation ∈ operations, operation.sparesDevice = true)
    (hpaced : registry.Steady master.settings.pollLimit ∨ Operation.paced true operations = true) :
    Served registry master.settings.pollLimit (.startUp :: operations)
      (master.steps line (.startUp :: operations)) := by
  obtain ⟨hserves, hempty, htarget⟩ := step_startUp hholds hattempts
  let outcome := Operation.startUp.step master line
  have htail : outcome.2.device.outbound.tail = [] := by
    rw [hempty, List.tail_nil]
  have hclear : Clear registry master.settings.pollLimit outcome.2.device operations := by
    rcases hpaced with hsteady | hpaced
    · exact .inl ⟨hsteady, htail⟩
    · exact .inr ⟨true, hpaced, fun _ => htail⟩
  apply served_cons hserves
  apply served_steps
  · rw [htarget, enter_geometry]
    exact hserves.holds
  · rw [htarget, enter_state]
    decide
  · rw [htarget, enter_settings]
    exact hattempts
  · rw [htarget, enter_settings]
  · exact hspares
  · exact hclear

/-- Over the line to a new device, and from a startup sequence on, the events and the parameter
transfers of a new master get what the device knows, and the device knows in the end what was
written. Either no transfer is given up, or there is a startup sequence between any two of them. -/
theorem parameter_store (geometry : Geometry) (settings : Settings)
    (hattempts : 0 < settings.startupAttempts) (processData : List UInt8) (registry : Registry)
    (operations : List Operation)
    (hspares : ∀ operation ∈ operations, operation.sparesDevice = true)
    (hpaced : registry.Steady settings.pollLimit ∨ Operation.paced true operations = true) :
    let device := Device.new geometry processData registry.events registry.parameters
      registry.busyPolls
    let session := (Master.new geometry settings).steps (⟨device, none⟩ : Device.Line)
      (.startUp :: operations)
    let store := registry.performAll settings.pollLimit
      (.startUp :: operations.filter (·.isService))
    (session.1.filter (·.operation.isService)).map Step.result = store.1 ∧
      session.2.2.device.registry = store.2 := by
  intro device session store
  have hnew : Holds registry geometry device := ⟨rfl, rfl, rfl⟩
  exact @served_steps_startUp registry operations (.new geometry settings) ⟨device, none⟩ hnew
    hattempts hspares hpaced

/-- In a cyclic session a value that was written is read back, with a cycle and the event of the
device in between. -/
theorem parameter_store_of_write :
    let geometry : Geometry := ⟨.type22, 3, 2, by decide, by decide⟩
    let registry : Registry := ⟨fun _ => none, [0x1800], 2⟩
    let device := Device.new geometry [7] registry.events registry.parameters registry.busyPolls
    let session := (Master.new geometry).steps (⟨device, none⟩ : Device.Line)
      [.startUp, .enterOperate, .writeParameter 0x18 0 [1, 2], .cycle [5, 6] 0, .requestEvent,
        .readParameter 0x18 0]
    (session.1.filter (·.operation.isService)).map Step.result =
      [.ok .nothing, .ok .nothing, .ok (.event (some 0x1800)), .ok (.data [1, 2])] := by
  intro geometry registry device session
  have hsteady : registry.Steady 10 := ⟨by decide, fun _ => Nat.zero_le _⟩
  exact (parameter_store geometry {} (by decide) [7] registry
    [.enterOperate, .writeParameter 0x18 0 [1, 2], .cycle [5, 6] 0, .requestEvent,
      .readParameter 0x18 0] (by decide) (.inl hsteady)).1

end Device

end Sdci
