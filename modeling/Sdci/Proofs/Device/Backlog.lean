import Sdci.Proofs.Device.ParameterStore
import Sdci.Proofs.Master.Refusal

/-!
# Octets of an answer that nobody has taken

A transfer that is given up leaves octets of its answer in the queue of the device. The next request
lets as many of them out as it has octets but one, and its receiver is fed the others before its own
answer (`Master.step_request`). So a read gets the value of its parameter if no more than seven are
left (`Device.read_behind_transfers`), and the value of another one if the device is busy for long
enough (`Device.read_given_up`).
-/

namespace Sdci

open Isdu

/-! ### Steps -/

namespace Master

open Device

variable {registry : Registry} {master : Master} {line : Device.Line}
  (hholds : Holds registry master.geometry line.device)

include hholds

/-- A read gets what its receiver makes of the octets that its request has left in the queue, of the
answer behind these, and of zeros. If the request leaves none, it gets what the registry says. -/
theorem step_read (hstate : master.state ≠ .startup) {index : UInt16} {subindex : UInt8}
    {outcome : Step × Device.Line}
    (hstep : (Request.read index subindex).operation.step master line = outcome) :
    let request := Request.read index subindex
    let pollLimit := master.settings.pollLimit
    let queue := line.device.outbound
    (∃ taken, request.receive pollLimit (queue.drop 7 ++ answerQueue registry request ++
      List.replicate (request.exchangeLimit pollLimit) 0) = (taken, some outcome.1.result)) ∧
    (queue.length ≤ 7 →
      outcome.1.result = (registry.answer pollLimit request).mapError .transfer) := by
  dsimp only
  have hlength : (Request.read index subindex).odOctets.length = 8 := Request.length_odOctets _
  refine ⟨?_, fun hqueue => ?_⟩
  · obtain ⟨taken, result, hreceive⟩ := (Request.read index subindex).exists_receive
      master.settings.pollLimit (line.device.outbound.drop
        ((Request.read index subindex).odOctets.length - 1) ++
          answerQueue registry (.read index subindex))
    obtain ⟨hresult, -⟩ := step_request hholds hstate hreceive
    rw [hstep] at hresult
    rw [hlength, ← hresult] at hreceive
    exact ⟨taken, hreceive⟩
  · have hout : line.device.outbound.length < (Request.read index subindex).odOctets.length := by
      rw [hlength]
      exact Nat.lt_succ_of_le hqueue
    obtain ⟨⟨hresult, -⟩, -⟩ := step_request_of_length hholds hstate hout
    rw [hstep, Registry.perform_operation] at hresult
    exact hresult rfl

/-- Every transfer has its effect on the registry of the device, whatever the queue holds and
whatever the master gets. If the queue holds one octet at most and the transfer gets an answer, it
stays so. -/
theorem step_transfer (hstate : master.state ≠ .startup) {operation : Operation}
    (htransfer : operation.isTransfer) :
    let outcome := operation.step master line
    Holds (registry.perform master.settings.pollLimit operation).2 master.geometry
        outcome.2.device ∧
      ((∀ error, outcome.1.result = .error error → error.isRejection) →
        line.device.outbound.length ≤ 1 → outcome.2.device.outbound.length ≤ 1) := by
  intro outcome
  have hrequest (request : Request) (hop : request.operation = operation) :
      Holds (registry.perform master.settings.pollLimit operation).2 master.geometry
          outcome.2.device ∧
        ((∀ error, outcome.1.result = .error error → error.isRejection) →
          line.device.outbound.length ≤ 1 → outcome.2.device.outbound.length ≤ 1) := by
    subst hop
    have hperform := registry.perform_operation master.settings.pollLimit request
    obtain ⟨taken, result, hreceive⟩ := request.exists_receive master.settings.pollLimit
      (line.device.outbound.drop (request.odOctets.length - 1) ++ answerQueue registry request)
    obtain ⟨-, hafter, -⟩ := step_request hholds hstate hreceive
    refine ⟨by rw [hperform]; exact hafter, fun hresults hlength => ?_⟩
    have height := request.eight_le_length_odOctets
    obtain ⟨hserves, hleft⟩ := step_request_of_length hholds hstate
      (show line.device.outbound.length < request.odOctets.length by omega)
    have hresult : outcome.1.result =
        (registry.answer master.settings.pollLimit request).mapError .transfer := by
      rw [hserves.result_eq (by cases request <;> rfl), hperform]
    cases hanswer : registry.answer master.settings.pollLimit request with
    | ok value =>
      have htail := congrArg List.length (hleft value hanswer)
      rw [List.length_tail, List.length_nil] at htail
      show (request.operation.step master line).2.device.outbound.length ≤ 1
      omega
    | error error =>
      -- What the registry answers is no rejection, for the request is one.
      rw [hanswer] at hresult
      have hrefusal := (Step.rejected_iff (hresults _ hresult)).mp hresult
      cases request with
      | read index subindex => cases hrefusal
      | write index subindex data length_le =>
        rw [show outcome.1.operation = .writeParameter index subindex data from rfl,
          Operation.refusal?, if_pos length_le] at hrefusal
        cases hrefusal
  cases operation with
  | readParameter index subindex => exact hrequest (.read index subindex) rfl
  | writeParameter index subindex data =>
    by_cases hlength : data.length ≤ maxWriteLength
    · exact hrequest (.write index subindex data hlength) rfl
    · obtain ⟨⟨-, hafter⟩, hdevice⟩ :=
        step_write_of_lt hholds index subindex (Nat.not_le.mp hlength)
      refine ⟨hafter, fun _ hout => ?_⟩
      rw [hdevice]
      exact hout
  | _ => cases htransfer

end Master

/-! ### Runs -/

namespace Device

open Master

variable {registry : Registry} {operations : List Operation}

/-- The device holds the registry behind any transfers. If none of them failed, but for those that
were rejected, its queue holds one octet at most. -/
theorem holds_transfers {master : Master} {line : Device.Line}
    (hholds : Holds registry master.geometry line.device) (hstate : master.state ≠ .startup)
    (htransfers : ∀ operation ∈ operations, operation.isTransfer) :
    let session := master.steps line operations
    Holds (registry.performAll master.settings.pollLimit operations).2 session.2.1.geometry
        session.2.2.device ∧
      session.2.1.state ≠ .startup ∧ session.2.1.settings = master.settings ∧
      ((∀ step ∈ session.1, ∀ error, step.result = .error error → error.isRejection) →
        line.device.outbound.length ≤ 1 → session.2.2.device.outbound.length ≤ 1) := by
  induction operations generalizing registry master line with
  | nil => exact ⟨hholds, hstate, rfl, fun _ hout => hout⟩
  | cons operation rest ih =>
    intro session
    obtain ⟨hhead, htail⟩ := List.forall_mem_cons.mp htransfers
    have hspares : operation.sparesDevice = true := by
      cases operation <;> first | rfl | cases hhead
    obtain ⟨hafter, hclear⟩ := step_transfer hholds hstate hhead
    obtain ⟨hgeometry, hsettings, hstate'⟩ :=
      Operation.target_of_sparesDevice hspares hstate (show operation.step master line = _ from rfl)
    rw [← hgeometry] at hafter
    obtain ⟨hend, hstate', hsettings', hclear'⟩ := ih hafter hstate' htail
    rw [hsettings] at hend hsettings'
    refine ⟨hend, hstate', hsettings', fun hresults hout => ?_⟩
    obtain ⟨hresult, hresults⟩ := List.forall_mem_cons.mp hresults
    exact hclear' hresults (hclear hresult hout)

/-- A transition to operate leaves an empty queue empty. -/
theorem holds_enterOperate {master : Master} {line : Device.Line}
    (hholds : Holds registry master.geometry line.device) (hstate : master.state ≠ .startup)
    (hempty : line.device.outbound = []) {outcome : Step × Device.Line}
    (hstep : Operation.enterOperate.step master line = outcome) :
    Holds registry outcome.1.target.geometry outcome.2.device ∧
      outcome.1.target.state ≠ .startup ∧ outcome.1.target.settings = master.settings ∧
      outcome.2.device.outbound = [] := by
  have hdrained : line.device.Drained outcome.2.device := by
    rw [← hstep]
    exact Operation.drained_step rfl rfl hholds.idle hholds.geometry_eq
  obtain ⟨hgeometry, hsettings, hstate'⟩ := Operation.target_of_sparesDevice rfl hstate hstep
  refine ⟨?_, hstate', hsettings, ?_⟩
  · rw [hgeometry]
    exact hholds.drained hdrained
  · obtain ⟨count, request, hafter⟩ := hdrained
    rw [hafter, hempty, List.drop_nil]

/-- Behind a startup sequence and the transition to operate nothing is in the queue. -/
theorem holds_connected {master : Master} {line : Device.Line}
    (hholds : Holds registry master.geometry line.device)
    (hattempts : 0 < master.settings.startupAttempts) {started entered : Step × Device.Line}
    (hstart : Operation.startUp.step master line = started)
    (henter : Operation.enterOperate.step started.1.target started.2 = entered) :
    Holds registry entered.1.target.geometry entered.2.device ∧
      entered.1.target.state ≠ .startup ∧ entered.1.target.settings = master.settings ∧
      entered.2.device.outbound = [] := by
  obtain ⟨⟨-, hafter⟩, hempty, htarget⟩ := @step_startUp registry master line 0 hholds hattempts
  rw [hstart] at hafter hempty htarget
  have hstate : started.1.target.state ≠ .startup := by
    rw [htarget, enter_state]
    decide
  have hstarted : Holds registry started.1.target.geometry started.2.device := by
    rw [htarget]
    exact hafter
  have hentered := holds_enterOperate hstarted hstate hempty henter
  rw [htarget, enter_settings] at hentered
  exact hentered

/-- The device holds the registry behind any transfers in a connection. -/
theorem holds_session {master : Master} {settings : Settings} {line : Device.Line}
    (hholds : Holds registry master.geometry line.device)
    (hmaster : master.settings = settings) (hattempts : 0 < settings.startupAttempts)
    (htransfers : ∀ operation ∈ operations, operation.isTransfer)
    {session : List Step × Master × Device.Line}
    (hsession : master.steps line (.startUp :: .enterOperate :: operations) = session) :
    Holds (registry.performAll settings.pollLimit operations).2 session.2.1.geometry
        session.2.2.device ∧
      session.2.1.state ≠ .startup ∧ session.2.1.settings = settings ∧
      ((∀ step ∈ session.1, ∀ error, step.result = .error error → error.isRejection) →
        session.2.2.device.outbound.length ≤ 1) := by
  subst hmaster hsession
  obtain ⟨hentered, hstate, hsettings, hqueue⟩ := holds_connected hholds hattempts rfl rfl
  rw [steps_cons, steps_cons]
  obtain ⟨hend, hstate', hsettings', hclear⟩ := holds_transfers hentered hstate htransfers
  rw [hsettings] at hend hsettings'
  refine ⟨hend, hstate', hsettings', fun hresults => hclear (fun step hmem => ?_) ?_⟩
  · exact hresults step (List.mem_cons_of_mem _ (List.mem_cons_of_mem _ hmem))
  · rw [hqueue]
    exact Nat.zero_le 1

/-- What a read gets behind any transfers, over the line to a new device and from a startup sequence
and the transition to operate on. The device knows what was written, whatever the master got for it.
The read gets what its receiver makes of the octets that its request has left in the queue, of the
answer behind these, and of zeros. If no more than seven octets are left by then, the ones that go
out with the request, the read gets what the device knows; and so it is unless a transfer failed. -/
theorem read_behind_transfers (geometry : Geometry) (settings : Settings)
    (hattempts : 0 < settings.startupAttempts) (processData : List UInt8) (registry : Registry)
    (transfers : List Operation) (htransfers : ∀ operation ∈ transfers, operation.isTransfer)
    (index : UInt16) (subindex : UInt8) :
    let device := Device.new geometry processData registry.events registry.parameters
      registry.busyPolls
    let session := (Master.new geometry settings).steps (⟨device, none⟩ : Device.Line)
      (.startUp :: .enterOperate :: transfers)
    let store := (registry.performAll settings.pollLimit transfers).2
    let request := Request.read index subindex
    let queue := session.2.2.device.outbound
    let result := (request.operation.step session.2.1 session.2.2).1.result
    session.2.2.device.registry = store ∧
    (∃ taken, request.receive settings.pollLimit (queue.drop 7 ++ answerQueue store request ++
      List.replicate (request.exchangeLimit settings.pollLimit) 0) = (taken, some result)) ∧
    (queue.length ≤ 7 →
      result = (store.answer settings.pollLimit request).mapError .transfer ∧
        ∀ value, result = .ok (.data value) → value = store.value (index, subindex)) ∧
    ((∀ step ∈ session.1, ∀ error, step.result = .error error → error.isRejection) →
      queue.length ≤ 1) := by
  intro device session store request queue
  have hnew : Holds registry (Master.new geometry settings).geometry device := ⟨rfl, rfl, rfl⟩
  obtain ⟨hholds, hstate, hsettings, hclear⟩ :=
    @holds_session registry transfers (.new geometry settings) settings ⟨device, none⟩ hnew rfl
      hattempts htransfers session rfl
  generalize hstep : request.operation.step session.2.1 session.2.2 = outcome
  intro result
  obtain ⟨hreceive, hanswer⟩ := step_read hholds hstate hstep
  rw [hsettings] at hreceive hanswer
  refine ⟨hholds.registry_eq, hreceive, fun hqueue => ⟨hanswer hqueue, fun value hvalue => ?_⟩,
    hclear⟩
  exact Registry.eq_value_of_answer ((hanswer hqueue).symm.trans hvalue)

/-- A value that was written is read back behind another read. -/
theorem read_behind_transfers_of_write :
    let geometry : Geometry := ⟨.type22, 3, 2, by decide, by decide⟩
    let registry : Registry := ⟨fun _ => none, [], 2⟩
    let transfers : List Operation := [.writeParameter 0x18 0 [1, 2], .readParameter 0x10 0]
    let device := Device.new geometry [7] registry.events registry.parameters registry.busyPolls
    let session := (Master.new geometry {}).steps (⟨device, none⟩ : Device.Line)
      (.startUp :: .enterOperate :: transfers)
    let request := Request.read 0x18 0
    (request.operation.step session.2.1 session.2.2).1.result = .ok (.data [1, 2]) := by
  intro geometry registry transfers device session request
  have hqueue : session.2.2.device.outbound.length ≤ 7 := by decide +kernel
  have hstore : (registry.performAll 10 transfers).2.answer 10 request = .ok (.data [1, 2]) := rfl
  have hread :=
    read_behind_transfers geometry {} (by decide) [7] registry transfers (by decide) 0x18 0
  extract_lets store queue result at hread
  obtain ⟨-, -, hanswer, -⟩ := hread
  exact (hanswer hqueue).1.trans (congrArg (Except.mapError MasterError.transfer) hstore)

/-! ### Reads of another value -/

section GivenUp

variable {registry : Registry} {master : Master} {line : Device.Line} {index : UInt16}
  {subindex : UInt8} {outcome : Step × Device.Line}

/-- A read that finds the queue empty and the device busy for too long leaves its answer there,
behind the zeros that nobody waited for. -/
theorem read_of_busy (hholds : Holds registry master.geometry line.device)
    (hstate : master.state ≠ .startup) (hempty : line.device.outbound = [])
    (hbusy : master.settings.pollLimit < registry.busyPolls)
    (hstep : (Request.read index subindex).operation.step master line = outcome) :
    outcome.1.result =
        .error (.transfer (.noStart ⟨.read, index, subindex⟩ master.settings.pollLimit)) ∧
      Holds registry master.geometry outcome.2.device ∧
      outcome.2.device.outbound =
        List.replicate (registry.busyPolls - (master.settings.pollLimit + 1)) 0 ++
          answerOctets (registry.value (index, subindex)) := by
  have hreceive : (Request.read index subindex).receive master.settings.pollLimit
      (line.device.outbound.drop ((Request.read index subindex).odOctets.length - 1) ++
        answerQueue registry (.read index subindex) ++ List.replicate 0 0) =
      (master.settings.pollLimit + 1, some
        (.error (.transfer (.noStart ⟨.read, index, subindex⟩ master.settings.pollLimit)))) := by
    rw [hempty, List.drop_nil, List.nil_append, List.replicate_zero, List.append_nil, answerQueue,
      Request.receive_read, Collector.feedAll_busy _ hbusy]
    rfl
  obtain ⟨hresult, hafter, hqueue⟩ := step_request hholds hstate hreceive
  rw [hstep] at hresult hafter hqueue
  refine ⟨hresult, hafter, ?_⟩
  rw [hqueue, hempty, List.drop_nil, List.nil_append, answerQueue,
    List.drop_append_of_le_length (by rw [List.length_replicate]; omega), List.drop_replicate]
  rfl

/-- A read that finds the answer to another one in the queue takes it for its own. -/
theorem read_of_answer (hholds : Holds registry master.geometry line.device)
    (hstate : master.state ≠ .startup) {zeros : Nat} {value : List UInt8}
    (houtbound : line.device.outbound = List.replicate (zeros + 7) 0 ++ answerOctets value)
    (hzeros : zeros ≤ master.settings.pollLimit) (hlength : value.length ≤ maxAnswerLength)
    (hstep : (Request.read index subindex).operation.step master line = outcome) :
    outcome.1.result = .ok (.data value) := by
  obtain ⟨⟨taken, hreceive⟩, -⟩ := step_read hholds hstate hstep
  have hdrop : line.device.outbound.drop 7 = List.replicate zeros 0 ++ answerOctets value := by
    rw [houtbound, List.drop_append_of_le_length (by simp), List.drop_replicate,
      Nat.add_sub_cancel]
  have hfeed := Receiver.feedAll_append
    (Collector.feedAll_answer (.read index subindex) hzeros hlength)
  rw [hdrop, List.append_assoc, Request.receive_read, hfeed] at hreceive
  exact (Option.some.inj (Prod.mk.inj hreceive).2).symm

/-- Of two reads with an empty queue before them, the second one gets the value of the first one. -/
theorem results_of_busy (hholds : Holds registry master.geometry line.device)
    (hstate : master.state ≠ .startup) (hempty : line.device.outbound = []) {settings : Settings}
    (hmaster : master.settings = settings) (hbusy : settings.pollLimit + 8 ≤ registry.busyPolls)
    (hbound : registry.busyPolls ≤ 2 * settings.pollLimit + 8) (first second : Key)
    (hlength : (registry.value first).length ≤ maxAnswerLength) :
    (master.steps line [.readParameter first.1 first.2, .readParameter second.1 second.2]).1.map
        Step.result =
      [.error (.transfer (.noStart ⟨.read, first.1, first.2⟩ settings.pollLimit)),
        .ok (.data (registry.value first))] := by
  subst hmaster
  generalize hfirst : (Operation.readParameter first.1 first.2).step master line = before
  generalize hsecond :
    (Operation.readParameter second.1 second.2).step before.1.target before.2 = behind
  obtain ⟨hresult, hafter, hqueue⟩ := read_of_busy hholds hstate hempty (by omega) hfirst
  obtain ⟨hgeometry, hsettings, hconnected⟩ :=
    Operation.target_of_sparesDevice rfl hstate hfirst
  have hzeros : registry.busyPolls - (master.settings.pollLimit + 1) =
      registry.busyPolls - (master.settings.pollLimit + 8) + 7 := by
    omega
  rw [← hgeometry] at hafter
  rw [hzeros] at hqueue
  have hvalue := read_of_answer hafter hconnected hqueue (by rw [hsettings]; omega) hlength hsecond
  rw [steps_cons, steps_cons, hfirst, hsecond]
  show [before.1.result, behind.1.result] = _
  rw [hresult, hvalue]

end GivenUp

/-- A read behind one that was given up gets the value of the other parameter, if the device is busy
for so long that the second request does not let all the zeros out, and not for so long that it is
given up as well. -/
theorem read_given_up (geometry : Geometry) (settings : Settings)
    (hattempts : 0 < settings.startupAttempts) (processData : List UInt8) (registry : Registry)
    (hbusy : settings.pollLimit + 8 ≤ registry.busyPolls)
    (hbound : registry.busyPolls ≤ 2 * settings.pollLimit + 8) (first second : Key)
    (hlength : (registry.value first).length ≤ maxAnswerLength) :
    let device := Device.new geometry processData registry.events registry.parameters
      registry.busyPolls
    let session := (Master.new geometry settings).steps (⟨device, none⟩ : Device.Line)
      [.startUp, .enterOperate, .readParameter first.1 first.2, .readParameter second.1 second.2]
    (session.1.drop 2).map Step.result =
      [.error (.transfer (.noStart ⟨.read, first.1, first.2⟩ settings.pollLimit)),
        .ok (.data (registry.value first))] := by
  intro device session
  have hnew : Holds registry (Master.new geometry settings).geometry device := ⟨rfl, rfl, rfl⟩
  generalize hstart :
    Operation.startUp.step (Master.new geometry settings) (⟨device, none⟩ : Device.Line) = started
  generalize henter : Operation.enterOperate.step started.1.target started.2 = entered
  obtain ⟨hholds, hstate, hsettings, hempty⟩ := holds_connected hnew hattempts hstart henter
  have hsession : session.1 = started.1 :: entered.1 :: (entered.1.target.steps entered.2
      [.readParameter first.1 first.2, .readParameter second.1 second.2]).1 := by
    show (Master.steps _ _ (_ :: _ :: _)).1 = _
    rw [steps_cons, steps_cons, hstart, henter]
  rw [hsession, List.drop_succ_cons, List.drop_succ_cons, List.drop_zero]
  exact results_of_busy hholds hstate hempty hsettings hbusy hbound first second hlength

/-- The device is asked for its parameter `0x12`, and the master takes the value of `0x10`. -/
theorem read_given_up_of_eighteen_polls :
    let registry : Registry :=
      ⟨fun key => if key = (0x10, 0) then some [0x41] else if key = (0x12, 0) then some [0x42]
        else none, [], 18⟩
    let device := Device.new .type0 [] registry.events registry.parameters registry.busyPolls
    let session := (Master.new .type0).steps (⟨device, none⟩ : Device.Line)
      [.startUp, .enterOperate, .readParameter 0x10 0, .readParameter 0x12 0]
    (session.1.drop 2).map Step.result =
        [.error (.transfer (.noStart ⟨.read, 0x10, 0⟩ 10)), .ok (.data [0x41])] ∧
      registry.value (0x12, 0) = [0x42] := by
  intro registry device session
  exact ⟨read_given_up .type0 {} (by decide) [] registry (by decide) (by decide) (0x10, 0) (0x12, 0)
    (by decide), by decide⟩

end Device

end Sdci
