import Sdci.Proofs.Device.Quiet

/-!
# What a device knows

A registry has the parameters and the events of a device. `Registry.perform` is what a master is to
get for an operation, and the receiver of a transfer gets just that out of the octets that the
device queues (`Isdu.Request.receive_answerQueue`). A transfer that is given up leaves octets of its
answer in the queue; a startup sequence drops them.
-/

namespace Sdci

open Isdu

/-- What a device knows, and how long it is busy before it answers a request. -/
structure Registry where
  parameters : Device.Parameters
  events : List UInt16
  busyPolls : Nat

namespace Registry

variable (registry : Registry) (pollLimit : Nat)

/-- The value of a parameter, empty if it is not known. -/
def value (key : Device.Key) : List UInt8 :=
  (registry.parameters key).getD []

/-- What a request gets. The device may be busy for longer than the master polls it, and a value may
be longer than the master takes. -/
def answer : Request → Except TransferError Outcome
  | .read index subindex =>
    if pollLimit < registry.busyPolls then
      .error (.noStart ⟨.read, index, subindex⟩ pollLimit)
    else if maxAnswerLength < (registry.value (index, subindex)).length then
      .error (.overrun ⟨.read, index, subindex⟩ maxAnswerLength)
    else
      .ok (.data (registry.value (index, subindex)))
  | .write index subindex .. =>
    if pollLimit < registry.busyPolls then
      .error (.noAcknowledgement ⟨.write, index, subindex⟩ pollLimit)
    else
      .ok .nothing

/-- The registry behind a request. A write takes effect whatever the master gets for it. -/
def serve : Request → Registry
  | .read .. => registry
  | .write index subindex data _ =>
    { registry with parameters := registry.parameters.set (index, subindex) data }

/-- What a transfer gets, and the registry behind it. There is none without a request. -/
def transfer : Except TransferError Request → Except MasterError Outcome × Registry
  | .ok request =>
    ((registry.answer pollLimit request).mapError .transfer, registry.serve request)
  | .error error => (.error (.transfer error), registry)

/-- The result of an operation, and the registry behind it. -/
def perform : Operation → Except MasterError Outcome × Registry
  | .readParameter index subindex => registry.transfer pollLimit (.ok (.read index subindex))
  | .writeParameter index subindex data =>
    registry.transfer pollLimit (Request.ofData index subindex data)
  | .requestEvent =>
    (.ok (.event registry.events.head?), { registry with events := registry.events.tail })
  | _ => (.ok .nothing, registry)

/-- The results of operations, one after the other, and the registry behind them. -/
def performAll (registry : Registry) : List Operation → List (Except MasterError Outcome) × Registry
  | [] => ([], registry)
  | operation :: rest =>
    let (result, registry) := registry.perform pollLimit operation
    let (results, registry) := registry.performAll rest
    (result :: results, registry)

variable {registry pollLimit} in
/-- A read that the registry answers with a value gets that of the parameter. -/
theorem eq_value_of_answer {index : UInt16} {subindex : UInt8} {value : List UInt8}
    (h : (registry.answer pollLimit (.read index subindex)).mapError MasterError.transfer =
      .ok (.data value)) : value = registry.value (index, subindex) := by
  rw [answer] at h
  split at h
  · cases h
  split at h
  · cases h
  · cases h
    rfl

/-- No transfer is given up. -/
def Steady : Prop :=
  registry.busyPolls ≤ pollLimit ∧ ∀ key, (registry.value key).length ≤ maxAnswerLength

variable {registry pollLimit}

theorem Steady.exists_answer (h : registry.Steady pollLimit) (request : Request) :
    ∃ outcome, registry.answer pollLimit request = .ok outcome := by
  have hbusy : ¬pollLimit < registry.busyPolls := Nat.not_lt.mpr h.1
  cases request with
  | read index subindex =>
    have hlength : ¬maxAnswerLength < (registry.value (index, subindex)).length :=
      Nat.not_lt.mpr (h.2 _)
    exact ⟨_, by rw [answer, if_neg hbusy, if_neg hlength]⟩
  | write index subindex data length_le => exact ⟨_, by rw [answer, if_neg hbusy]⟩

/-- What can be written can be read. -/
theorem Steady.serve (h : registry.Steady pollLimit) (request : Request) :
    (registry.serve request).Steady pollLimit := by
  cases request with
  | read index subindex => exact h
  | write index subindex data length_le =>
    refine ⟨h.1, fun key => ?_⟩
    show ((if key = (index, subindex) then some data
      else registry.parameters key).getD []).length ≤ maxAnswerLength
    split
    · exact Nat.le_trans length_le (by decide)
    · exact h.2 key

variable (registry pollLimit) in
theorem perform_writeParameter (index : UInt16) (subindex : UInt8) {data : List UInt8}
    (length_le : data.length ≤ maxWriteLength) :
    registry.perform pollLimit (.writeParameter index subindex data) =
      ((registry.answer pollLimit (.write index subindex data length_le)).mapError .transfer,
        registry.serve (.write index subindex data length_le)) := by
  have hrequest : Request.ofData index subindex data = .ok (.write index subindex data length_le) :=
    dif_pos length_le
  show registry.transfer pollLimit (Request.ofData index subindex data) = _
  rw [hrequest, transfer]

variable (registry pollLimit) in
theorem perform_writeParameter_of_lt (index : UInt16) (subindex : UInt8) {data : List UInt8}
    (h : maxWriteLength < data.length) :
    registry.perform pollLimit (.writeParameter index subindex data) =
      (.error (.transfer (.dataTooLong data.length)), registry) := by
  have hrequest : Request.ofData index subindex data = .error (.dataTooLong data.length) :=
    dif_neg (Nat.not_le.mpr h)
  show registry.transfer pollLimit (Request.ofData index subindex data) = _
  rw [hrequest, transfer]

variable (registry pollLimit) in
theorem perform_operation (request : Request) :
    registry.perform pollLimit request.operation =
      ((registry.answer pollLimit request).mapError .transfer, registry.serve request) := by
  cases request with
  | read index subindex => rfl
  | write index subindex data length_le =>
    exact registry.perform_writeParameter pollLimit index subindex length_le

theorem snd_perform_of_not_isService {operation : Operation} (h : operation.isService = false) :
    (registry.perform pollLimit operation).2 = registry := by
  cases operation with
  | startUp | requestEvent | readParameter index subindex | writeParameter index subindex data =>
    cases h
  | _ => rfl

theorem Steady.perform (h : registry.Steady pollLimit) (operation : Operation) :
    (registry.perform pollLimit operation).2.Steady pollLimit := by
  by_cases hservice : operation.isService = true
  · cases operation with
    | startUp | requestEvent | readParameter index subindex => exact h
    | writeParameter index subindex data =>
      by_cases hlength : data.length ≤ maxWriteLength
      · rw [perform_writeParameter _ _ index subindex hlength]
        exact h.serve _
      · rw [perform_writeParameter_of_lt _ _ index subindex (Nat.not_le.mp hlength)]
        exact h
    | _ => cases hservice
  · rw [snd_perform_of_not_isService (by simpa using hservice)]
    exact h

end Registry

/-- Whether the device has answered all requests in full behind an operation. -/
def Operation.rests (isRested : Bool) : Operation → Bool
  | startUp => true
  | operation => isRested && !operation.isTransfer

/-- Between any two transfers, and before the first one, there is a startup sequence. -/
def Operation.paced (isRested : Bool) : List Operation → Bool
  | [] => true
  | operation :: rest =>
    (isRested || !operation.isTransfer) && paced (operation.rests isRested) rest

section Paced

variable {isRested : Bool} {operation : Operation} {rest : List Operation}

theorem Operation.rests_iff : operation.rests isRested = true ↔
    operation = .startUp ∨ isRested = true ∧ operation.isTransfer = false := by
  cases operation <;> simp [rests, isTransfer]

theorem Operation.paced_cons_iff : paced isRested (operation :: rest) = true ↔
    (isRested = true ∨ operation.isTransfer = false) ∧
      paced (operation.rests isRested) rest = true := by
  simp [paced]

end Paced

/-! ### The registry of a device -/

namespace Device

/-- What the device knows. -/
def registry (device : Device) : Registry :=
  ⟨device.parameters, device.events, device.busyPolls⟩

/-- The device is idle, has the geometry, and knows what the registry says. -/
structure Holds (registry : Registry) (geometry : Geometry) (device : Device) : Prop where
  registry_eq : device.registry = registry
  geometry_eq : device.geometry = geometry
  idle : device.intake = .idle

variable {registry : Registry} {geometry : Geometry} {device : Device}

theorem Holds.drained {after : Device} (h : Holds registry geometry device)
    (hdrained : device.Drained after) : Holds registry geometry after := by
  obtain ⟨count, request, rfl⟩ := hdrained
  exact ⟨h.registry_eq, h.geometry_eq, h.idle⟩

theorem Holds.serve (h : Holds registry geometry device) (request : Request)
    (outbound : List UInt8) :
    Holds (registry.serve request) geometry
      { (device.flushed request).serve request with outbound } := by
  obtain ⟨rfl, rfl, -⟩ := h
  cases request <;> exact ⟨rfl, rfl, rfl⟩

/-- The value that a device answers a request with. -/
def answerValue (registry : Registry) : Request → List UInt8
  | .read index subindex => registry.value (index, subindex)
  | .write .. => [0]

/-- The octets that a device queues for a request. -/
def answerQueue (registry : Registry) (request : Request) : List UInt8 :=
  List.replicate registry.busyPolls (0 : UInt8) ++ answerOctets (answerValue registry request)

theorem length_answerQueue (registry : Registry) (request : Request) :
    (answerQueue registry request).length =
      (answerOctets (answerValue registry request)).length + registry.busyPolls := by
  rw [answerQueue, List.length_append, List.length_replicate, Nat.add_comm]

theorem length_answerOctets_pos (value : List UInt8) : 0 < (answerOctets value).length := by
  cases value with
  | nil => exact Nat.one_pos
  | cons octet rest =>
    rw [answerOctets_cons, List.length_cons]
    exact Nat.succ_pos _

theorem answerQueue_ne_nil (registry : Registry) (request : Request) :
    answerQueue registry request ≠ [] := by
  have hoctets := length_answerOctets_pos (answerValue registry request)
  refine List.ne_nil_of_length_pos ?_
  rw [length_answerQueue]
  omega

/-- The answer to a request goes behind what the request has left in the queue. -/
theorem outbound_serve (h : Holds registry geometry device) (request : Request) :
    ((device.flushed request).serve request).outbound =
      device.outbound.drop (request.odOctets.length - 1) ++ answerQueue registry request := by
  obtain ⟨rfl, -, -⟩ := h
  cases request <;> exact List.append_assoc _ _ _

end Device

/-! ### Transfers -/

namespace Isdu

open Device

variable {registry : Registry} (pollLimit : Nat)

/-- The receiver takes octets from the queue of the device, and with the last of them it gives what
the registry says. If it does not give up, one octet is left at most. -/
def Takes {ρ α : Type} [Receiver ρ α] (registry : Registry) (pollLimit : Nat) (request : Request)
    (receiver : ρ) (wrap : α → Outcome) : Prop :=
  ∃ taken answer,
    Receiver.feedAll receiver (answerQueue registry request) = (taken + 1, some answer) ∧
      answer.map wrap = registry.answer pollLimit request ∧
      ∀ value, answer = .ok value → ((answerQueue registry request).drop (taken + 1)).tail = []

theorem Collector.takes (index : UInt16) (subindex : UInt8) :
    Takes registry pollLimit (.read index subindex)
      (Collector.ofRequest (.read index subindex) pollLimit) .data := by
  let request : Request := .read index subindex
  by_cases hbusy : pollLimit < registry.busyPolls
  · refine ⟨pollLimit, .error (.noStart request.target pollLimit),
      Collector.feedAll_busy request hbusy _, ?_, by rintro - ⟨⟩⟩
    rw [Registry.answer, if_pos hbusy]
    rfl
  have hpolls : registry.busyPolls ≤ pollLimit := Nat.not_lt.mp hbusy
  by_cases hlong : maxAnswerLength < (registry.value (index, subindex)).length
  · refine ⟨2 * maxAnswerLength + 1 + registry.busyPolls,
      .error (.overrun request.target maxAnswerLength), ?_, ?_, by rintro - ⟨⟩⟩
    · rw [answerQueue, answerValue, Collector.feedAll_long request hpolls hlong]
      refine Prod.ext ?_ rfl
      show 2 * maxAnswerLength + 2 + registry.busyPolls =
        2 * maxAnswerLength + 1 + registry.busyPolls + 1
      omega
    · rw [Registry.answer, if_neg hbusy, if_pos hlong]
      rfl
  · have hpos : 0 < (answerQueue registry request).length :=
      List.length_pos_iff.mpr (answerQueue_ne_nil registry request)
    have htaken : (answerQueue registry request).length - 1 + 1 =
        (answerQueue registry request).length := Nat.sub_add_cancel hpos
    refine ⟨(answerQueue registry request).length - 1, .ok (registry.value (index, subindex)),
      ?_, ?_, ?_⟩
    · rw [htaken, length_answerQueue, answerQueue, answerValue,
        Collector.feedAll_answer request hpolls (Nat.not_lt.mp hlong)]
    · rw [Registry.answer, if_neg hbusy, if_neg hlong]
      rfl
    · intro value _
      rw [htaken, List.drop_length, List.tail_nil]

theorem Acknowledgement.takes (index : UInt16) (subindex : UInt8) {data : List UInt8}
    (length_le : data.length ≤ maxWriteLength) :
    Takes registry pollLimit (.write index subindex data length_le)
      (Acknowledgement.ofRequest (.write index subindex data length_le) pollLimit)
      (fun _ => .nothing) := by
  let request : Request := .write index subindex data length_le
  by_cases hbusy : pollLimit < registry.busyPolls
  · refine ⟨pollLimit, .error (.noAcknowledgement request.target pollLimit),
      Acknowledgement.feedAll_busy request hbusy _, ?_, by rintro - ⟨⟩⟩
    rw [Registry.answer, if_pos hbusy]
    rfl
  · refine ⟨registry.busyPolls, .ok 0xC0,
      Acknowledgement.feedAll_answer request (Nat.not_lt.mp hbusy), ?_, ?_⟩
    · rw [Registry.answer, if_neg hbusy]
      rfl
    · -- The acknowledgement has a second octet, which the receiver leaves.
      intro value _
      have hanswer : answerOctets [0] = [0xC0, 0] := by decide
      rw [answerQueue, answerValue, hanswer]
      simp

variable {pollLimit} in
theorem Takes.receive {ρ α : Type} [Receiver ρ α] {request : Request} {receiver : ρ}
    {wrap : α → Outcome} (h : Takes registry pollLimit request receiver wrap)
    (hreceive : ∀ octets, request.receive pollLimit octets =
      outcome wrap (Receiver.feedAll receiver octets)) :
    ∃ taken, request.receive pollLimit (answerQueue registry request) =
        (taken, some ((registry.answer pollLimit request).mapError .transfer)) ∧
      ∀ value, registry.answer pollLimit request = .ok value →
        ((answerQueue registry request).drop taken).tail = [] := by
  obtain ⟨taken, answer, hfeed, hanswer, hleft⟩ := h
  refine ⟨taken + 1, ?_, fun value hvalue => ?_⟩
  · rw [hreceive, hfeed, outcome, ← hanswer]
    cases answer <;> rfl
  · cases answer with
    | error error =>
      rw [← hanswer] at hvalue
      cases hvalue
    | ok value => exact hleft value rfl

/-- From the answer to a request the receiver of the request makes what the registry says, and if
that is no failure one octet is left at most. -/
theorem Request.receive_answerQueue (request : Request) :
    ∃ taken, request.receive pollLimit (answerQueue registry request) =
        (taken, some ((registry.answer pollLimit request).mapError .transfer)) ∧
      ∀ value, registry.answer pollLimit request = .ok value →
        ((answerQueue registry request).drop taken).tail = [] := by
  cases request with
  | read index subindex => exact (Collector.takes pollLimit index subindex).receive fun _ => rfl
  | write index subindex data length_le =>
    exact (Acknowledgement.takes pollLimit index subindex length_le).receive fun _ => rfl

end Isdu

end Sdci
