import Sdci.Proofs.Master.Connection
import Sdci.Script

/-!
# A parameter transfer is a list of exchanges

On a line whose calls do not fail, a transfer sends the octets of its request and then zeros, one in
each exchange (`Master.exchanges`). It ends with the first exchange that gets no valid response, or
else with the one whose octet ends the receiver, and the receiver's result is its own
(`Master.parameter_exchanges`).
-/

namespace Sdci

namespace Master

open Master.Action Isdu

/-! ### Exchanges -/

section Exchanges

variable (master : Master)

/-- The reply gets a valid response. -/
def Accepts (reply : Option (List UInt8)) : Prop := (master.responseTo reply).isValid

/-- The first on-request data octet of the response to a reply. -/
def octetIn (reply : Option (List UInt8)) : UInt8 :=
  (master.responseTo reply).onRequestData.first

/-- The events of exchanges that send the octets and then zeros, one for each reply. -/
def exchanges (octets : List UInt8) : List (Option (List UInt8)) → List Event
  | [] => []
  | reply :: replies =>
    ⟨.send (master.octetFrame (octets.headD 0)), .ok ()⟩ ::
      ⟨.receive master.geometry.responseLength master.octetTimeout, .ok reply⟩ ::
        exchanges octets.tail replies

theorem replies_exchanges (octets : List UInt8) (replies : List (Option (List UInt8))) :
    repliesIn (master.exchanges octets replies) = replies := by
  induction replies generalizing octets with
  | nil => rfl
  | cons reply rest ih => exact congrArg (reply :: ·) (ih octets.tail)

theorem exchanges_append (octets : List UInt8) (first second : List (Option (List UInt8))) :
    master.exchanges octets (first ++ second) =
      master.exchanges octets first ++ master.exchanges (octets.drop first.length) second := by
  induction first generalizing octets with
  | nil => rfl
  | cons reply replies ih => simp [exchanges, ih]

/-- The master is the given one in a state that allows exchanges. -/
def Linked (origin master : Master) : Prop :=
  ∃ state, state ≠ .startup ∧ master = origin.enter state

variable {master}

theorem Linked.refl (h : master.state ≠ .startup) : master.Linked master :=
  ⟨master.state, h, rfl⟩

theorem Linked.advance {origin : Master} (h : origin.Linked master) (response : Response) :
    origin.Linked (master.advance response) := by
  obtain ⟨state, hstate, rfl⟩ := h
  rw [Master.advance, confirm]
  split
  · split
    · exact ⟨.operate, by decide, rfl⟩
    · exact ⟨state, hstate, rfl⟩
  · exact ⟨state, hstate, rfl⟩

end Exchanges

/-! ### Paths without a failed call -/

variable {α : Type} {origin master : Master} {events : List Event} {after : Master}

/-- An octet goes out, and what comes back is the result. -/
theorem path_transferOctet (h : origin.Linked master) {target : Target} {octet : UInt8}
    {result : Except MasterError UInt8}
    (path : (wire (transferOctet target octet) master).Path events (result, after))
    (hcalls : ∀ event ∈ events, event.failed = false) :
    ∃ reply, events = origin.exchanges [octet] [reply] ∧
      ((origin.Accepts reply ∧ result = .ok (origin.octetIn reply) ∧ origin.Linked after) ∨
        (¬origin.Accepts reply ∧ result = .error (.transfer (.noResponse target)))) := by
  have hlinked := h
  obtain ⟨state, hstate, rfl⟩ := h
  rw [wire_transferOctet _ hstate] at path
  obtain ⟨reply, rest, hrest, -, rfl⟩ := path_roundTrip_of_not_failed path hcalls
  rw [responseTo_enter] at hrest
  by_cases hvalid : (origin.responseTo reply).isValid
  · rw [if_pos hvalid] at hrest
    obtain ⟨rfl, hend⟩ := Dialogue.path_done_iff.mp hrest
    cases hend
    exact ⟨reply, rfl, .inl ⟨hvalid, rfl, hlinked.advance _⟩⟩
  · rw [if_neg hvalid] at hrest
    obtain ⟨rfl, hend⟩ := Dialogue.path_done_iff.mp hrest
    cases hend
    exact ⟨reply, rfl, .inr ⟨hvalid, rfl⟩⟩

/-- The last of the replies is the only one without a valid response; `before` are the others. -/
def GivesUp (origin : Master) (before replies : List (Option (List UInt8))) : Prop :=
  ∃ last, replies = before ++ [last] ∧ (∀ reply ∈ before, origin.Accepts reply) ∧
    ¬origin.Accepts last

/-- All octets go out, or all up to the first exchange without a valid response. -/
theorem path_sendOctets (h : origin.Linked master) {target : Target} {answer : UInt8}
    {octets : List UInt8} {result : Except MasterError UInt8}
    (path : (wire (sendOctets target answer octets) master).Path events (result, after))
    (hcalls : ∀ event ∈ events, event.failed = false) :
    ∃ replies, events = origin.exchanges octets replies ∧
      ((replies.length = octets.length ∧ (∀ reply ∈ replies, origin.Accepts reply) ∧
          result = .ok ((replies.map origin.octetIn).getLastD answer) ∧ origin.Linked after) ∨
        ∃ before, origin.GivesUp before replies ∧ before.length < octets.length ∧
          result = .error (.transfer (.noResponse target))) := by
  induction octets generalizing answer master events with
  | nil =>
    obtain ⟨rfl, hend⟩ := Dialogue.path_done_iff.mp path
    cases hend
    exact ⟨[], rfl, .inl ⟨rfl, by simp, rfl, h⟩⟩
  | cons octet rest ih =>
    rw [sendOctets, path_wire_bind_iff] at path
    obtain ⟨error, path, rfl⟩ | ⟨value, middle, first, second, hfirst, hsecond, rfl⟩ := path
    · obtain ⟨reply, rfl, ⟨-, hresult, -⟩ | ⟨hreply, hresult⟩⟩ := path_transferOctet h path hcalls
      · cases hresult
      · cases hresult
        exact ⟨[reply], rfl, .inr ⟨[], ⟨reply, rfl, by simp, hreply⟩, by simp, rfl⟩⟩
    · have hcalls' : ∀ event ∈ first, event.failed = false :=
        fun event hmem => hcalls event (List.mem_append_left _ hmem)
      obtain ⟨reply, rfl, ⟨hreply, hresult, hmiddle⟩ | ⟨-, hresult⟩⟩ :=
        path_transferOctet h hfirst hcalls'
      · cases hresult
        obtain ⟨replies, rfl, hreplies⟩ :=
          ih hmiddle hsecond fun event hmem => hcalls event (List.mem_append_right _ hmem)
        refine ⟨reply :: replies, by simp [exchanges], ?_⟩
        rcases hreplies with ⟨hlength, haccepts, hvalue, hafter⟩ | ⟨before, hgives, hlength, hvalue⟩
        · refine .inl ⟨by simp [hlength], List.forall_mem_cons.mpr ⟨hreply, haccepts⟩, ?_, hafter⟩
          rw [hvalue, List.map_cons, List.getLastD_cons]
        · obtain ⟨last, rfl, haccepts, hlast⟩ := hgives
          refine .inr ⟨reply :: before, ⟨last, rfl, ?_, hlast⟩, by simpa using hlength, hvalue⟩
          exact List.forall_mem_cons.mpr ⟨hreply, haccepts⟩
      · cases hresult

/-- Zeros go out until the receiver is done, or up to the first exchange without a valid response.
-/
theorem path_listen {ρ : Type} [Receiver ρ α] (h : origin.Linked master) {target : Target}
    {receiver : ρ} {octet : UInt8} {result : Except MasterError α}
    (path : (wire (listen target receiver octet) master).Path events (result, after))
    (hcalls : ∀ event ∈ events, event.failed = false) :
    ∃ replies, events = origin.exchanges [] replies ∧
      (((∀ reply ∈ replies, origin.Accepts reply) ∧ ∃ answer,
          Receiver.feedAll receiver (octet :: replies.map origin.octetIn) =
            (replies.length + 1, some answer) ∧ result = answer.mapError .transfer) ∨
        ∃ before, origin.GivesUp before replies ∧
          (Receiver.feedAll receiver (octet :: before.map origin.octetIn)).2 = none ∧
          result = .error (.transfer (.noResponse target))) := by
  induction receiver, octet using Receiver.feed_induction generalizing master events with
  | done receiver octet answer hfeed =>
    rw [wire_listen_of_done master target hfeed] at path
    obtain ⟨rfl, hend⟩ := Dialogue.path_done_iff.mp path
    cases hend
    exact ⟨[], rfl, .inl ⟨by simp, answer, Receiver.feedAll_cons_of_done hfeed _, rfl⟩⟩
  | needData receiver octet next hfeed ih =>
    rw [listen_of_needData target hfeed, path_wire_bind_iff] at path
    obtain ⟨error, path, rfl⟩ | ⟨value, middle, first, second, hfirst, hsecond, rfl⟩ := path
    · obtain ⟨reply, rfl, ⟨-, hresult, -⟩ | ⟨hreply, hresult⟩⟩ := path_transferOctet h path hcalls
      · cases hresult
      · cases hresult
        refine ⟨[reply], rfl, .inr ⟨[], ⟨reply, rfl, by simp, hreply⟩, ?_, rfl⟩⟩
        rw [Receiver.feedAll_cons_of_needData hfeed]
        rfl
    · have hcalls' : ∀ event ∈ first, event.failed = false :=
        fun event hmem => hcalls event (List.mem_append_left _ hmem)
      obtain ⟨reply, rfl, ⟨hreply, hresult, hmiddle⟩ | ⟨-, hresult⟩⟩ :=
        path_transferOctet h hfirst hcalls'
      · cases hresult
        obtain ⟨replies, rfl, hreplies⟩ := ih (origin.octetIn reply) hmiddle hsecond
          fun event hmem => hcalls event (List.mem_append_right _ hmem)
        refine ⟨reply :: replies, by simp [exchanges], ?_⟩
        simp only [Receiver.feedAll_cons_of_needData hfeed, List.map_cons]
        rcases hreplies with ⟨haccepts, answer, hanswer, hvalue⟩ | ⟨before, hgives, hnone, hvalue⟩
        · refine .inl ⟨List.forall_mem_cons.mpr ⟨hreply, haccepts⟩, answer, ?_, hvalue⟩
          rw [hanswer, List.length_cons]
        · obtain ⟨last, rfl, haccepts, hlast⟩ := hgives
          refine .inr ⟨reply :: before, ⟨last, rfl, ?_, hlast⟩, ?_, hvalue⟩
          · exact List.forall_mem_cons.mpr ⟨hreply, haccepts⟩
          · rw [List.map_cons, hnone]
      · cases hresult

theorem drop_length_sub_one_map {β γ : Type} (f : β → γ) {list : List β} (h : 0 < list.length)
    {default : γ} :
    (list.map f).drop (list.length - 1) = [(list.map f).getLastD default] := by
  have hne : list ≠ [] := List.ne_nil_of_length_pos h
  rw [← List.dropLast_concat_getLast hne]
  simp

/-- The response to the last octet of the request is the first one that the receiver looks at. -/
theorem path_transfer {ρ : Type} [Receiver ρ α] (h : origin.Linked master) {request : Request}
    {receiver : ρ} {result : Except MasterError α}
    (path : (wire (transfer request receiver) master).Path events (result, after))
    (hcalls : ∀ event ∈ events, event.failed = false) :
    ∃ replies, events = origin.exchanges request.odOctets replies ∧
      (((∀ reply ∈ replies, origin.Accepts reply) ∧ request.odOctets.length ≤ replies.length ∧
          ∃ answer, Receiver.feedAll receiver
            ((replies.map origin.octetIn).drop (request.odOctets.length - 1)) =
              (replies.length - (request.odOctets.length - 1), some answer) ∧
            result = answer.mapError .transfer) ∨
        ∃ before, origin.GivesUp before replies ∧
          (Receiver.feedAll receiver
            ((before.map origin.octetIn).drop (request.odOctets.length - 1))).2 = none ∧
          result = .error (.transfer (.noResponse request.target))) := by
  rw [transfer, path_wire_bind_iff] at path
  obtain ⟨error, path, rfl⟩ | ⟨value, middle, first, second, hfirst, hsecond, rfl⟩ := path
  · obtain ⟨replies, rfl, ⟨-, -, hresult, -⟩ | ⟨before, hgives, hlength, hresult⟩⟩ :=
      path_sendOctets h path hcalls
    · cases hresult
    · cases hresult
      refine ⟨replies, rfl, .inr ⟨before, hgives, ?_, rfl⟩⟩
      rw [List.drop_eq_nil_of_le (by rw [List.length_map]; omega)]
      rfl
  · obtain ⟨requested, rfl, ⟨hlength, haccepts, hresult, hmiddle⟩ | ⟨before, -, -, hresult⟩⟩ :=
      path_sendOctets h hfirst fun event hmem => hcalls event (List.mem_append_left _ hmem)
    · cases hresult
      obtain ⟨replies, rfl, hreplies⟩ :=
        path_listen hmiddle hsecond fun event hmem => hcalls event (List.mem_append_right _ hmem)
      have hpos := request.eight_le_length_odOctets
      have hdrop (answers : List (Option (List UInt8))) :
          ((requested ++ answers).map origin.octetIn).drop (request.odOctets.length - 1) =
            (requested.map origin.octetIn).getLastD 0 :: answers.map origin.octetIn := by
        have hle : request.odOctets.length - 1 ≤ (requested.map origin.octetIn).length := by
          rw [List.length_map]
          omega
        rw [List.map_append, List.drop_append_of_le_length hle, ← hlength]
        exact congrArg (· ++ _) (drop_length_sub_one_map origin.octetIn (by omega))
      refine ⟨requested ++ replies, ?_, ?_⟩
      · rw [exchanges_append, hlength, List.drop_length]
      rcases hreplies with ⟨haccepts', answer, hanswer, hvalue⟩ | ⟨before, hgives, hnone, hvalue⟩
      · refine .inl ⟨List.forall_mem_append.mpr ⟨haccepts, haccepts'⟩, ?_, answer, ?_, hvalue⟩
        · rw [List.length_append]
          omega
        · have htaken : replies.length + 1 =
              (requested ++ replies).length - (request.odOctets.length - 1) := by
            rw [List.length_append]
            omega
          rw [hdrop, hanswer, htaken]
      · obtain ⟨last, rfl, haccepts', hlast⟩ := hgives
        refine .inr ⟨requested ++ before, ⟨last, (List.append_assoc ..).symm, ?_, hlast⟩, ?_, hvalue⟩
        · exact List.forall_mem_append.mpr ⟨haccepts, haccepts'⟩
        · rw [hdrop, hnone]
    · cases hresult

end Master

/-! ### Requests -/

namespace Isdu

/-- What a fed receiver makes of an operation: the octets taken, and the result if it is done. -/
def outcome {α : Type} (wrap : α → Outcome) :
    Nat × Option (Except TransferError α) → Nat × Option (Except MasterError Outcome)
  | (taken, result) => (taken, result.map fun answer => (answer.mapError .transfer).map wrap)

namespace Request

variable (request : Request)

/-- The operation that performs a request. -/
def operation : Request → Operation
  | read index subindex => .readParameter index subindex
  | write index subindex data _ => .writeParameter index subindex data

/-- What the receiver of a request takes of a list of octets, and its result if they end it. -/
def receive (pollLimit : Nat) (octets : List UInt8) :
    Nat × Option (Except MasterError Outcome) :=
  match request with
  | read .. => outcome .data (Receiver.feedAll (Collector.ofRequest request pollLimit) octets)
  | write .. =>
    outcome (fun _ => .nothing)
      (Receiver.feedAll (Acknowledgement.ofRequest request pollLimit) octets)

theorem receive_read (index : UInt16) (subindex : UInt8) (pollLimit : Nat) (octets : List UInt8) :
    (read index subindex).receive pollLimit octets =
      outcome .data
        (Receiver.feedAll (Collector.ofRequest (.read index subindex) pollLimit) octets) := rfl

/-- The most exchanges of a transfer: those of the request, the polls, and the segments of the
longest answer. -/
def exchangeLimit (pollLimit : Nat) : Nat :=
  match request with
  | read .. => 2 * request.serviceOctets.length + pollLimit + 2 * maxAnswerLength + 1
  | write .. => 2 * request.serviceOctets.length + pollLimit

theorem taken_le_exchangeLimit (pollLimit : Nat) (octets : List UInt8) :
    2 * request.serviceOctets.length + (request.receive pollLimit octets).1 ≤
      request.exchangeLimit pollLimit + 1 := by
  cases request with
  | read index subindex =>
    have htaken := Collector.taken_le (.read index subindex) pollLimit octets
    simp only [receive, outcome, exchangeLimit]
    omega
  | write index subindex data length_le =>
    have htaken := Acknowledgement.taken_le (.write index subindex data length_le) pollLimit octets
    simp only [receive, outcome, exchangeLimit]
    omega

theorem taken_of_none {pollLimit : Nat} {octets : List UInt8}
    (h : (request.receive pollLimit octets).2 = none) :
    2 * request.serviceOctets.length + octets.length ≤ request.exchangeLimit pollLimit := by
  have hlimit := request.taken_le_exchangeLimit pollLimit (octets ++ [0])
  have htaken : (request.receive pollLimit (octets ++ [0])).1 = octets.length + 1 := by
    cases request with
    | read index subindex =>
      exact Receiver.taken_of_none 0 (Option.map_eq_none_iff.mp h)
    | write index subindex data length_le =>
      exact Receiver.taken_of_none 0 (Option.map_eq_none_iff.mp h)
  omega

/-- Zeros end every transfer. -/
theorem exists_receive (pollLimit : Nat) (octets : List UInt8) :
    ∃ taken result, request.receive pollLimit
      (octets ++ List.replicate (request.exchangeLimit pollLimit) 0) = (taken, some result) := by
  cases hreceive : request.receive pollLimit
      (octets ++ List.replicate (request.exchangeLimit pollLimit) 0) with
  | mk taken result =>
    cases result with
    | some result => exact ⟨taken, result, rfl⟩
    | none =>
      have hlength := request.taken_of_none (congrArg Prod.snd hreceive)
      have hfour := request.four_le_length_serviceOctets
      rw [List.length_append, List.length_replicate] at hlength
      omega

end Request

end Isdu

namespace Master

open Master.Action Isdu

/-- A transfer whose receiver is that of the request, seen from the request. -/
theorem path_request {α ρ : Type} [Receiver ρ α] {master after : Master}
    (h : master.state ≠ .startup) {request : Request} {receiver : ρ} {wrap : α → Outcome}
    {pollLimit : Nat} (hreceive : ∀ octets, request.receive pollLimit octets =
      outcome wrap (Receiver.feedAll receiver octets)) {events : List Event}
    {inner : Except MasterError α}
    (path : (wire (transfer request receiver) master).Path events (inner, after))
    (hcalls : ∀ event ∈ events, event.failed = false) :
    ∃ replies, events = master.exchanges request.odOctets replies ∧
      replies.length ≤ request.exchangeLimit pollLimit ∧
      (((∀ reply ∈ replies, master.Accepts reply) ∧
          2 * request.serviceOctets.length ≤ replies.length ∧
          request.receive pollLimit
            ((replies.map master.octetIn).drop (2 * request.serviceOctets.length - 1)) =
              (((replies.map master.octetIn).drop (2 * request.serviceOctets.length - 1)).length,
                some (inner.map wrap))) ∨
        ∃ before, master.GivesUp before replies ∧
          (request.receive pollLimit
            ((before.map master.octetIn).drop (2 * request.serviceOctets.length - 1))).2 = none ∧
          inner.map wrap = .error (.transfer (.noResponse request.target))) := by
  obtain ⟨replies, hevents, hreplies⟩ := path_transfer (.refl h) path hcalls
  rw [request.length_odOctets] at hreplies
  have hfour := request.four_le_length_serviceOctets
  refine ⟨replies, hevents, ?_⟩
  rcases hreplies with ⟨haccepts, hlength, answer, hanswer, rfl⟩ | ⟨before, hgives, hnone, rfl⟩
  · have hreceived := hreceive ((replies.map master.octetIn).drop
      (2 * request.serviceOctets.length - 1))
    rw [hanswer] at hreceived
    have hlimit := request.taken_le_exchangeLimit pollLimit
      ((replies.map master.octetIn).drop (2 * request.serviceOctets.length - 1))
    rw [hreceived] at hlimit
    simp only [outcome] at hlimit
    refine ⟨by omega, .inl ⟨haccepts, hlength, ?_⟩⟩
    rw [hreceived, List.length_drop, List.length_map]
    rfl
  · have hreceived : (request.receive pollLimit
        ((before.map master.octetIn).drop (2 * request.serviceOctets.length - 1))).2 = none := by
      rw [hreceive, outcome, hnone]
      rfl
    have hlimit := request.taken_of_none hreceived
    rw [List.length_drop, List.length_map] at hlimit
    refine ⟨?_, .inr ⟨before, hgives, hreceived, rfl⟩⟩
    obtain ⟨last, rfl, -, -⟩ := hgives
    rw [List.length_append, List.length_singleton]
    omega

/-- On a line whose calls do not fail, a parameter transfer in a connection is a list of exchanges
of limited length, which send the octets of the request and then zeros. The first exchange without a
valid response ends it; otherwise it ends with the receiver of the request, which looks at the
responses from that to the last octet of the request on, and with the receiver's result. -/
theorem parameter_exchanges {σ : Type} [Transport σ] (line : σ) {master : Master}
    (h : master.state ≠ .startup) (request : Request)
    (hcalls : ∀ event ∈ (request.operation.step master line).1.events, event.failed = false) :
    let step := (request.operation.step master line).1
    let lookedAt (replies : List (Option (List UInt8))) : List UInt8 :=
      (replies.map master.octetIn).drop (2 * request.serviceOctets.length - 1)
    let received (replies : List (Option (List UInt8))) :=
      request.receive master.settings.pollLimit (lookedAt replies)
    ∃ replies, step.traffic = master.exchanges request.odOctets replies ∧
      replies.length ≤ request.exchangeLimit master.settings.pollLimit ∧
      (((∀ reply ∈ replies, master.Accepts reply) ∧
          2 * request.serviceOctets.length ≤ replies.length ∧
          received replies = ((lookedAt replies).length, some step.result)) ∨
        ∃ before, master.GivesUp before replies ∧ (received before).2 = none ∧
          step.result = .error (.transfer (.noResponse request.target))) := by
  intro step lookedAt received
  have hquiet : ∀ event ∈ step.traffic, event.failed = false :=
    fun event hmem => hcalls event (List.mem_filter.mp hmem).1
  cases request with
  | read index subindex =>
    obtain ⟨inner, path, hresult⟩ := step.exists_inner (readParameter index subindex) rfl
    rw [wire_readParameter] at path
    rw [hresult]
    exact path_request h (fun _ => rfl) path hquiet
  | write index subindex data length_le =>
    obtain ⟨inner, path, hresult⟩ := step.exists_inner (writeParameter index subindex data) rfl
    rw [wire_writeParameter _ _ _ length_le] at path
    obtain ⟨answer, hanswer, rfl⟩ := path_wire_bind_pure_iff.mp path
    have hwrap : step.result = answer.map fun _ => .nothing := by
      rw [hresult]
      cases answer <;> rfl
    rw [hwrap]
    exact path_request h (fun _ => rfl) hanswer hquiet

/-- A device answers a read with one octet, which begins in the response to the last octet of the
request. -/
theorem parameter_exchanges_of_answer :
    let master := (Master.new .type0).enter .preoperate
    let request := Request.read 0x10 0
    let octets : List UInt8 := List.replicate 7 0 ++ [0xC0, 0x41]
    let replies := octets.map fun octet => Checksum.attach [octet]
    let step := (request.operation.step master ({ replies := replies.map .octets } : Script)).1
    step.traffic = master.exchanges request.odOctets (replies.map some) ∧
      step.result = .ok (.data [0x41]) := by
  intro master request octets replies step
  have hcalls : ∀ event ∈ step.events, event.failed = false := by decide +kernel
  have hreplies : step.replies = replies.map some := by decide +kernel
  have haccepts : ∀ reply ∈ replies.map some, (master.responseTo reply).isValid := by decide
  have hfed : request.receive 10 [0xC0, 0x41] = (2, some (.ok (.data [0x41]))) := rfl
  obtain ⟨received, htraffic, -, hend⟩ := parameter_exchanges _ (by decide) request hcalls
  obtain rfl : step.replies = received := by
    rw [step.replies_eq, htraffic, replies_exchanges]
  rw [hreplies] at htraffic hend
  refine ⟨htraffic, ?_⟩
  obtain ⟨-, -, hreceived⟩ | ⟨before, ⟨last, hbefore, -, hlast⟩, -⟩ := hend
  · exact (Option.some.inj (Prod.mk.inj (hfed.symm.trans hreceived)).2).symm
  · exact absurd (haccepts last (by rw [hbefore]; simp)) hlast

end Master

end Sdci
