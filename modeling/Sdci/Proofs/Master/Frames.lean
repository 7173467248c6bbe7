import Sdci.Proofs.Master.Transfer

/-!
# The frames of a parameter transfer

Whatever the line answers, a transfer sends the octets of its request and then zeros, in this order
and one in each frame. It may end behind any of them, but sends one at least
(`Master.transmits_of_path_transfer`).
-/

namespace Sdci

namespace Master

open Master.Action Isdu

/-- The frames that went out are those of a request, or some of its first ones, with zeros behind if
it is complete. -/
def Transmits (master : Master) (request : Request) (events : List Event) : Prop :=
  framesIn events ≠ [] ∧
    ∃ zeros, framesIn events <+: (request.odOctets ++ List.replicate zeros 0).map master.octetFrame

variable {α : Type} {origin master after : Master} {target : Target} {events : List Event}

theorem Transmits.ne_nil {request : Request} (h : master.Transmits request events) :
    events ≠ [] := by
  rintro rfl
  exact h.1 rfl

/-- An octet takes one frame, and the connection is kept. -/
theorem frames_transferOctet (h : origin.Linked master) {octet : UInt8}
    {result : Except MasterError UInt8}
    (path : (wire (transferOctet target octet) master).Path events (result, after)) :
    framesIn events = [origin.octetFrame octet] ∧ origin.Linked after := by
  have hlinked := h
  obtain ⟨state, hstate, rfl⟩ := h
  rw [wire_transferOctet _ hstate] at path
  obtain ⟨failure, hframes, hend⟩ | ⟨reply, rest, hrest, hframes⟩ := framesIn_of_path_roundTrip path
  · cases hend
    exact ⟨hframes, hlinked⟩
  · split at hrest
    · obtain ⟨rfl, hend⟩ := Dialogue.path_done_iff.mp hrest
      cases hend
      exact ⟨hframes, hlinked.advance _⟩
    · obtain ⟨rfl, hend⟩ := Dialogue.path_done_iff.mp hrest
      cases hend
      exact ⟨hframes, hlinked⟩

/-- All octets go out in order, or the first ones up to a failure. -/
theorem frames_sendOctets (h : origin.Linked master) {answer : UInt8} {octets : List UInt8}
    {result : Except MasterError UInt8}
    (path : (wire (sendOctets target answer octets) master).Path events (result, after)) :
    (∃ error, result = .error error ∧ framesIn events ≠ [] ∧
        framesIn events <+: octets.map origin.octetFrame) ∨
      ∃ value, result = .ok value ∧ framesIn events = octets.map origin.octetFrame ∧
        origin.Linked after := by
  -- Every exchange keeps the connection, so the frames are those of the master at the beginning.
  induction octets generalizing answer master events with
  | nil =>
    obtain ⟨rfl, hend⟩ := Dialogue.path_done_iff.mp path
    cases hend
    exact .inr ⟨answer, rfl, rfl, h⟩
  | cons octet rest ih =>
    rw [sendOctets, path_wire_bind_iff] at path
    obtain ⟨error, path, rfl⟩ | ⟨value, middle, first, second, hfirst, hsecond, rfl⟩ := path
    · obtain ⟨hframes, -⟩ := frames_transferOctet h path
      rw [hframes]
      exact .inl ⟨error, rfl, by simp, ⟨rest.map origin.octetFrame, rfl⟩⟩
    · obtain ⟨hframes, hmiddle⟩ := frames_transferOctet h hfirst
      rw [framesIn_append, hframes]
      obtain ⟨error, rfl, -, hprefix⟩ | ⟨value, rfl, hrest, hafter⟩ := ih hmiddle hsecond
      · exact .inl ⟨error, rfl, by simp, (List.prefix_append_right_inj _).mpr hprefix⟩
      · exact .inr ⟨value, rfl, by rw [hrest]; rfl, hafter⟩

/-- Zeros go out for the octets of the answer. -/
theorem frames_listen {ρ : Type} [Receiver ρ α] (h : origin.Linked master) {receiver : ρ}
    {octet : UInt8} {result : Except MasterError α}
    (path : (wire (listen target receiver octet) master).Path events (result, after)) :
    ∃ zeros, framesIn events = (List.replicate zeros 0).map origin.octetFrame := by
  induction receiver, octet using Receiver.feed_induction generalizing master events with
  | done receiver octet answer hfeed =>
    rw [wire_listen_of_done master target hfeed] at path
    obtain ⟨rfl, -⟩ := Dialogue.path_done_iff.mp path
    exact ⟨0, rfl⟩
  | needData receiver octet next hfeed ih =>
    rw [listen_of_needData target hfeed, path_wire_bind_iff] at path
    obtain ⟨error, path, -⟩ | ⟨value, middle, first, second, hfirst, hsecond, rfl⟩ := path
    · exact ⟨1, (frames_transferOctet h path).1⟩
    · obtain ⟨hframes, hmiddle⟩ := frames_transferOctet h hfirst
      obtain ⟨zeros, hzeros⟩ := ih value hmiddle hsecond
      exact ⟨zeros + 1, by rw [framesIn_append, hframes, hzeros]; rfl⟩

/-- A transfer sends its request from the first octet on. -/
theorem transmits_of_path_transfer {ρ : Type} [Receiver ρ α] (h : master.state ≠ .startup)
    {request : Request} {receiver : ρ} {result : Except MasterError α}
    (path : (wire (transfer request receiver) master).Path events (result, after)) :
    master.Transmits request events := by
  rw [transfer, path_wire_bind_iff] at path
  obtain ⟨error, path, -⟩ | ⟨value, middle, first, second, hfirst, hsecond, rfl⟩ := path
  · obtain ⟨-, -, hne, hprefix⟩ | ⟨value, hresult, -⟩ := frames_sendOctets (.refl h) path
    · exact ⟨hne, 0, by simpa using hprefix⟩
    · cases hresult
  · obtain ⟨error, hresult, -⟩ | ⟨_, -, hframes, hmiddle⟩ := frames_sendOctets (.refl h) hfirst
    · cases hresult
    · obtain ⟨zeros, hzeros⟩ := frames_listen hmiddle hsecond
      have hpos := request.eight_le_length_odOctets
      rw [Transmits, framesIn_append, hframes, hzeros]
      refine ⟨fun hnil => ?_, zeros, [], by rw [List.append_nil, List.map_append]⟩
      have hlength := congrArg List.length (List.append_eq_nil_iff.mp hnil).1
      rw [List.length_map, List.length_nil] at hlength
      omega

end Master

namespace Step

open Master Master.Action Isdu

variable {step : Step}

/-- A parameter transfer in a connection sends its request. -/
theorem transmits {request : Request} (hop : step.operation = request.operation)
    (hstate : step.source.state ≠ .startup) : step.source.Transmits request step.traffic := by
  cases request with
  | read index subindex =>
    obtain ⟨inner, path, -⟩ := step.exists_inner (readParameter index subindex) (by rw [hop]; rfl)
    rw [wire_readParameter] at path
    exact transmits_of_path_transfer hstate path
  | write index subindex data length_le =>
    obtain ⟨inner, path, -⟩ :=
      step.exists_inner (writeParameter index subindex data) (by rw [hop]; rfl)
    rw [wire_writeParameter _ _ _ length_le] at path
    obtain ⟨answer, hanswer, -⟩ := path_wire_bind_pure_iff.mp path
    exact transmits_of_path_transfer hstate hanswer

/-- A write whose data is too long sends nothing. -/
theorem traffic_of_tooLong {index : UInt16} {subindex : UInt8} {data : List UInt8}
    (hop : step.operation = .writeParameter index subindex data)
    (h : maxWriteLength < data.length) : step.traffic = [] := by
  obtain ⟨inner, path, -⟩ :=
    step.exists_inner (writeParameter index subindex data) (by rw [hop]; rfl)
  rw [wire_writeParameter_of_lt _ _ _ h] at path
  exact (Dialogue.path_done_iff.mp path).1

end Step

end Sdci
