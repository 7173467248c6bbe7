import Sdci.Proofs.Master.Conversation
import Sdci.Script

/-!
# The calls that reach the line

Whatever the line answers, all that a master sends is well formed, and every wait for a reply
follows a frame that is out and asks for the reply to it (`Master.calls_permitted`). The geometry
decides both, and it is the same for all calls of a step.
-/

namespace Sdci

/-! ### Frames -/

/-- A frame of two octets: a command, and the checksum of it and of a zero. -/
def Frame.IsPlain (frame : List UInt8) : Prop :=
  ∃ command, frame = [command, Checksum.of [command, 0]]

/-- A cyclic frame of the geometry: two zeros, the process data, on-request data, and the checksum
of all these. Process data is cut to the length of the geometry, or filled up with zeros. -/
def Geometry.IsCyclicFrame (geometry : Geometry) (processData frame : List UInt8) : Prop :=
  geometry.isCyclic ∧ frame.length = geometry.requestLength ∧
    ∃ data od : List UInt8, data.length = geometry.outputLength ∧ od.length = geometry.odWidth ∧
      data = processData.take geometry.outputLength ++
        List.replicate (geometry.outputLength - processData.length) 0 ∧
      frame = 0 :: 0 :: data ++ od ++ [Checksum.of (0 :: 0 :: data ++ od)]

namespace Operation

/-- The process data that the caller of an operation gives, if any. -/
def processData : Operation → List UInt8
  | cycle processData _ | cycleWith processData _ | damagedCycle processData _ => processData
  | _ => []

/-- The frames that an operation of a master may send. Those of a damaged cycle are well formed up
to the last octet, which has every bit inverted. -/
def MaySend (operation : Operation) (master : Master) (frame : List UInt8) : Prop :=
  match operation with
  | damagedCycle .. | injectFaults _ =>
    ∃ body checksum, frame = body ++ [checksum ^^^ 0xFF] ∧
      (Frame.IsPlain (body ++ [checksum]) ∨
        master.geometry.IsCyclicFrame operation.processData (body ++ [checksum]))
  | _ => Frame.IsPlain frame ∨ master.geometry.IsCyclicFrame operation.processData frame

/-- The length of the reply and the time limit that an operation of a master asks for when the frame
is out. -/
def Awaits (operation : Operation) (master : Master) (frame : List UInt8)
    (count timeout : Nat) : Prop :=
  match operation with
  | requestEvent => count = 4 ∧ timeout = master.settings.eventTimeout
  | damagedCycle .. | injectFaults _ =>
    count = master.geometry.responseLength ∧ timeout = master.settings.faultTimeout
  | _ =>
    (master.geometry.IsCyclicFrame operation.processData frame ∧
      count = master.geometry.responseLength ∧ timeout = master.settings.cycleTimeout) ∨
    (Frame.IsPlain frame ∧ count = 2 ∧
      if operation.isTransfer then
        ¬master.geometry.isCyclic ∧ timeout = master.settings.transferTimeout
      else
        frame = Frame.plain Command.idle.octet 0 ∧ timeout = master.settings.idleTimeout)

/-- What an operation of a master may ask of the line, given all that happened on it before. -/
def Permits (operation : Operation) (master : Master) (before : List Event) : Call → Prop
  | .send frame => operation.MaySend master frame
  | .receive count timeout =>
    ∃ frame, before.getLast? = some ⟨.send frame, .ok ()⟩ ∧
      operation.Awaits master frame count timeout
  | .discard =>
    ∃ command, operation.announcement? = some command ∧
      before = [⟨.send (Frame.plain command.octet 0), .ok ()⟩]
  | .pause _ | .note _ => False

end Operation

theorem Frame.isPlain_plain (command : UInt8) : IsPlain (plain command 0) := ⟨command, rfl⟩

/-- Data is fitted by cutting it or filling it up with zeros. -/
theorem Master.fitLength_eq (length : Nat) (processData : List UInt8) :
    fitLength length processData =
      processData.take length ++ List.replicate (length - processData.length) 0 := by
  have hmissing : length - min length processData.length = length - processData.length := by omega
  rw [fitLength, List.rightpad, List.length_take, hmissing]

theorem Geometry.isCyclicFrame_cyclicFrame {geometry : Geometry} (h : geometry.isCyclic)
    (processData : List UInt8) {od : OnRequestData} (hwidth : od.width = geometry.odWidth) :
    geometry.IsCyclicFrame processData (geometry.cyclicFrame processData od) := by
  refine ⟨h, ?_, _, od.toList, Master.length_fitLength _ _, ?_, Master.fitLength_eq _ _, rfl⟩
  · simp only [cyclicFrame, Checksum.attach, requestLength, h, if_true, List.length_append,
      List.length_cons, Master.length_fitLength, OnRequestData.length_toList, hwidth,
      List.length_nil]
    omega
  · rw [OnRequestData.length_toList, hwidth]

namespace Master

variable {master : Master} {processData : List UInt8} {od : OnRequestData}

/-- A cycle sends a cyclic frame or an idle one, and asks for the reply to it. -/
theorem cycleFrame_cases (hwidth : master.geometry.isCyclic → od.width = master.geometry.odWidth) :
    (master.geometry.IsCyclicFrame processData (master.cycleFrame processData od) ∧
      master.cycleLimit = master.settings.cycleTimeout) ∨
    (master.cycleFrame processData od = Frame.plain Command.idle.octet 0 ∧
      master.geometry.responseLength = 2 ∧ master.cycleLimit = master.settings.idleTimeout) := by
  by_cases hcyclic : master.geometry.isCyclic
  · rw [cycleFrame, cycleLimit, if_pos hcyclic, if_pos hcyclic]
    exact .inl ⟨Geometry.isCyclicFrame_cyclicFrame hcyclic _ (hwidth hcyclic), rfl⟩
  · rw [cycleFrame, cycleLimit, if_neg hcyclic, if_neg hcyclic]
    exact .inr ⟨rfl, Geometry.responseLength_of_not_isCyclic hcyclic, rfl⟩

/-- An exchange of a transfer sends a cyclic frame without process data or one of two octets. -/
theorem octetFrame_cases (octet : UInt8) :
    (master.geometry.IsCyclicFrame [] (master.octetFrame octet) ∧
      master.octetTimeout = master.settings.cycleTimeout) ∨
    (Frame.IsPlain (master.octetFrame octet) ∧ master.geometry.responseLength = 2 ∧
      ¬master.geometry.isCyclic ∧ master.octetTimeout = master.settings.transferTimeout) := by
  by_cases hcyclic : master.geometry.isCyclic
  · rw [octetFrame, octetTimeout, if_pos hcyclic, if_pos hcyclic, ← fitLength_nil]
    exact .inl ⟨Geometry.isCyclicFrame_cyclicFrame hcyclic [] (Geometry.width_ofFirst _ _), rfl⟩
  · rw [octetFrame, octetTimeout, if_neg hcyclic, if_neg hcyclic]
    exact .inr ⟨Frame.isPlain_plain octet, Geometry.responseLength_of_not_isCyclic hcyclic,
      hcyclic, rfl⟩

/-- A damaged frame differs from a well-formed one in its last octet. -/
theorem damage_cycleFrame (hwidth : master.geometry.isCyclic → od.width = master.geometry.odWidth) :
    ∃ body checksum,
      Frame.damage (master.cycleFrame processData od) = body ++ [checksum ^^^ 0xFF] ∧
        (Frame.IsPlain (body ++ [checksum]) ∨
          master.geometry.IsCyclicFrame processData (body ++ [checksum])) := by
  have hcases := @cycleFrame_cases master processData od hwidth
  obtain ⟨hframe, -⟩ | ⟨hframe, -⟩ := hcases
  · obtain ⟨-, -, data, od, -, -, -, heq⟩ := id hframe
    rw [heq, Frame.damage_append]
    exact ⟨_, _, rfl, .inr (heq ▸ hframe)⟩
  · rw [hframe]
    exact ⟨[Command.idle.octet], _, rfl, .inl (Frame.isPlain_plain _)⟩

end Master

namespace Operation

open Master

variable {operation : Operation} {master : Master} {frame : List UInt8} {count timeout : Nat}

/-- The exchanges of an operation have well-formed frames, and ask for the replies to them. -/
theorem Exchanges.permitted (h : operation.Exchanges master frame count timeout) :
    operation.MaySend master frame ∧ operation.Awaits master frame count timeout := by
  have hcycle {processData : List UInt8} {od : OnRequestData}
      (hwidth : master.geometry.isCyclic → od.width = master.geometry.odWidth) :
      (Frame.IsPlain (master.cycleFrame processData od) ∨
          master.geometry.IsCyclicFrame processData (master.cycleFrame processData od)) ∧
        ((master.geometry.IsCyclicFrame processData (master.cycleFrame processData od) ∧
          master.geometry.responseLength = master.geometry.responseLength ∧
            master.cycleLimit = master.settings.cycleTimeout) ∨
        (Frame.IsPlain (master.cycleFrame processData od) ∧ master.geometry.responseLength = 2 ∧
          master.cycleFrame processData od = Frame.plain Command.idle.octet 0 ∧
            master.cycleLimit = master.settings.idleTimeout)) := by
    obtain ⟨hframe, hlimit⟩ | ⟨hframe, hlength, hlimit⟩ := cycleFrame_cases hwidth
    · exact ⟨.inr hframe, .inl ⟨hframe, rfl, hlimit⟩⟩
    · have hplain : Frame.IsPlain (master.cycleFrame processData od) :=
        hframe ▸ Frame.isPlain_plain _
      exact ⟨.inl hplain, .inr ⟨hplain, hlength, hframe, hlimit⟩⟩
  cases operation with
  | probe | startUp =>
    obtain ⟨rfl, rfl, rfl⟩ := h
    exact ⟨.inl (Frame.isPlain_plain _), .inr ⟨Frame.isPlain_plain _, rfl, rfl, rfl⟩⟩
  | enterOperate | cycle processData octet =>
    obtain ⟨rfl, rfl, rfl⟩ := h
    exact hcycle fun _ => Geometry.width_ofFirst _ _
  | cycleWith processData od =>
    obtain ⟨hwidth, rfl, rfl, rfl⟩ := h
    exact hcycle hwidth
  | damagedCycle processData octet =>
    obtain ⟨rfl, rfl, rfl⟩ := h
    exact ⟨damage_cycleFrame fun _ => Geometry.width_ofFirst _ _, rfl, rfl⟩
  | injectFaults count =>
    obtain ⟨rfl, rfl, rfl⟩ := h
    exact ⟨damage_cycleFrame fun _ => Geometry.width_ofFirst _ _, rfl, rfl⟩
  | requestEvent =>
    obtain ⟨rfl, rfl, rfl⟩ := h
    exact ⟨.inl (Frame.isPlain_plain _), rfl, rfl⟩
  | readParameter index subindex | writeParameter index subindex data =>
    obtain ⟨⟨octet, rfl⟩, rfl, rfl⟩ := h
    obtain ⟨hframe, hlimit⟩ | ⟨hframe, hlength, hcyclic, hlimit⟩ := octetFrame_cases octet
    · exact ⟨.inr hframe, .inl ⟨hframe, rfl, hlimit⟩⟩
    · exact ⟨.inl hframe, .inr ⟨hframe, hlength, hcyclic, hlimit⟩⟩
  | _ => exact h.elim

end Operation

/-! ### Events in order -/

/-- Every event, with the events before it, has the property. -/
def Throughout (p : List Event → Event → Prop) (events : List Event) : Prop :=
  ∀ before event after, events = before ++ event :: after → p before event

section Throughout

variable {p q : List Event → Event → Prop} {event : Event} {events : List Event}

@[simp]
theorem throughout_nil : Throughout p [] := by
  intro before event after h
  simp at h

@[simp]
theorem throughout_cons :
    Throughout p (event :: events) ↔
      p [] event ∧ Throughout (fun before => p (event :: before)) events := by
  constructor
  · intro h
    refine ⟨h [] event events rfl, fun before other after heq => ?_⟩
    exact h (event :: before) other after (by rw [heq, List.cons_append])
  · rintro ⟨hhead, htail⟩ before other after heq
    rcases before with _ | ⟨first, before⟩
    · cases heq
      exact hhead
    · obtain ⟨rfl, hrest⟩ := List.cons.inj heq
      exact htail before other after hrest

theorem Throughout.mono (h : Throughout p events) (hpq : ∀ before event, p before event →
    q before event) : Throughout q events :=
  fun before event after heq => hpq before event (h before event after heq)

end Throughout

/-! ### Conversations -/

namespace Master

open Master.Action

variable {α : Type} {allowed : List UInt8 → Nat → Nat → Prop} {origin : Master}

/-- The event is part of an allowed exchange, given what happened on the line before. -/
def BelongsTo (allowed : List UInt8 → Nat → Nat → Prop) (before : List Event) (event : Event) :
    Prop :=
  match event.call with
  | .send frame => ∃ count timeout, allowed frame count timeout
  | .receive count timeout =>
    ∃ frame, before.getLast? = some ⟨.send frame, .ok ()⟩ ∧ allowed frame count timeout
  | _ => False

theorem BelongsTo.cons {before : List Event} {event : Event} (first : Event)
    (h : BelongsTo allowed before event) : BelongsTo allowed (first :: before) event := by
  rw [BelongsTo] at h ⊢
  split at h
  · exact h
  · obtain ⟨frame, hlast, hallowed⟩ := h
    exact ⟨frame, by rw [List.getLast?_cons, hlast]; rfl, hallowed⟩
  · exact h

/-- Every event of a conversation is part of an allowed exchange. -/
theorem Conversation.belongsTo {dialogue : Dialogue (Except MasterError α × Master)}
    (h : Conversation allowed origin dialogue) {events : List Event}
    {outcome : Except MasterError α × Master} (path : dialogue.Path events outcome) :
    Throughout (BelongsTo allowed) events := by
  induction h generalizing events with
  | done hresult htarget =>
    obtain ⟨rfl, -⟩ := Dialogue.path_done_iff.mp path
    exact throughout_nil
  | @roundTrip master frame count timeout next hallowed hmaster hnext ih =>
    have hsend : ∀ answer, BelongsTo allowed [] ⟨.send frame, answer⟩ :=
      fun _ => ⟨count, timeout, hallowed⟩
    have hreceive : ∀ answer,
        BelongsTo allowed [⟨.send frame, .ok ()⟩] ⟨.receive count timeout, answer⟩ :=
      fun _ => ⟨frame, rfl, hallowed⟩
    obtain ⟨failure, rfl, -⟩ | ⟨failure, rfl, -⟩ | ⟨reply, rest, hrest, rfl⟩ :=
      path_roundTrip_iff.mp path
    · simp [hsend]
    · simp [hsend, hreceive]
    · simp only [throughout_cons]
      exact ⟨hsend _, hreceive _, (ih reply hrest).mono fun _ _ h => (h.cons _).cons _⟩

end Master

/-! ### Steps -/

namespace Operation

open Master Master.Action

variable {operation : Operation} {master : Master}

/-- What is part of an exchange of the operation is permitted. -/
theorem permits_of_belongsTo {before : List Event} {event : Event}
    (h : BelongsTo (operation.Exchanges master) before event) :
    operation.Permits master before event.call := by
  obtain ⟨call, answer⟩ := event
  cases call with
  | send frame =>
    obtain ⟨count, timeout, hexchange⟩ := h
    exact hexchange.permitted.1
  | receive count timeout =>
    obtain ⟨frame, hlast, hexchange⟩ := h
    exact ⟨frame, hlast, hexchange.permitted.2⟩
  | discard | pause duration | note notice => exact h.elim

/-- The first call of an operation that is announced sends a frame of two octets. -/
theorem permits_announcement {command : Command} (h : operation.announcement? = some command) :
    operation.Permits master [] (.send (Frame.plain command.octet 0)) := by
  have hplain : Frame.IsPlain (Frame.plain command.octet 0) := Frame.isPlain_plain _
  cases operation with
  | startUp | enterOperate => exact .inl hplain
  | _ => cases h

/-- All calls of an operation are permitted, whatever the line answers. -/
theorem OnLine.permits {dialogue : Dialogue (Except MasterError Outcome × Master)}
    (h : operation.OnLine master dialogue) {events : List Event}
    {outcome : Except MasterError Outcome × Master} (path : dialogue.Path events outcome) :
    Throughout (fun before event => operation.Permits master before event.call) events := by
  cases h with
  | silent hdialogue =>
    obtain ⟨result, target, rfl, -⟩ := hdialogue
    obtain ⟨rfl, -⟩ := Dialogue.path_done_iff.mp path
    exact throughout_nil
  | command hoperation =>
    subst hoperation
    have hsend : Operation.wakeUp.Permits master [] (.send (Frame.plain Command.wakeUp.octet 0)) :=
      .inl (Frame.isPlain_plain _)
    obtain ⟨answer, rest, hrest, rfl⟩ := Dialogue.path_ask_iff.mp path
    obtain ⟨failure, -, rfl, -⟩ | ⟨value, -, hdone⟩ := path_orFail_iff.mp hrest
    · simpa using hsend
    · obtain ⟨rfl, -⟩ := Dialogue.path_done_iff.mp hdone
      simpa using hsend
  | @announcement command next hcommand hnext =>
    have hsend : operation.Permits master [] (.send (Frame.plain command.octet 0)) :=
      permits_announcement hcommand
    have hdiscard : operation.Permits master [⟨.send (Frame.plain command.octet 0), .ok ()⟩]
        .discard := ⟨command, hcommand, rfl⟩
    obtain ⟨failure, rfl, -⟩ | ⟨failure, rfl, -⟩ | ⟨rest, hrest, rfl⟩ := path_announce_iff.mp path
    · simpa using hsend
    · simpa using ⟨hsend, hdiscard⟩
    · simp only [throughout_cons]
      exact ⟨hsend, hdiscard, (hnext.belongsTo hrest).mono fun _ _ h =>
        permits_of_belongsTo ((h.cons _).cons _)⟩
  | conversation hcommand hdialogue =>
    exact (hdialogue.belongsTo path).mono fun _ _ => permits_of_belongsTo

/-- An announced command that is out is followed by a discard. -/
theorem OnLine.discards {dialogue : Dialogue (Except MasterError Outcome × Master)}
    (h : operation.OnLine master dialogue) {events : List Event}
    {outcome : Except MasterError Outcome × Master} (path : dialogue.Path events outcome)
    {command : Command} (hcommand : operation.announcement? = some command) {rest : List Event}
    (hevents : events = ⟨.send (Frame.plain command.octet 0), .ok ()⟩ :: rest) :
    ∃ answer others, rest = ⟨.discard, answer⟩ :: others := by
  cases h with
  | silent hdialogue =>
    obtain ⟨result, target, rfl, -⟩ := hdialogue
    obtain ⟨rfl, -⟩ := Dialogue.path_done_iff.mp path
    cases hevents
  | command hoperation =>
    subst hoperation
    cases hcommand
  | @announcement other next hother hnext =>
    obtain rfl : other = command := Option.some.inj (hother.symm.trans hcommand)
    obtain ⟨failure, rfl, -⟩ | ⟨failure, rfl, -⟩ | ⟨others, hothers, rfl⟩ :=
      path_announce_iff.mp path
    · cases hevents
    · cases hevents
      exact ⟨_, _, rfl⟩
    · cases hevents
      exact ⟨_, _, rfl⟩
  | conversation hnone hdialogue => cases hnone.symm.trans hcommand

end Operation

/-- Nothing that makes a call changes the geometry. -/
theorem Step.geometry_of_traffic {step : Step} (h : step.traffic ≠ []) :
    step.target.geometry = step.source.geometry := by
  obtain ⟨state, htarget⟩ := step.entered_of_traffic h
  rw [htarget, Master.enter_geometry]

/-- In every run, all calls that reach the line are well formed for the geometry in force, and every
wait for a reply follows a frame that is out and asks for the reply to it. A step that makes a call
does not change the geometry, no step changes the time limits, and a command that is announced drops
what came in before as soon as it is out. -/
theorem Master.calls_permitted {geometry : Geometry} {settings : Settings} {steps : List Step}
    {target : Master} (run : Run (Master.new geometry settings) steps target) :
    ∀ step ∈ steps,
      Throughout (fun before event => step.operation.Permits step.source before event.call)
        step.traffic ∧
      (step.traffic ≠ [] → step.target.geometry = step.source.geometry) ∧
      step.source.settings = settings ∧
      ∀ command rest, step.operation.announcement? = some command →
        step.traffic = ⟨.send (Frame.plain command.octet 0), .ok ()⟩ :: rest →
        ∃ answer others, rest = ⟨.discard, answer⟩ :: others := by
  intro step hmem
  have honline := step.operation.onLine step.source
  refine ⟨honline.permits step.path_wire, Step.geometry_of_traffic,
    run.source_settings step hmem, fun command rest hcommand htraffic => ?_⟩
  exact honline.discards step.path_wire hcommand htraffic

/-- A session whose geometry changes between its cycles. -/
theorem Master.calls_permitted_of_resize :
    let answers : Script := { replies := [.octets (Checksum.attach [0])] }
    let session := (Master.new ⟨.type2V, 2, 2, by decide, by decide⟩).steps answers
      [.startUp, .cycle [1, 2, 3] 7, .resize 3 4, .cycle [1, 2, 3] 7]
    session.1.map (·.traffic.length) = [4, 2, 0, 2] ∧
      session.1.map (·.source.geometry.requestLength) = [7, 7, 7, 9] ∧
      ∀ step ∈ session.1, Throughout
        (fun before event => step.operation.Permits step.source before event.call) step.traffic := by
  intro answers session
  refine ⟨by decide, by decide, fun step hmem => ?_⟩
  exact (calls_permitted (run_steps _ answers _) step hmem).1

end Sdci
