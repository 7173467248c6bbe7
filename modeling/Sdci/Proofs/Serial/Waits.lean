import Sdci.Proofs.Console.Session
import Sdci.Proofs.Master.Calls

/-!
# Waits that can begin

A master waits for no more octets than the longest reply has, and no longer than the longest of its
time limits (`Operation.waitsUpTo`). So over a serial line whose clock has that time to come, none
of its waits ends the program, and an operation comes to the result that it has over any transport
(`Operation.run?_eq`). The same holds of every line that the console answers
(`Console.answer_run?`).
-/

namespace Sdci

open Serial

/-! ### Dialogues -/

namespace Dialogue

variable {α β : Type} {limit : Nat}

@[simp]
theorem clockLeft_run (dialogue : Dialogue α) (line : Line) :
    (dialogue.run line).2.1.clockLeft = line.clockLeft := by
  induction dialogue generalizing line with
  | done value => rfl
  | ask call next ih => exact (ih _ _).trans (line.clockLeft_answer call)

/-- Whatever the answers are, every wait is for no more octets than a reply can have, and for no
longer than the limit. -/
def WaitsUpTo (limit : Nat) (dialogue : Dialogue α) : Prop :=
  ∀ events value, dialogue.Path events value → ∀ event ∈ events, ∀ count timeout,
    event.call = .receive count timeout → count ≤ Reply.maxLength ∧ timeout ≤ limit

theorem waitsUpTo_done (value : α) : (done value).WaitsUpTo limit := by
  intro events result path event hmem
  obtain ⟨rfl, -⟩ := path_done_iff.mp path
  cases hmem

/-- The waits of two dialogues, one behind the other, are those of each. -/
theorem WaitsUpTo.bind {dialogue : Dialogue α} {f : α → Dialogue β} (h : dialogue.WaitsUpTo limit)
    (hf : ∀ events value, dialogue.Path events value → (f value).WaitsUpTo limit) :
    (dialogue.bind f).WaitsUpTo limit := by
  intro events result path event hmem
  obtain ⟨first, value, second, hfirst, hsecond, rfl⟩ := path_bind_iff.mp path
  obtain hmem | hmem := List.mem_append.mp hmem
  · exact h first value hfirst event hmem
  · exact hf first value hfirst second result hsecond event hmem

/-- Over a line whose clock has the time to come, a dialogue with such waits is held to its end. -/
theorem WaitsUpTo.run? {dialogue : Dialogue α} (h : dialogue.WaitsUpTo limit) {line : Line}
    (hlimit : limit ≤ line.clockLeft) :
    dialogue.run? line =
      ((dialogue.run line).2.2, some ((dialogue.run line).1, (dialogue.run line).2.1)) := by
  induction dialogue generalizing line with
  | done value => rfl
  | ask call next ih =>
    have hanswer : line.answer? call = some (Transport.answer line call) := by
      cases call with
      | receive count timeout =>
        have path := (ask (.receive count timeout) next).path_run line
        obtain ⟨hcount, htimeout⟩ :=
          h _ _ path _ (List.mem_cons_self ..) count timeout rfl
        exact if_pos ⟨Nat.le_trans htimeout hlimit, Nat.le_trans hcount (by decide)⟩
      | send | discard | pause | note => rfl
    have hnext : (next (Transport.answer line call).1).WaitsUpTo limit :=
      fun events value path event hmem =>
        h _ value (.ask _ path) event (List.mem_cons_of_mem _ hmem)
    have hrest : limit ≤ (Transport.answer line call).2.clockLeft := by
      rwa [Line.clockLeft_answer]
    rw [Dialogue.run?, hanswer]
    simp only [ih _ hnext hrest]
    rfl

end Dialogue

/-! ### Operations -/

/-- The longest time limit of a wait. -/
def Settings.longestWait (settings : Settings) : Nat :=
  max settings.idleTimeout (max settings.cycleTimeout (max settings.transferTimeout
    (max settings.faultTimeout settings.eventTimeout)))

theorem Geometry.responseLength_le (geometry : Geometry) :
    geometry.responseLength ≤ Reply.maxLength := by
  have hinput : geometry.inputLength ≤ 32 := geometry.inputLength_le
  have hwidth : geometry.odWidth = 1 ∨ geometry.odWidth = 2 := geometry.odWidth_eq_one_or_two
  rw [responseLength, Reply.maxLength, SequenceType.maxLength]
  split <;> omega

/-- A master asks for no more octets than the longest reply has, within one of its time limits. -/
theorem Operation.Awaits.wait_le {operation : Operation} {master : Master} {frame : List UInt8}
    {count timeout : Nat} (h : operation.Awaits master frame count timeout) :
    count ≤ Reply.maxLength ∧ timeout ≤ master.settings.longestWait := by
  have hlength := master.geometry.responseLength_le
  have hmax : Reply.maxLength = 36 := rfl
  rw [Settings.longestWait]
  unfold Awaits at h
  split at h
  · omega
  · omega
  · omega
  · obtain ⟨-, rfl, rfl⟩ | ⟨-, rfl, htimeout⟩ := h
    · omega
    · split at htimeout
      · omega
      · omega

theorem Operation.waitsUpTo (operation : Operation) (master : Master) :
    (operation.perform master).WaitsUpTo master.settings.longestWait := by
  rintro events ⟨result, target⟩ path ⟨call, answer⟩ hmem count timeout rfl
  let step : Step := ⟨master, operation, events, result, target, path⟩
  have htraffic : ⟨.receive count timeout, answer⟩ ∈ step.traffic :=
    (step.mem_traffic rfl).mpr hmem
  obtain ⟨before, after, hevents⟩ := List.append_of_mem htraffic
  obtain ⟨frame, -, hawaits⟩ :=
    (operation.onLine master).permits step.path_wire before _ after hevents
  exact hawaits.wait_le

/-- Over a serial line whose clock has the time of the longest wait to come, an operation comes to
the result that it has over any transport. -/
theorem Operation.run?_eq (operation : Operation) {master : Master} {line : Line}
    (h : master.settings.longestWait ≤ line.clockLeft) :
    (operation.perform master).run? line =
      (((operation.perform master).run line).2.2,
        some (((operation.perform master).run line).1, ((operation.perform master).run line).2.1)) :=
  (operation.waitsUpTo master).run? h

/-! ### The console -/

namespace Console

variable {reaction : Reaction}

/-- The waits of the dialogue are no longer than the time limits, which the master keeps. -/
def KeepsLimits (settings : Settings) (dialogue : Dialogue Reaction) : Prop :=
  dialogue.WaitsUpTo settings.longestWait ∧
    ∀ events reaction, dialogue.Path events reaction → reaction.master.settings = settings

theorem keepsLimits_done {settings : Settings} (h : reaction.master.settings = settings) :
    KeepsLimits settings (.done reaction) := by
  refine ⟨Dialogue.waitsUpTo_done reaction, fun events other path => ?_⟩
  obtain ⟨-, rfl⟩ := Dialogue.path_done_iff.mp path
  exact h

theorem KeepsLimits.bind {settings : Settings} {dialogue : Dialogue Reaction}
    {f : Reaction → Dialogue Reaction} (h : KeepsLimits settings dialogue)
    (hf : ∀ reaction, reaction.master.settings = settings → KeepsLimits settings (f reaction)) :
    KeepsLimits settings (dialogue.bind f) := by
  refine ⟨h.1.bind fun events reaction path => (hf reaction (h.2 events reaction path)).1,
    fun events result path => ?_⟩
  obtain ⟨first, reaction, second, hfirst, hsecond, -⟩ := Dialogue.path_bind_iff.mp path
  exact (hf reaction (h.2 first reaction hfirst)).2 second result hsecond

/-- What becomes of an operation is told behind it, with the master that it leaves. -/
theorem keepsLimits_perform (operation : Operation) (master : Master)
    {f : Except MasterError Outcome × Master → Dialogue Reaction}
    (hf : ∀ result target, ∃ reaction, f (result, target) = .done reaction ∧
      reaction.master = target) :
    KeepsLimits master.settings ((operation.perform master).bind f) := by
  have hdone (result : Except MasterError Outcome) (target : Master)
      (htarget : target.settings = master.settings) :
      KeepsLimits master.settings (f (result, target)) := by
    obtain ⟨reaction, hreaction, rfl⟩ := hf result target
    rw [hreaction]
    exact keepsLimits_done htarget
  have hsettings (events : List Event) (result : Except MasterError Outcome) (target : Master)
      (path : (operation.perform master).Path events (result, target)) :
      target.settings = master.settings :=
    Step.target_settings ⟨master, operation, events, result, target, path⟩
  refine ⟨(operation.waitsUpTo master).bind fun events (result, target) path =>
    (hdone result target (hsettings _ _ _ path)).1, fun events reaction path => ?_⟩
  obtain ⟨first, ⟨result, target⟩, second, hfirst, hsecond, -⟩ := Dialogue.path_bind_iff.mp path
  exact (hdone result target (hsettings _ _ _ hfirst)).2 second reaction hsecond

theorem keepsLimits_react (master : Master) (typed : String) :
    KeepsLimits master.settings (react master typed) := by
  rw [react]
  split
  · exact keepsLimits_done rfl
  · next request _ =>
    cases request with
    | operation operation =>
      refine keepsLimits_perform operation master fun result target => ?_
      cases result <;> exact ⟨_, rfl, rfl⟩
    | poll delay =>
      rw [reactTo]
      split
      · exact keepsLimits_done rfl
      · exact keepsLimits_done rfl
    | quit => exact keepsLimits_done rfl
  · exact keepsLimits_done rfl

theorem keepsLimits_pollOnce (master : Master) (delay : Text.Decimal) :
    KeepsLimits master.settings (pollOnce master delay) := by
  refine keepsLimits_perform _ master fun result target => ?_
  rcases result with error | (_ | response | _ | _ | _) <;> exact ⟨_, rfl, rfl⟩

theorem keepsLimits_pollCycles (master : Master) (delay : Text.Decimal) (count : Nat) :
    KeepsLimits master.settings (pollCycles master delay count) := by
  induction count generalizing master delay with
  | zero => exact keepsLimits_done rfl
  | succ count ih =>
    refine (keepsLimits_pollOnce master delay).bind fun reaction hsettings => ?_
    cases reaction.next with
    | poll delay =>
      have hcycles := ih reaction.master delay
      rw [hsettings] at hcycles
      exact hcycles.bind fun later hlater => keepsLimits_done hlater
    | prompt | quit | abort => exact keepsLimits_done hsettings

theorem keepsLimits_answer (master : Master) (typed : String) (cycles : Nat) :
    KeepsLimits master.settings (answer master typed cycles) := by
  refine (keepsLimits_react master typed).bind fun reaction hsettings => ?_
  cases reaction.next with
  | poll delay =>
    have hcycles := keepsLimits_pollCycles reaction.master delay cycles
    rw [hsettings] at hcycles
    exact hcycles.bind fun later hlater => keepsLimits_done hlater
  | prompt | quit | abort => exact keepsLimits_done hsettings

/-- Whatever is typed, the console that answers it waits as its master does, and leaves a master
with the same settings. Over a serial line whose clock has that time to come, no wait ends the
program. -/
theorem answer_run? (master : Master) (typed : String) (cycles : Nat) {line : Line}
    (h : master.settings.longestWait ≤ line.clockLeft) :
    let (reaction, after, events) := (answer master typed cycles).run line
    (answer master typed cycles).run? line = (events, some (reaction, after)) ∧
      reaction.master.settings = master.settings ∧ after.clockLeft = line.clockLeft := by
  obtain ⟨hwaits, hsettings⟩ := keepsLimits_answer master typed cycles
  exact ⟨hwaits.run? h, hsettings _ _ (Dialogue.path_run _ line), Dialogue.clockLeft_run _ line⟩

end Console

end Sdci
