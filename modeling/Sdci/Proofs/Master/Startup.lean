import Mathlib.Data.Stream.Init
import Mathlib.Order.Bounds.Basic
import Sdci.Proofs.Master.Transfer
import Sdci.Proofs.Reply

/-!
# How often the device is probed

On a line whose calls do not fail, a startup sequence sends the wake-up frame, drops what has come
in and probes the device up to the first idle frame that gets a valid response. Which one that is
follows from the replies that the line has in store, and without one among the attempts all of them
are made (`Master.startUp_probes`).
-/

namespace Sdci

namespace Master

open Master.Action

/-! ### Idle exchanges -/

section Probes

variable (master : Master)

/-- The events of idle exchanges, one for each reply. -/
def probes (replies : List (Option (List UInt8))) : List Event :=
  replies.flatMap fun reply =>
    [⟨.send (Frame.plain Command.idle.octet 0), .ok ()⟩,
      ⟨.receive 2 master.settings.idleTimeout, .ok reply⟩]

/-- The events of a startup sequence: the wake-up frame, a discard and idle exchanges. -/
def startUpTraffic (replies : List (Option (List UInt8))) : List Event :=
  ⟨.send (Frame.plain Command.wakeUp.octet 0), .ok ()⟩ :: ⟨.discard, .ok ()⟩ :: master.probes replies

@[simp]
theorem repliesIn_probes (replies : List (Option (List UInt8))) :
    repliesIn (master.probes replies) = replies :=
  repliesIn_exchanges ..

/-- Octets have come in that make a valid response, with a right checksum if one is asked for. -/
def Answers (reply : Option (List UInt8)) : Prop :=
  ∃ octets, reply = some octets ∧
    (Response.decode master.geometry.odWidth octets).isValid ∧
      (master.settings.enforceChecksum →
        (Response.decode master.geometry.odWidth octets).verdict = .intact)

/-- The last of the replies is the only one that makes a valid response, and it is within the
attempts. -/
def Reached (attempts : Nat) (replies : List (Option (List UInt8))) : Prop :=
  ∃ before last, replies = before ++ [last] ∧ before.length < attempts ∧
    (∀ reply ∈ before, ¬master.Answers reply) ∧ master.Answers last

/-- There is a reply for each of the attempts, and none makes a valid response. -/
def Exhausted (attempts : Nat) (replies : List (Option (List UInt8))) : Prop :=
  replies.length = attempts ∧ ∀ reply ∈ replies, ¬master.Answers reply

/-- The attempts that get a valid response when the line has the given replies in store, the first
one for the attempt with number zero. -/
def answered (attempts : Nat) (stored : Stream' (Option (List UInt8))) : Set Nat :=
  {attempt | attempt < attempts ∧ master.Answers (stored.get attempt)}

end Probes

variable {master : Master} {attempts : Nat} {replies : List (Option (List UInt8))}

/-- A reply makes a valid response exactly if what was decoded is not dropped for its checksum. -/
theorem isValid_responseTo_iff {reply : Option (List UInt8)} :
    (master.responseTo reply).isValid ↔ master.Answers reply := by
  rcases reply with _ | octets
  · simp [Answers, Response.isValid]
  rw [responseTo, checked, decoded, Answers]
  cases hresponse : Response.decode master.geometry.odWidth octets with
  | missing odWidth => simp [Response.verdict, Response.isValid, hresponse]
  | received reply =>
    by_cases hsum : Checksum.of reply.body = reply.checksum
    · simp [Response.verdict, Response.isValid, hresponse, hsum]
    · cases henforce : master.settings.enforceChecksum <;>
        simp [Response.verdict, Response.isValid, hresponse, hsum]

theorem Reached.cons {reply : Option (List UInt8)} (hreply : ¬master.Answers reply)
    (h : master.Reached attempts replies) : master.Reached (attempts + 1) (reply :: replies) := by
  obtain ⟨before, last, rfl, hlength, hbefore, hlast⟩ := h
  refine ⟨reply :: before, last, rfl, Nat.succ_lt_succ hlength, ?_, hlast⟩
  simpa using ⟨hreply, hbefore⟩

theorem Exhausted.cons {reply : Option (List UInt8)} (hreply : ¬master.Answers reply)
    (h : master.Exhausted attempts replies) : master.Exhausted (attempts + 1) (reply :: replies) := by
  obtain ⟨hlength, hnone⟩ := h
  refine ⟨congrArg (· + 1) hlength, ?_⟩
  simpa using ⟨hreply, hnone⟩

/-! ### Replies in store -/

section Stored

variable {stored : Stream' (Option (List UInt8))} {count : Nat}

theorem get_mem_take {α : Type} {stream : Stream' α} {place count : Nat} (h : place < count) :
    stream.get place ∈ stream.take count :=
  List.mem_of_getElem? (Stream'.getElem?_take h)

/-- The probing stops at the first reply in store that makes a valid response. -/
theorem Reached.isLeast (h : master.Reached attempts (stored.take count)) :
    ∃ first, count = first + 1 ∧ IsLeast (master.answered attempts stored) first := by
  obtain ⟨before, last, hsplit, hlength, hbefore, hlast⟩ := h
  have hcount : count = before.length + 1 := by simpa using congrArg List.length hsplit
  rw [hcount, Stream'.take_succ'] at hsplit
  obtain ⟨hfront, hend⟩ := List.append_inj' hsplit rfl
  obtain rfl : stored.get before.length = last := (List.cons.inj hend).1
  refine ⟨before.length, hcount, ⟨hlength, hlast⟩, ?_⟩
  rintro attempt ⟨-, hanswers⟩
  by_contra hlt
  refine hbefore (stored.get attempt) ?_ hanswers
  rw [← hfront]
  exact get_mem_take (Nat.not_le.mp hlt)

/-- All attempts are made when no reply in store makes a valid response. -/
theorem Exhausted.eq_empty (h : master.Exhausted attempts (stored.take count)) :
    count = attempts ∧ master.answered attempts stored = ∅ := by
  obtain ⟨hlength, hnone⟩ := h
  have hcount : count = attempts := by simpa using hlength
  refine ⟨hcount, Set.eq_empty_of_forall_notMem ?_⟩
  rintro attempt ⟨hattempt, hanswers⟩
  exact hnone _ (get_mem_take (hcount ▸ hattempt)) hanswers

end Stored

/-! ### Paths without a failed call -/

/-- Idle exchanges follow each other up to the first with a valid response, or until no attempt is
left. -/
theorem path_probeUntilValid {left : Nat} {events : List Event} {result : Except MasterError Unit}
    {after : Master}
    (path : (wire (probeUntilValid attempts left) master).Path events (result, after))
    (hcalls : ∀ event ∈ events, event.failed = false) :
    ∃ replies, events = master.probes replies ∧
      ((master.Reached left replies ∧ result = .ok () ∧ after = master.enter .preoperate) ∨
        (master.Exhausted left replies ∧ result = .error (.startupFailed attempts) ∧
          after = master)) := by
  induction left generalizing events with
  | zero =>
    rw [wire_probeUntilValid_zero] at path
    obtain ⟨rfl, hend⟩ := Dialogue.path_done_iff.mp path
    cases hend
    exact ⟨[], rfl, .inr ⟨⟨rfl, by simp⟩, rfl, rfl⟩⟩
  | succ left ih =>
    rw [wire_probeUntilValid_succ] at path
    obtain ⟨reply, rest, hrest, hquiet, rfl⟩ := path_roundTrip_of_not_failed path hcalls
    by_cases hreply : master.Answers reply
    · rw [if_pos (isValid_responseTo_iff.mpr hreply)] at hrest
      obtain ⟨rfl, hend⟩ := Dialogue.path_done_iff.mp hrest
      cases hend
      exact ⟨[reply], rfl, .inl ⟨⟨[], reply, rfl, left.succ_pos, by simp, hreply⟩, rfl, rfl⟩⟩
    · rw [if_neg fun hvalid => hreply (isValid_responseTo_iff.mp hvalid)] at hrest
      obtain ⟨replies, rfl, hends⟩ := ih hrest hquiet
      refine ⟨reply :: replies, rfl, ?_⟩
      obtain ⟨hreached, hend⟩ | ⟨hexhausted, hend⟩ := hends
      · exact .inl ⟨hreached.cons hreply, hend⟩
      · exact .inr ⟨hexhausted.cons hreply, hend⟩

end Master

namespace Step

open Master Master.Action

/-- On a line whose calls do not fail, a startup sequence is a wake-up frame, a discard and the
probing. -/
theorem startUp_cases {step : Step} (hop : step.operation = .startUp)
    (hcalls : ∀ event ∈ step.events, event.failed = false) :
    let attempts := step.source.settings.startupAttempts
    step.traffic = step.source.startUpTraffic step.replies ∧
      ((step.source.Reached attempts step.replies ∧ step.result = .ok .nothing ∧
          step.target = step.source.enter .preoperate) ∨
        (step.source.Exhausted attempts step.replies ∧
          step.result = .error (.startupFailed attempts) ∧ step.target = step.source)) := by
  intro attempts
  obtain ⟨inner, path, hresult⟩ := step.exists_inner startUp (by rw [hop]; rfl)
  rw [wire_startUp] at path
  obtain ⟨rest, hrest, hquiet, htraffic⟩ :=
    path_announce_of_not_failed path (step.not_failed_of_mem_traffic hcalls)
  obtain ⟨replies, rfl, hends⟩ := path_probeUntilValid hrest hquiet
  have hreplies : step.replies = replies := by
    rw [replies_eq, htraffic]
    exact repliesIn_probes step.source replies
  rw [hreplies, htraffic, hresult]
  refine ⟨rfl, ?_⟩
  obtain ⟨hreached, rfl, hafter⟩ | ⟨hexhausted, rfl, hafter⟩ := hends
  · exact .inl ⟨hreached, rfl, hafter⟩
  · exact .inr ⟨hexhausted, rfl, hafter⟩

end Step

/-- On a line whose calls do not fail, a startup sequence wakes the device up, drops what has come
in and probes it. Of the replies that the line has in store it takes those up to the first that
makes a valid response, and succeeds; if there is none among as many as there are attempts, it takes
so many and fails. It changes nothing about the master but the state, and that only when it
succeeds. -/
theorem Master.startUp_probes {step : Step} (hop : step.operation = .startUp)
    (hcalls : ∀ event ∈ step.events, event.failed = false)
    {stored : Stream' (Option (List UInt8))}
    (hstored : step.replies = stored.take step.replies.length) :
    let source := step.source
    let attempts := source.settings.startupAttempts
    (∀ first, IsLeast (source.answered attempts stored) first →
        step.traffic = source.startUpTraffic (stored.take (first + 1)) ∧
          step.result = .ok .nothing ∧ step.target = source.enter .preoperate) ∧
      (source.answered attempts stored = ∅ →
        step.traffic = source.startUpTraffic (stored.take attempts) ∧
          step.result = .error (.startupFailed attempts) ∧ step.target = source) ∧
      step.target.geometry = source.geometry ∧ step.target.phyMode = source.phyMode ∧
        step.target.baudRate = source.baudRate := by
  intro source attempts
  obtain ⟨htraffic, hends⟩ := Step.startUp_cases hop hcalls
  have hentered : step.source.Entered step.target := Step.target_entered (by rw [hop]; rfl)
  obtain ⟨state, htarget⟩ := hentered
  refine ⟨fun first hfirst => ?_, fun hempty => ?_, by rw [htarget]; exact ⟨rfl, rfl, rfl⟩⟩
  · obtain ⟨hreached, hresult⟩ | ⟨hexhausted, -⟩ := hends
    · rw [hstored] at hreached
      obtain ⟨other, hlength, hother⟩ := hreached.isLeast
      rw [hstored, hlength, hother.unique hfirst] at htraffic
      exact ⟨htraffic, hresult⟩
    · rw [hstored] at hexhausted
      have hmem := hfirst.1
      rw [hexhausted.eq_empty.2] at hmem
      cases hmem
  · obtain ⟨hreached, -⟩ | ⟨hexhausted, hresult⟩ := hends
    · rw [hstored] at hreached
      obtain ⟨other, -, hother⟩ := hreached.isLeast
      have hmem := hother.1
      rw [hempty] at hmem
      cases hmem
    · rw [hstored] at hexhausted
      rw [hstored, hexhausted.eq_empty.1] at htraffic
      exact ⟨htraffic, hresult⟩

/-- A device that stays silent once, probed by a master that is in operate already. -/
theorem Master.startUp_probes_of_retry :
    let master := (Master.new .type0).enter .operate
    let answer := Checksum.attach [0x2A]
    let line : Script := { replies := [.silence, .octets answer, .octets answer] }
    let step := (Operation.startUp.step master line).1
    step.traffic = master.startUpTraffic [none, some answer] ∧ step.result = .ok .nothing ∧
      step.target = master.enter .preoperate := by
  intro master answer line step
  let stored : Stream' (Option (List UInt8)) := Stream'.cons none (Stream'.const (some answer))
  have hcalls : ∀ event ∈ step.events, event.failed = false := by decide
  have hdecode : Response.decode master.geometry.odWidth answer =
      .received (.short 0x2A (Checksum.of [0x2A])) := rfl
  have hanswers : master.Answers (some answer) := by
    refine ⟨answer, rfl, ?_⟩
    rw [hdecode]
    exact ⟨rfl, fun _ => Response.verdict_of_octets rfl⟩
  have hfirst : IsLeast (master.answered 3 stored) 1 := by
    refine ⟨⟨by decide, hanswers⟩, ?_⟩
    rintro attempt ⟨-, octets, hreply, -⟩
    cases attempt with
    | zero => cases hreply
    | succ attempt => exact Nat.le_add_left 1 attempt
  have hreplies : step.replies = [none, some answer] := by decide +kernel
  have hstored : step.replies = stored.take step.replies.length := by
    rw [hreplies]
    rfl
  exact (startUp_probes rfl hcalls hstored).1 1 hfirst

end Sdci
