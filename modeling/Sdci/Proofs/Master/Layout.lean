import Sdci.Proofs.Master.Connection
import Sdci.Proofs.Reply
import Sdci.Script

/-!
# The layout of responses

When the line hands out as many octets as it is asked for, a valid response to a cycle has the
layout of the session's geometry and the octets that came in; and no reply of that length with a
right checksum is refused (`Master.cycle_layout`).
-/

namespace Sdci

/-- The line hands out as many octets as it is asked for, or none. -/
def Event.KeepsPromise : Event → Prop
  | ⟨.receive count _, .ok (some octets)⟩ => octets.length = count
  | _ => True

instance : DecidablePred Event.KeepsPromise := fun event =>
  match event with
  | ⟨.receive count _, .ok (some octets)⟩ => inferInstanceAs (Decidable (octets.length = count))
  | ⟨.receive .., .ok none⟩ | ⟨.receive .., .error _⟩ | ⟨.send _, _⟩ | ⟨.discard, _⟩
  | ⟨.pause _, _⟩ | ⟨.note _, _⟩ => .isTrue trivial

/-- The operation is a communication cycle. -/
def Operation.isCycle : Operation → Bool
  | cycle .. | cycleWith .. => true
  | _ => false

namespace Master

open Master.Action

variable {master target : Master} {events : List Event}

theorem checked_cases (master : Master) (response : Response) :
    master.checked response = response ∨
      master.checked response = .missing master.geometry.odWidth := by
  rw [checked]
  split
  · split
    · exact .inr rfl
    · exact .inl rfl
    · exact .inl rfl
  · exact .inl rfl

/-- A valid response is what the octets that came in decode to. -/
theorem responseTo_of_isValid {reply : Option (List UInt8)}
    (h : (master.responseTo reply).isValid) :
    ∃ octets, reply = some octets ∧
      master.responseTo reply = .decode master.geometry.odWidth octets := by
  rcases reply with _ | octets
  · rw [responseTo_none] at h
    cases h
  refine ⟨octets, rfl, ?_⟩
  rw [responseTo] at h ⊢
  obtain heq | heq := master.checked_cases (master.decoded (some octets))
  · exact heq
  · rw [heq] at h
    cases h

/-- A right checksum is never in the way of a response. -/
theorem responseTo_of_intact {octets : List UInt8}
    (h : (Response.decode master.geometry.odWidth octets).verdict = .intact) :
    master.responseTo (some octets) = .decode master.geometry.odWidth octets := by
  rw [responseTo, checked, decoded, h]
  exact ite_self _

/-- A cycle gets no reply and no valid response, or it is an exchange with a reply of the length
that the geometry says. -/
theorem path_cycleWith_cases {processData : List UInt8} {od : OnRequestData}
    {result : Except MasterError Response}
    (path : (wire (cycleWith processData od) master).Path events (result, target)) :
    (repliesIn events = [] ∧ ∀ response, result = .ok response → ¬response.isValid) ∨
      ∃ frame timeout reply, events = [⟨.send frame, .ok ()⟩,
        ⟨.receive master.geometry.responseLength timeout, .ok reply⟩] ∧
          result = .ok (master.responseTo reply) := by
  by_cases hstate : master.state = .startup
  · rw [wire_cycleWith_of_startup master hstate] at path
    obtain ⟨rfl, hend⟩ := Dialogue.path_done_iff.mp path
    cases hend
    refine .inl ⟨rfl, fun response heq => ?_⟩
    cases heq
    simp [Response.isValid]
  by_cases hwidth : master.geometry.isCyclic → od.width = master.geometry.odWidth
  · rw [wire_cycleWith master hstate _ hwidth, path_roundTrip_iff] at path
    obtain ⟨failure, rfl, hend⟩ | ⟨failure, rfl, hend⟩ | ⟨reply, rest, hrest, rfl⟩ := path
    · cases hend
      exact .inl ⟨rfl, by simp⟩
    · cases hend
      exact .inl ⟨rfl, by simp⟩
    · obtain ⟨rfl, hend⟩ := Dialogue.path_done_iff.mp hrest
      cases hend
      exact .inr ⟨_, _, reply, rfl, rfl⟩
  · obtain ⟨hcyclic, hne⟩ := Classical.not_imp.mp hwidth
    rw [wire_cycleWith_of_width master hstate hcyclic _ hne] at path
    obtain ⟨rfl, hend⟩ := Dialogue.path_done_iff.mp path
    cases hend
    exact .inl ⟨rfl, by simp⟩

end Master

namespace Step

open Master Master.Action

variable {step : Step}

theorem cycle_cases (h : step.operation.isCycle) :
    (step.replies = [] ∧ ¬step.ReturnsValid) ∨
      ∃ frame timeout reply, step.traffic = [⟨.send frame, .ok ()⟩,
        ⟨.receive step.source.geometry.responseLength timeout, .ok reply⟩] ∧
          step.result = .ok (.response (step.source.responseTo reply)) := by
  have hcases {processData : List UInt8} {od : OnRequestData} {inner : Except MasterError Response}
      (path : (wire (cycleWith processData od) step.source).Path step.traffic
        (inner, step.target)) (hresult : step.result = inner.map .response) :
      (step.replies = [] ∧ ¬step.ReturnsValid) ∨
        ∃ frame timeout reply, step.traffic = [⟨.send frame, .ok ()⟩,
          ⟨.receive step.source.geometry.responseLength timeout, .ok reply⟩] ∧
            step.result = .ok (.response (step.source.responseTo reply)) := by
    obtain ⟨hreplies, hinvalid⟩ | ⟨frame, timeout, reply, htraffic, rfl⟩ :=
      path_cycleWith_cases path
    · refine .inl ⟨by rw [replies_eq, hreplies], fun ⟨response, hresponse, hvalid⟩ => ?_⟩
      rw [hresult] at hresponse
      cases inner with
      | error error => cases hresponse
      | ok other =>
        cases hresponse
        exact hinvalid response rfl hvalid
    · exact .inr ⟨frame, timeout, reply, htraffic, hresult⟩
  cases hop : step.operation with
  | cycle processData octet =>
    obtain ⟨inner, path, hresult⟩ := exists_inner (cycle processData octet) (by rw [hop]; rfl)
    rw [wire_cycle_eq] at path
    exact hcases path hresult
  | cycleWith processData od =>
    obtain ⟨inner, path, hresult⟩ := exists_inner (cycleWith processData od) (by rw [hop]; rfl)
    exact hcases path hresult
  | _ =>
    rw [hop] at h
    cases h

end Step

/-- On a line that keeps the promised length, every valid response to a cycle has the layout of the
session and the octets of the one reply that came in. A reply of that length with a right checksum
always makes a valid and intact response with its layout, whatever it holds. -/
theorem Master.cycle_layout {step : Step} (hop : step.operation.isCycle)
    (hpromise : ∀ event ∈ step.traffic, event.KeepsPromise) :
    (∀ response, step.result = .ok (.response response) → response.isValid →
      ∃ octets, step.replies = [some octets] ∧
        step.source.geometry.HasLayout response octets) ∧
    ∀ body, some (Checksum.attach body) ∈ step.replies →
      (Checksum.attach body).length = step.source.geometry.responseLength →
      ∃ response, step.result = .ok (.response response) ∧ response.isValid ∧
        response.verdict = .intact ∧ step.replies = [some (Checksum.attach body)] ∧
          step.source.geometry.HasLayout response (Checksum.attach body) := by
  obtain ⟨hreplies, hinvalid⟩ | ⟨frame, timeout, reply, htraffic, hresult⟩ :=
    Step.cycle_cases hop
  · refine ⟨fun response hresponse hvalid => absurd ⟨response, hresponse, hvalid⟩ hinvalid, ?_⟩
    intro body hmem
    rw [hreplies] at hmem
    cases hmem
  have hreplies : step.replies = [reply] := by
    rw [Step.replies_eq, htraffic]
    rfl
  rw [htraffic] at hpromise
  refine ⟨fun response hresponse hvalid => ?_, fun body hmem hlength => ?_⟩
  · cases hresult.symm.trans hresponse
    obtain ⟨octets, rfl, hdecoded⟩ := responseTo_of_isValid hvalid
    have hlength : octets.length = step.source.geometry.responseLength :=
      hpromise _ (List.mem_cons_of_mem _ (List.mem_cons_self ..))
    obtain ⟨received, hdecode, hlayout⟩ := step.source.geometry.exists_hasLayout hlength
    rw [hdecoded, Response.decode_eq_received hdecode]
    exact ⟨octets, hreplies, hlayout⟩
  · obtain rfl : reply = some (Checksum.attach body) := by
      rw [hreplies, List.mem_singleton] at hmem
      exact hmem.symm
    obtain ⟨received, hdecode, hlayout⟩ := step.source.geometry.exists_hasLayout hlength
    have hdecoded : Response.decode step.source.geometry.odWidth (Checksum.attach body) =
        .received received := Response.decode_eq_received hdecode
    have hintact : (Response.received received).verdict = .intact :=
      Response.verdict_of_octets hlayout.octets_eq
    have hresponse : step.source.responseTo (some (Checksum.attach body)) = .received received := by
      rw [responseTo_of_intact (by rw [hdecoded, hintact]), hdecoded]
    rw [hresponse] at hresult
    exact ⟨_, hresult, rfl, hintact, hreplies, hlayout⟩

/-- A reply without process data, in a session with two octets of on-request data. -/
theorem Master.cycle_layout_of_no_input :
    let master := (Master.new ⟨.type21, 0, 1, by decide, by decide⟩).enter .operate
    let octets := Checksum.attach [0x81, 0xAA, 0xBB]
    let step := ((Operation.cycle [7] 1).step master ({ replies := [.octets octets] } : Script)).1
    step.replies = [some octets] ∧ (∀ event ∈ step.traffic, event.KeepsPromise) ∧
      ∃ response, step.result = .ok (.response response) ∧ response.isValid ∧
        response.verdict = .intact ∧ step.source.geometry.HasLayout response octets := by
  intro master octets step
  have hreplies : step.replies = [some octets] := by decide +kernel
  have hpromise : ∀ event ∈ step.traffic, event.KeepsPromise := by decide +kernel
  have hmem : some octets ∈ step.replies := by rw [hreplies]; exact List.mem_singleton_self _
  obtain ⟨response, hresult, hvalid, hintact, -, hlayout⟩ :=
    (cycle_layout rfl hpromise).2 [0x81, 0xAA, 0xBB] hmem rfl
  exact ⟨hreplies, hpromise, response, hresult, hvalid, hintact, hlayout⟩

end Sdci
