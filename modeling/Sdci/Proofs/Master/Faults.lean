import Sdci.Proofs.Master.LostReply
import Sdci.Script

/-!
# Damaged cycles

A damaged cycle sends the frame of a cycle with another last octet, one that is the checksum of
nothing (`Master.exists_damaged`). Fault injection is a number of damaged cycles without data, and
counts the replies to them that make a valid response. Neither changes anything about the master
(`Master.faults_injected`).
-/

namespace Sdci

/-! ### Damaged frames -/

namespace Frame

/-- Inverted bits are inverted back. -/
theorem damage_damage (frame : List UInt8) : damage (damage frame) = frame := by
  obtain rfl | ⟨body, checksum, rfl⟩ := frame.eq_nil_or_concat
  · rfl
  · rw [List.concat_eq_append, damage_append, damage_append, UInt8.xor_assoc, UInt8.xor_self,
      UInt8.xor_zero]

/-- The upper two bits of an inverted checksum are set. -/
theorem le_xor_checksum (octets : List UInt8) : 0xC0 ≤ Checksum.of octets ^^^ 0xFF := by
  have hbits : ∀ value < 64, 0xC0 ≤ value ^^^ 0xFF := by decide
  have hle := UInt8.le_iff_toNat_le.mp (Checksum.start.absorbAll octets).value_le
  rw [UInt8.le_iff_toNat_le, UInt8.toNat_xor]
  exact hbits _ (Nat.lt_succ_of_le hle)

/-- No checksum has one of the upper two bits set. -/
theorem ne_checksum {octet : UInt8} (h : 0xC0 ≤ octet) (octets : List UInt8) :
    octet ≠ Checksum.of octets := by
  rintro rfl
  exact absurd (UInt8.le_trans h (Checksum.start.absorbAll octets).value_le) (by decide)

end Frame

/-- The frame of a damaged cycle without data. -/
def Geometry.faultFrame (geometry : Geometry) : List UInt8 :=
  if geometry.isCyclic then
    let zeros := List.replicate (2 + geometry.outputLength + geometry.odWidth) 0
    zeros ++ [Checksum.of zeros ^^^ 0xFF]
  else
    [0x00, Checksum.of [0x00, 0x00] ^^^ 0xFF]

namespace Master

open Master.Action

theorem cycleFrame_of_geometry {master other : Master} (h : master.geometry = other.geometry) :
    master.cycleFrame = other.cycleFrame := by
  funext processData od
  rw [cycleFrame, cycleFrame, h]

variable (master : Master)

/-- The frame of a cycle ends in a checksum, and the damage is done to that alone. -/
theorem exists_damaged (processData : List UInt8) (od : OnRequestData) :
    ∃ body octets, master.cycleFrame processData od = body ++ [Checksum.of octets] ∧
      Frame.damage (master.cycleFrame processData od) = body ++ [Checksum.of octets ^^^ 0xFF] := by
  rw [cycleFrame]
  split
  · exact ⟨_, _, rfl, Frame.damage_append _ _⟩
  · exact ⟨[_], _, rfl, rfl⟩

theorem toList_ofFirst_zero {width : Nat} (h : width = 1 ∨ width = 2) :
    (OnRequestData.ofFirst width 0).toList = List.replicate width 0 := by
  obtain rfl | rfl := h <;> rfl

theorem damage_cycleFrame_zero :
    Frame.damage (master.cycleFrame [] (.ofFirst master.geometry.odWidth 0)) =
      master.geometry.faultFrame := by
  rw [cycleFrame, Geometry.faultFrame]
  split
  · have hzeros : Command.idle.octet :: 0 ::
        fitLength master.geometry.outputLength [] ++
          (OnRequestData.ofFirst master.geometry.odWidth 0).toList =
        List.replicate (2 + master.geometry.outputLength + master.geometry.odWidth) 0 := by
      rw [fitLength_nil, toList_ofFirst_zero master.geometry.odWidth_eq_one_or_two,
        ← List.replicate_append_replicate, ← List.replicate_append_replicate]
      rfl
    rw [Geometry.cyclicFrame, hzeros, Checksum.attach, Frame.damage_append]
  · rfl

/-! ### Counting -/

/-- Octets have come in that make a valid response, whatever their checksum. -/
def decodesValid (reply : Option (List UInt8)) : Bool :=
  reply.any fun octets => (Response.decode master.geometry.odWidth octets).isValid

/-- The events of damaged cycles without data, one for each reply. -/
def faults (replies : List (Option (List UInt8))) : List Event :=
  replies.flatMap fun reply =>
    [⟨.send master.geometry.faultFrame, .ok ()⟩,
      ⟨.receive master.geometry.responseLength master.settings.faultTimeout, .ok reply⟩]

@[simp]
theorem repliesIn_faults (replies : List (Option (List UInt8))) :
    repliesIn (master.faults replies) = replies :=
  repliesIn_exchanges ..

theorem isValid_decoded (reply : Option (List UInt8)) :
    (master.decoded reply).isValid = master.decodesValid reply := by
  cases reply <;> rfl

/-- The notices around the damaged cycles change nothing on the line. -/
theorem wire_injectFaults (count : Nat) :
    wire (injectFaults count) master = wire (countAnswered 0 count) master := by
  rw [injectFaults, wire_bind, wire_note, Dialogue.done_bind, andThen_ok, wire_bind]
  refine (congrArg (Dialogue.bind _) (funext fun outcome => ?_)).trans (Dialogue.bind_done _)
  obtain ⟨error | answered, target⟩ := outcome
  · rfl
  · by_cases hpos : answered > 0
    · simp [hpos]
    · simp [hpos]

variable {master}

/-- Without a failed call, every damaged cycle is made, and every valid reply is counted. -/
theorem path_countAnswered {answered count : Nat} {events : List Event}
    {result : Except MasterError Nat} {after : Master}
    (path : (wire (countAnswered answered count) master).Path events (result, after))
    (hcalls : ∀ event ∈ events, event.failed = false) :
    ∃ replies, events = master.faults replies ∧ replies.length = count ∧
      result = .ok (answered + replies.countP master.decodesValid) := by
  induction count generalizing answered events with
  | zero =>
    obtain ⟨rfl, hend⟩ := Dialogue.path_done_iff.mp path
    cases hend
    exact ⟨[], rfl, rfl, rfl⟩
  | succ count ih =>
    rw [wire_countAnswered_succ, damage_cycleFrame_zero] at path
    obtain ⟨reply, rest, hrest, hquiet, rfl⟩ := path_roundTrip_of_not_failed path hcalls
    obtain ⟨replies, rfl, hlength, rfl⟩ := ih hrest hquiet
    refine ⟨reply :: replies, rfl, congrArg (· + 1) hlength, congrArg Except.ok ?_⟩
    rw [isValid_decoded, List.countP_cons]
    split <;> omega

end Master

namespace Step

open Master Master.Action

variable {step : Step} {processData : List UInt8} {octet : UInt8}

/-- A cycle sends its frame, whatever comes back. -/
theorem frames_cycle (hop : step.operation = .cycle processData octet)
    (hstate : step.source.state ≠ .startup) :
    framesIn step.traffic =
      [step.source.cycleFrame processData (.ofFirst step.source.geometry.odWidth octet)] := by
  obtain ⟨inner, path, -⟩ := step.exists_inner (cycle processData octet) (by rw [hop]; rfl)
  rw [wire_cycle _ hstate] at path
  exact framesIn_of_path_answer path

/-- A damaged cycle sends the frame of a cycle, damaged, in every state. -/
theorem frames_damagedCycle (hop : step.operation = .damagedCycle processData octet) :
    framesIn step.traffic = [Frame.damage
      (step.source.cycleFrame processData (.ofFirst step.source.geometry.odWidth octet))] := by
  obtain ⟨inner, path, -⟩ := step.exists_inner (damagedCycle processData octet) (by rw [hop]; rfl)
  rw [wire_damagedCycle] at path
  exact framesIn_of_path_answer path

/-- Damaged cycles change nothing about the master, whatever the line answers. -/
theorem target_of_damages (hop : step.operation.damages) : step.target = step.source := by
  cases h : step.operation with
  | damagedCycle processData octet =>
    exact target_of_always (p := (· = step.source)) (by rw [h]; rfl)
      (always_damagedCycle processData octet)
  | injectFaults count =>
    exact target_of_always (p := (· = step.source)) (by rw [h]; rfl) (always_injectFaults count)
  | _ =>
    rw [h] at hop
    cases hop

/-- On a line whose calls do not fail, fault injection makes its damaged cycles and counts the valid
replies. -/
theorem injectFaults_cases {count : Nat} (hop : step.operation = .injectFaults count)
    (hcalls : ∀ event ∈ step.events, event.failed = false) :
    step.traffic = step.source.faults step.replies ∧ step.replies.length = count ∧
      step.result = .ok (.count (step.replies.countP step.source.decodesValid)) := by
  obtain ⟨inner, path, hresult⟩ := step.exists_inner (injectFaults count) (by rw [hop]; rfl)
  rw [wire_injectFaults] at path
  obtain ⟨replies, htraffic, hlength, rfl⟩ :=
    path_countAnswered path (step.not_failed_of_mem_traffic hcalls)
  have hreplies : step.replies = replies := by
    rw [replies_eq, htraffic]
    exact repliesIn_faults step.source replies
  rw [hreplies, htraffic, hresult, Nat.zero_add]
  exact ⟨rfl, hlength, rfl⟩

end Step

/-- A damaged cycle sends, in every state, what a cycle sends in a connection, but for the last
octet: that has both upper bits set, as no checksum has them. Damage is undone by damage. On a line
whose calls do not fail, fault injection makes its number of damaged cycles without data, and gives
back how many of the replies make a valid response. Nothing that is answered changes anything about
the master. -/
theorem Master.faults_injected (step : Step) :
    (∀ frame, Frame.damage (Frame.damage frame) = frame) ∧
      (∀ processData octet, step.operation = .damagedCycle processData octet →
        step.target = step.source ∧
          ∃ body checksum wrong, framesIn step.traffic = [body ++ [wrong]] ∧
            (∀ cycle : Step, cycle.operation = .cycle processData octet →
              cycle.source.state ≠ .startup → cycle.source.geometry = step.source.geometry →
              framesIn cycle.traffic = [body ++ [checksum]]) ∧
            wrong ≠ checksum ∧ 0xC0 ≤ wrong ∧ ∀ octets, wrong ≠ Checksum.of octets) ∧
      ∀ count, step.operation = .injectFaults count →
        step.target = step.source ∧
          ((∀ event ∈ step.events, event.failed = false) →
            step.traffic = step.source.faults step.replies ∧ step.replies.length = count ∧
              step.result = .ok (.count (step.replies.countP step.source.decodesValid))) := by
  refine ⟨Frame.damage_damage, fun processData octet hop => ?_, fun count hop => ?_⟩
  · obtain ⟨body, octets, hframe, hdamaged⟩ := step.source.exists_damaged processData
      (.ofFirst step.source.geometry.odWidth octet)
    have hlarge := Frame.le_xor_checksum octets
    refine ⟨Step.target_of_damages (by rw [hop]; rfl), body, _, _, ?_, ?_,
      Frame.ne_checksum hlarge octets, hlarge, Frame.ne_checksum hlarge⟩
    · rw [Step.frames_damagedCycle hop, hdamaged]
    · intro cycle hcycle hstate hgeometry
      rw [Step.frames_cycle hcycle hstate, cycleFrame_of_geometry hgeometry, hgeometry, hframe]
  · exact ⟨Step.target_of_damages (by rw [hop]; rfl), Step.injectFaults_cases hop⟩

/-- Damaged cycles before the transition is complete, of which two get a valid response. -/
theorem Master.faults_injected_of_answers :
    let master := (Master.new ⟨.type22, 1, 1, by decide, by decide⟩).enter .established
    let answer := Checksum.attach [0x00, 0x11, 0x22, 0x33]
    let line : Script := { replies := [.octets answer, .silence, .octets answer] }
    let damaged := ((Operation.damagedCycle [0x7F] 0x42).step master line).1
    let cycle := ((Operation.cycle [0x7F] 0x42).step master line).1
    let faults := ((Operation.injectFaults 3).step master line).1
    (∃ body checksum wrong, framesIn damaged.traffic = [body ++ [wrong]] ∧
        framesIn cycle.traffic = [body ++ [checksum]] ∧ wrong ≠ checksum ∧ 0xC0 ≤ wrong) ∧
      damaged.target = master ∧ cycle.target = master.enter .operate ∧
      faults.traffic = master.faults [some answer, none, some answer] ∧
      faults.result = .ok (.count 2) ∧ faults.target = master := by
  intro master answer line damaged cycle faults
  have hcalls : ∀ event ∈ faults.events, event.failed = false := by decide
  have hreplies : faults.replies = [some answer, none, some answer] := by decide +kernel
  obtain ⟨-, hdamaged, -⟩ := faults_injected damaged
  obtain ⟨htarget, body, checksum, wrong, hwrong, hframe, hne, hlarge, -⟩ :=
    hdamaged [0x7F] 0x42 rfl
  obtain ⟨-, -, hfaults⟩ := faults_injected faults
  obtain ⟨hkept, hcounted⟩ := hfaults 3 rfl
  obtain ⟨htraffic, -, hresult⟩ := hcounted hcalls
  rw [hreplies] at htraffic hresult
  exact ⟨⟨body, checksum, wrong, hwrong, hframe cycle rfl (by decide) rfl, hne, hlarge⟩, htarget,
    by decide +kernel, htraffic, hresult, hkept⟩

end Sdci
