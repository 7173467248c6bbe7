import Sdci.Isdu.Acknowledgement
import Sdci.Isdu.Collector

/-!
# Feeding a receiver

A receiver that is fed octets needs fewer and fewer of them, so a statement about all receivers may
be proved by induction on what is still to be fed (`Receiver.feed_induction`). An acknowledgement
takes at most one octet more than its poll limit, and a collector at most as many and the two octets
of each of its segments more (`Acknowledgement.taken_le`, `Collector.taken_le`).
-/

namespace Sdci.Isdu

namespace Receiver

variable {ρ α : Type} [Receiver ρ α]

/-- Induction on what a receiver still needs. -/
theorem feed_induction {motive : ρ → UInt8 → Prop}
    (done : ∀ receiver octet (result : Except TransferError α),
      feed receiver octet = .done result → motive receiver octet)
    (needData : ∀ receiver octet next, feed receiver octet = .needData next →
      (∀ octet, motive next octet) → motive receiver octet)
    (receiver : ρ) (octet : UInt8) : motive receiver octet := by
  cases hfeed : feed receiver octet with
  | done result => exact done receiver octet result hfeed
  | needData next =>
    have hlt : budget next < budget receiver := budget_lt hfeed
    exact needData receiver octet next hfeed fun octet => feed_induction done needData next octet
termination_by budget receiver

theorem feedAll_cons_of_done {receiver : ρ} {octet : UInt8} {result : Except TransferError α}
    (h : feed receiver octet = .done result) (rest : List UInt8) :
    feedAll receiver (octet :: rest) = (1, some result) := by
  simp [feedAll, h]

theorem feedAll_cons_of_needData {receiver next : ρ} {octet : UInt8}
    (h : feed receiver octet = .needData next) (rest : List UInt8) :
    feedAll receiver (octet :: rest) =
      ((feedAll next rest).1 + 1, (feedAll next rest).2) := by
  simp [feedAll, h]

theorem taken_cons_pos (receiver : ρ) (octet : UInt8) (rest : List UInt8) :
    0 < (feedAll receiver (octet :: rest)).1 := by
  cases hfeed : feed receiver octet with
  | done result => rw [feedAll_cons_of_done hfeed]; exact Nat.one_pos
  | needData next => rw [feedAll_cons_of_needData hfeed]; exact Nat.succ_pos _

/-- A receiver that is not done takes one more octet. -/
theorem taken_of_none {receiver : ρ} {octets : List UInt8} (octet : UInt8)
    (h : (feedAll receiver octets).2 = none) :
    (feedAll receiver (octets ++ [octet])).1 = octets.length + 1 := by
  induction octets generalizing receiver with
  | nil =>
    cases hfeed : feed receiver octet with
    | done result => rw [List.nil_append, feedAll_cons_of_done hfeed]; rfl
    | needData next => rw [List.nil_append, feedAll_cons_of_needData hfeed]; rfl
  | cons first rest ih =>
    cases hfeed : feed receiver first with
    | done result =>
      rw [feedAll_cons_of_done hfeed] at h
      cases h
    | needData next =>
      rw [feedAll_cons_of_needData hfeed] at h
      rw [List.cons_append, feedAll_cons_of_needData hfeed, ih h, List.length_cons]

/-- A receiver that is done does not look at what comes behind. -/
theorem feedAll_append {receiver : ρ} {octets : List UInt8} {taken : Nat}
    {result : Except TransferError α} (h : feedAll receiver octets = (taken, some result))
    (rest : List UInt8) : feedAll receiver (octets ++ rest) = (taken, some result) := by
  induction octets generalizing receiver taken with
  | nil => cases h
  | cons octet octets ih =>
    rw [List.cons_append]
    cases hfeed : feed receiver octet with
    | done other =>
      rw [feedAll_cons_of_done hfeed] at h ⊢
      exact h
    | needData next =>
      rw [feedAll_cons_of_needData hfeed] at h ⊢
      obtain ⟨htaken, hresult⟩ := Prod.mk.inj h
      rw [ih (Prod.ext rfl hresult)]
      exact Prod.ext htaken rfl

/-- A receiver that waits skips octets, one look for each. -/
theorem feedAll_of_skips (waiting : Nat → ρ) {isBusy : UInt8 → Prop}
    (hskips : ∀ looks octet, isBusy octet →
      feed (waiting (looks + 2)) octet = .needData (waiting (looks + 1)))
    {looks : Nat} {skipped : List UInt8} (h : skipped.length ≤ looks)
    (hskipped : ∀ octet ∈ skipped, isBusy octet) (octets : List UInt8) :
    feedAll (waiting (looks + 1)) (skipped ++ octets) =
      let behind := feedAll (waiting (looks - skipped.length + 1)) octets
      (behind.1 + skipped.length, behind.2) := by
  induction skipped generalizing looks with
  | nil => rfl
  | cons octet rest ih =>
    obtain ⟨hoctet, hrest⟩ := List.forall_mem_cons.mp hskipped
    obtain ⟨looks, rfl⟩ := Nat.exists_eq_add_of_le' (Nat.one_le_of_lt h)
    rw [List.cons_append, feedAll_cons_of_needData (hskips looks octet hoctet),
      ih (Nat.le_of_succ_le_succ h) hrest, List.length_cons, Nat.add_sub_add_right, Nat.add_assoc]

/-- A bound that every octet makes smaller bounds the octets that a receiver takes. -/
theorem taken_le {bound : ρ → Nat} (hpos : ∀ receiver, 0 < bound receiver)
    (hstep : ∀ {receiver next : ρ} {octet}, feed receiver octet = .needData next →
      bound next < bound receiver) (receiver : ρ) (octets : List UInt8) :
    (feedAll receiver octets).1 ≤ bound receiver := by
  induction octets generalizing receiver with
  | nil => exact Nat.zero_le _
  | cons octet rest ih =>
    cases hfeed : feed receiver octet with
    | done result =>
      rw [feedAll_cons_of_done hfeed]
      exact hpos receiver
    | needData next =>
      rw [feedAll_cons_of_needData hfeed]
      have hrest : (feedAll next rest).1 ≤ bound next := ih next
      have hlt : bound next < bound receiver := hstep hfeed
      omega

end Receiver

namespace Acknowledgement

/-! ### The looks of a waiter -/

section

variable (target : Target) (pollLimit : Nat)

theorem feed_of_ne_zero {octet : UInt8} (h : octet ≠ 0) (looks : Nat) :
    Receiver.feed (mk target pollLimit looks) octet = .done (.ok octet) := by
  simp [Receiver.feed, feed, h]

theorem feed_zero (looks : Nat) :
    Receiver.feed (mk target pollLimit (looks + 1)) 0 =
      if looks = 0 then .done (.error (.noAcknowledgement target pollLimit))
      else .needData (mk target pollLimit looks) := by
  simp [Receiver.feed, feed]

/-- A waiter with looks to spare skips a zero. -/
theorem feed_skipped (looks : Nat) (octet : UInt8) (h : octet = 0) :
    Receiver.feed (mk target pollLimit (looks + 2)) octet =
      .needData (mk target pollLimit (looks + 1)) := by
  rw [h, feed_zero, if_neg looks.succ_ne_zero]

end

/-- A waiter for an acknowledgement takes one octet more than its poll limit at most. -/
theorem taken_le (request : Request) (pollLimit : Nat) (octets : List UInt8) :
    (Receiver.feedAll (ofRequest request pollLimit) octets).1 ≤ pollLimit + 1 := by
  have hstep {waiter next : Acknowledgement} {octet : UInt8}
      (h : waiter.feed octet = .needData next) : max 1 next.looksLeft < max 1 waiter.looksLeft := by
    rw [feed] at h
    split at h
    · cases h
    split at h
    · cases h
    · cases h
      simp only
      omega
  have htaken : (Receiver.feedAll (ofRequest request pollLimit) octets).1 ≤
      max 1 (ofRequest request pollLimit).looksLeft :=
    Receiver.taken_le (fun _ => Nat.lt_of_lt_of_le Nat.one_pos (Nat.le_max_left ..)) hstep _ octets
  simpa [ofRequest] using htaken

end Acknowledgement

namespace Collector

/-! ### The phases of a collector -/

section

variable (target : Target) (pollLimit : Nat)

/-- Octets without the start mark use up the looks. -/
theorem feed_unmarked {octet : UInt8} (h : (ControlByte.mk octet).isStart = false) (looks : Nat) :
    Receiver.feed (mk target pollLimit (.waiting (looks + 1))) octet =
      if looks = 0 then .done (.error (.noStart target pollLimit))
      else .needData (mk target pollLimit (.waiting looks)) := by
  have hne : octet ≠ emptyAnswer := by
    rintro rfl
    cases h
  simp [Receiver.feed, feed, hne, h, moveTo]

/-- A collector with looks to spare skips an octet without the start mark. -/
theorem feed_skipped (looks : Nat) (octet : UInt8) (h : (ControlByte.mk octet).isStart = false) :
    Receiver.feed (mk target pollLimit (.waiting (looks + 2))) octet =
      .needData (mk target pollLimit (.waiting (looks + 1))) := by
  rw [feed_unmarked target pollLimit h, if_neg looks.succ_ne_zero]

theorem feed_start {octet : UInt8} (hne : octet ≠ emptyAnswer)
    (h : (ControlByte.mk octet).isStart = true) (looks : Nat) :
    Receiver.feed (mk target pollLimit (.waiting looks)) octet =
      .needData (mk target pollLimit (.data [] (ControlByte.mk octet).isLast)) := by
  simp [Receiver.feed, feed, hne, h, moveTo]

theorem feed_emptyAnswer (looks : Nat) :
    Receiver.feed (mk target pollLimit (.waiting looks)) emptyAnswer = .done (.ok []) := rfl

variable {collected : List UInt8}

theorem feed_data (h : collected.length < maxAnswerLength) (isLast : Bool) (octet : UInt8) :
    Receiver.feed (mk target pollLimit (.data collected isLast)) octet =
      if isLast then .done (.ok (collected ++ [octet]))
      else .needData (mk target pollLimit (.control (collected ++ [octet]))) := by
  simp [Receiver.feed, feed, Nat.not_le.mpr h, moveTo]

/-- There is no room for one more data octet, whatever the mark in front of it. -/
theorem feed_full (h : collected.length = maxAnswerLength) (isLast : Bool) (octet : UInt8) :
    Receiver.feed (mk target pollLimit (.data collected isLast)) octet =
      .done (.error (.overrun target maxAnswerLength)) := by
  simp [Receiver.feed, feed, h]

theorem feed_control (collected : List UInt8) (octet : UInt8) :
    Receiver.feed (mk target pollLimit (.control collected)) octet =
      .needData (mk target pollLimit (.data collected (ControlByte.mk octet).isLast)) := rfl

end

/-! ### How much a collector takes -/

/-- The most octets that a phase and those after it take: the looks, a start mark, and two octets
for each octet of the longest answer, with the octet behind it that is one too many. -/
def Phase.limit : Phase → Nat
  | .waiting looksLeft => max 1 looksLeft + 2 * maxAnswerLength + 1
  | .data collected _ => 2 * (maxAnswerLength - collected.length) + 1
  | .control collected => 2 * (maxAnswerLength - collected.length) + 2

theorem Phase.limit_pos (phase : Phase) : 0 < phase.limit := by
  cases phase <;> simp [Phase.limit]

/-- Each octet makes the limit of the phase smaller. -/
theorem limit_lt_of_feed {collector next : Collector} {octet : UInt8}
    (h : collector.feed octet = .needData next) : next.phase.limit < collector.phase.limit := by
  rw [feed] at h
  split at h
  next looksLeft hphase =>
    rw [hphase]
    split at h
    · cases h
    split at h
    · cases h
      simp only [Phase.limit, List.length_nil]
      omega
    split at h
    · cases h
    · cases h
      simp only [Phase.limit]
      omega
  next collected isLast hphase =>
    rw [hphase]
    split at h
    · cases h
    split at h
    · cases h
    · cases h
      simp only [Phase.limit, List.length_append, List.length_singleton]
      omega
  next collected hphase =>
    cases h
    rw [hphase]
    simp only [Phase.limit]
    omega

/-- A collector takes the octets it may skip and those of the longest answer at most. -/
theorem taken_le (request : Request) (pollLimit : Nat) (octets : List UInt8) :
    (Receiver.feedAll (ofRequest request pollLimit) octets).1 ≤
      pollLimit + 2 * maxAnswerLength + 2 := by
  have hpos (collector : Collector) : 0 < collector.phase.limit := collector.phase.limit_pos
  have htaken := Receiver.taken_le hpos limit_lt_of_feed (ofRequest request pollLimit) octets
  have hlimit : (ofRequest request pollLimit).phase.limit =
      max 1 (pollLimit + 1) + 2 * maxAnswerLength + 1 := rfl
  omega

end Collector

end Sdci.Isdu
