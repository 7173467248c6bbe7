import Sdci.Proofs.Dialogue.Wire

/-!
# Dialogues over a line that loses replies

`Lossy` is a transport that loses chosen replies of another one. A dialogue that takes each bad
reply for a missing one (`Dialogue.Tolerates`) runs over it as if nothing were lost, as long as only
bad replies are (`Dialogue.run_lossy`).
-/

namespace Sdci

/-- A transport that loses chosen replies of another one. -/
structure Lossy (σ : Type) where
  line : σ
  /-- Which of the replies still to come are lost, the next one first. -/
  lost : List Bool

namespace Lossy

variable {σ : Type} [Transport σ]

def send (frame : List UInt8) (lossy : Lossy σ) : Except Failure Unit × Lossy σ :=
  let (answer, line) := Transport.send frame lossy.line
  (answer, { lossy with line })

/-- The reply, if the next one is not lost. -/
def hand (lost : List Bool) (reply : Option (List UInt8)) : Option (List UInt8) :=
  if lost.headD false then none else reply

/-- Hand a reply on, or lose it. A wait that fails has none to lose. -/
def receive (count timeout : Nat) (lossy : Lossy σ) :
    Except Failure (Option (List UInt8)) × Lossy σ :=
  match Transport.receive count timeout lossy.line with
  | (.error failure, line) => (.error failure, { lossy with line })
  | (.ok reply, line) =>
    (.ok (hand lossy.lost reply), ⟨line, lossy.lost.tail⟩)

def discard (lossy : Lossy σ) : Except Failure Unit × Lossy σ :=
  let (answer, line) := Transport.discard lossy.line
  (answer, { lossy with line })

instance : Transport (Lossy σ) := ⟨send, receive, discard⟩

end Lossy

namespace Dialogue

variable {α β σ : Type} {bad : List UInt8 → Prop} {p : α → Prop} {q : β → Prop}

/-- The dialogue takes each bad reply for a missing one, and its results have a property. -/
def Tolerates (bad : List UInt8 → Prop) (p : α → Prop) : Dialogue α → Prop
  | done value => p value
  | ask (.receive _ _) next =>
    (∀ octets, bad octets → next (.ok (some octets)) = next (.ok none)) ∧
      ∀ answer, (next answer).Tolerates bad p
  | ask (.send _) next => ∀ answer, (next answer).Tolerates bad p
  | ask .discard next => ∀ answer, (next answer).Tolerates bad p
  | ask (.pause _) next => ∀ answer, (next answer).Tolerates bad p
  | ask (.note _) next => ∀ answer, (next answer).Tolerates bad p

theorem Tolerates.mono {p' : α → Prop} (hp : ∀ value, p value → p' value) {dialogue : Dialogue α}
    (h : dialogue.Tolerates bad p) : dialogue.Tolerates bad p' := by
  induction dialogue with
  | done value => exact hp value h
  | ask call next ih =>
    cases call with
    | receive count timeout => exact ⟨h.1, fun answer => ih answer (h.2 answer)⟩
    | send frame | discard | pause duration | note notice => exact fun answer => ih answer (h answer)

/-- Dialogues one behind the other take bad replies for missing ones if each does. -/
theorem Tolerates.bind {dialogue : Dialogue α} {f : α → Dialogue β}
    (h : dialogue.Tolerates bad p) (hf : ∀ value, p value → (f value).Tolerates bad q) :
    (dialogue.bind f).Tolerates bad q := by
  induction dialogue with
  | done value => exact hf value h
  | ask call next ih =>
    cases call with
    | receive count timeout =>
      constructor
      · intro octets hbad
        exact congrArg (·.bind f) (h.1 octets hbad)
      · intro answer
        exact ih answer (h.2 answer)
    | send frame | discard | pause duration | note notice =>
      intro answer
      exact ih answer (h answer)

section Run

variable [Transport σ]

/-- A run over a line that loses replies differs from one over the line itself in nothing but these
replies. -/
def Unharmed (dialogue : Dialogue α) (line : σ) (lost : List Bool) : Prop :=
  (dialogue.run (⟨line, lost⟩ : Lossy σ)).1 = (dialogue.run line).1 ∧
    (dialogue.run (⟨line, lost⟩ : Lossy σ)).2.1 =
      ⟨(dialogue.run line).2.1, lost.drop (repliesIn (dialogue.run line).2.2).length⟩ ∧
    (dialogue.run (⟨line, lost⟩ : Lossy σ)).2.2.map Event.call =
      (dialogue.run line).2.2.map Event.call

variable {line : σ} {lost : List Bool} {call : Call} {next : call.Answer → Dialogue α}

/-- A call that brings no reply is answered alike. -/
theorem unharmed_ask {answer : call.Answer} {line' : σ}
    (hline : Transport.answer line call = (answer, line'))
    (hlossy : Transport.answer (⟨line, lost⟩ : Lossy σ) call = (answer, ⟨line', lost⟩))
    (hreply : Event.reply? ⟨call, answer⟩ = none) (h : (next answer).Unharmed line' lost) :
    (ask call next).Unharmed line lost := by
  obtain ⟨hvalue, hrest, hcalls⟩ := h
  simp [Unharmed, run, hline, hlossy, repliesIn, hreply, hvalue, hcalls]
  simpa [repliesIn] using hrest

/-- A reply is handed on or lost, and the dialogue does not see which. -/
theorem unharmed_receive {count timeout : Nat}
    {next : (Call.receive count timeout).Answer → Dialogue α} {reply : Option (List UInt8)}
    {line' : σ} (hline : Transport.receive count timeout line = (.ok reply, line'))
    (hnext : next (.ok (Lossy.hand lost reply)) = next (.ok reply))
    (h : (next (.ok reply)).Unharmed line' lost.tail) :
    (ask (.receive count timeout) next).Unharmed line lost := by
  have hlossy : Transport.answer (⟨line, lost⟩ : Lossy σ) (.receive count timeout) =
      (.ok (Lossy.hand lost reply), ⟨line', lost.tail⟩) := by
    show Lossy.receive count timeout _ = _
    simp [Lossy.receive, hline]
  have hanswer : Transport.answer line (.receive count timeout) = (.ok reply, line') := hline
  obtain ⟨hvalue, hrest, hcalls⟩ := h
  simp [Unharmed, run, hanswer, hlossy, hnext, repliesIn, Event.reply?, hvalue, hcalls]
  simpa [repliesIn] using hrest

/-- The loss of bad replies changes no result and no call. -/
theorem run_lossy {dialogue : Dialogue α} (h : dialogue.Tolerates bad p) (hlost : ∀ octets,
    (some octets, true) ∈ (repliesIn (dialogue.run line).2.2).zip lost → bad octets) :
    dialogue.Unharmed line lost := by
  induction dialogue generalizing line lost with
  | done value => exact ⟨rfl, rfl, rfl⟩
  | ask call next ih =>
    cases call with
    | receive count timeout =>
      rcases hline : Transport.receive count timeout line with ⟨failure | reply, line'⟩
      · have hanswer : Transport.answer line (.receive count timeout) =
          (.error failure, line') := hline
        refine unharmed_ask hanswer ?_ rfl (ih _ (h.2 _) ?_)
        · show Lossy.receive count timeout _ = _
          simp [Lossy.receive, hline]
        · simpa only [run, hanswer, repliesIn, List.filterMap_cons, Event.reply?] using hlost
      · have hanswer : Transport.answer line (.receive count timeout) = (.ok reply, line') := hline
        simp only [run, hanswer, repliesIn, List.filterMap_cons, Event.reply?] at hlost
        apply unharmed_receive hline
        · rcases lost with _ | ⟨_ | _, lost⟩
          · rfl
          · rfl
          · rcases reply with _ | octets
            · rfl
            · exact (h.1 octets (hlost octets (by simp))).symm
        · apply ih _ (h.2 _)
          intro octets hmem
          apply hlost octets
          rcases lost with _ | ⟨isLost, lost⟩
          · simp at hmem
          · exact List.mem_cons_of_mem _ hmem
    | send frame => exact unharmed_ask rfl rfl rfl (ih _ (h _) hlost)
    | discard => exact unharmed_ask rfl rfl rfl (ih _ (h _) hlost)
    | pause duration => exact unharmed_ask rfl rfl rfl (ih _ (h _) hlost)
    | note notice => exact unharmed_ask rfl rfl rfl (ih _ (h _) hlost)

end Run

end Dialogue

end Sdci
