/-!
# Results

Small laws of results: when they are values, and what a computation makes that goes on with the
value of another one (`bind_eq_ok`).
-/

namespace Sdci

variable {ε α β : Type}

theorem ok_bind (value : α) (next : α → Except ε β) : Except.ok value >>= next = next value := rfl

theorem error_bind (error : ε) (next : α → Except ε β) :
    Except.error error >>= next = .error error := rfl

theorem isOk_ok (value : α) : (Except.ok value : Except ε α).isOk = true := rfl

theorem isOk_error (error : ε) : (Except.error error : Except ε α).isOk = false := rfl

theorem isOk_pure (value : α) : (pure value : Except ε α).isOk = true := rfl

theorem isOk_map (f : α → β) (result : Except ε α) : (result.map f).isOk = result.isOk := by
  cases result <;> rfl

theorem isOk_bind (result : Except ε α) (next : α → Except ε β) :
    (result >>= next).isOk = result.toOption.any fun value => (next value).isOk := by
  cases result <;> rfl

theorem any_ok (p : α → Bool) (value : α) :
    (Except.ok value : Except ε α).toOption.any p = p value := rfl

theorem any_error (p : α → Bool) (error : ε) :
    (Except.error error : Except ε α).toOption.any p = false := rfl

theorem any_map (f : α → β) (p : β → Bool) (result : Except ε α) :
    (result.map f).toOption.any p = result.toOption.any fun value => p (f value) := by
  cases result <;> rfl

theorem any_const (result : Except ε α) (holds : Bool) :
    result.toOption.any (fun _ => holds) = (result.isOk && holds) := by
  cases result <;> cases holds <;> rfl

theorem exists_ok_of_isOk {result : Except ε α} (h : result.isOk = true) :
    ∃ value, result = .ok value := by
  cases result with
  | ok value => exact ⟨value, rfl⟩
  | error e => cases h

theorem exists_error_of_isOk {result : Except ε α} (h : result.isOk = false) :
    ∃ error, result = .error error := by
  cases result with
  | ok value => cases h
  | error e => exact ⟨e, rfl⟩

theorem bind_eq_ok {result : Except ε α} {next : α → Except ε β} {value : β} :
    result >>= next = .ok value ↔ ∃ first, result = .ok first ∧ next first = .ok value := by
  constructor
  · intro h
    cases result with
    | error e => cases h
    | ok first => exact ⟨first, rfl, h⟩
  · rintro ⟨first, rfl, h⟩
    exact h

end Sdci
