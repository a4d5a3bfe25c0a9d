import Mathlib.Init

/-!
# Results that may be failures

A computation that went through went through in each of its parts. The laws take a mapped or a
chained result apart, and put mapped results together again.
-/

namespace FlashMarkup.Result

variable {ε α β γ : Type}

/-- A mapped result is a value exactly if the result is one. -/
theorem map_eq_ok_iff {result : Except ε α} {f : α → β} {value : β} :
    result.map f = .ok value ↔ ∃ inner, result = .ok inner ∧ f inner = value := by
  cases result <;> simp [Except.map]

/-- A chained result is a value exactly if each part is one. -/
theorem bind_eq_ok_iff {result : Except ε α} {f : α → Except ε β} {value : β} :
    result >>= f = .ok value ↔ ∃ inner, result = .ok inner ∧ f inner = .ok value := by
  cases result <;> simp [bind, Except.bind]

/-- A mapped result is a failure exactly if the result is that failure. -/
theorem map_eq_error_iff {result : Except ε α} {f : α → β} {failure : ε} :
    result.map f = .error failure ↔ result = .error failure := by
  cases result <;> simp [Except.map]

/-- Mapping twice is mapping once. -/
theorem map_map (result : Except ε α) (f : α → β) (g : β → γ) :
    (result.map f).map g = result.map fun value => g (f value) := by
  cases result <;> rfl

end FlashMarkup.Result
