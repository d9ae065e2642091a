import Mathlib

/-!
# Results that are a value or a failure

When a result that is made from another one is a value: `Except.map`, `Except.mapError` and `>>=`
keep a failure, so that there is a value only where the parts have one.
-/

namespace QueueAck

variable {ε ε' α β : Type}

/-- A changed value comes from a value. -/
theorem map_eq_ok_iff {f : α → β} {r : Except ε α} {y : β} :
    r.map f = .ok y ↔ ∃ x, r = .ok x ∧ f x = y := by
  cases r <;> simp [Except.map]

/-- Changing the failure keeps the value. -/
theorem mapError_eq_ok_iff {f : ε → ε'} {r : Except ε α} {x : α} :
    r.mapError f = .ok x ↔ r = .ok x := by
  cases r <;> simp [Except.mapError]

/-- A changed failure comes from a failure. -/
theorem mapError_eq_error_iff {f : ε → ε'} {r : Except ε α} {g : ε'} :
    r.mapError f = .error g ↔ ∃ e, r = .error e ∧ f e = g := by
  cases r <;> simp [Except.mapError]

/-- Two results one after the other have a value when both do. -/
theorem bind_eq_ok_iff {r : Except ε α} {k : α → Except ε β} {y : β} :
    r >>= k = .ok y ↔ ∃ x, r = .ok x ∧ k x = .ok y := by
  cases r <;> simp [bind, Except.bind]

/-- Two results one after the other fail where the first one does, and else where the second one
does. -/
theorem bind_eq_error_iff {r : Except ε α} {k : α → Except ε β} {e : ε} :
    r >>= k = .error e ↔ r = .error e ∨ ∃ x, r = .ok x ∧ k x = .error e := by
  cases r <;> simp [bind, Except.bind]

/-- A result is read as an option with a value when it is that value. -/
theorem toOption_eq_some_iff {r : Except ε α} {x : α} : r.toOption = some x ↔ r = .ok x := by
  cases r <;> simp [Except.toOption]

end QueueAck
