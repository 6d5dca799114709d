import Exposition.Line.Basic
import Mathlib

/-! # Steps of a reader

A reader that may reject its line succeeds exactly if each of its steps does.
-/

namespace Exposition

@[simp, grind =]
theorem bind_eq_ok_iff {ε α β : Type} {step : Except ε α} {next : α → Except ε β} {b : β} :
    step >>= next = .ok b ↔ ∃ a, step = .ok a ∧ next a = .ok b := by
  cases step with
  | error e => simp [bind, Except.bind]
  | ok a => simp [bind, Except.bind]

theorem bind_eq_error_iff {ε α β : Type} {step : Except ε α} {next : α → Except ε β} {e : ε} :
    step >>= next = .error e ↔ step = .error e ∨ ∃ a, step = .ok a ∧ next a = .error e := by
  cases step with
  | error e => simp [bind, Except.bind]
  | ok a => simp [bind, Except.bind]

theorem exists_eq_ok_of_isOk {ε α : Type} {step : Except ε α} (h : step.isOk = true) :
    ∃ a, step = .ok a := by
  cases step with
  | error e => cases h
  | ok a => exact ⟨a, rfl⟩

theorem map_eq_ok_iff {ε α β : Type} {step : Except ε α} {f : α → β} {b : β} :
    step.map f = .ok b ↔ ∃ a, step = .ok a ∧ f a = b := by
  cases step <;> simp [Except.map]

@[simp, grind =] theorem map_eq_error_iff {ε α β : Type} {step : Except ε α} {f : α → β} {e : ε} :
    step.map f = .error e ↔ step = .error e := by
  cases step <;> simp [Except.map]

@[simp, grind =] theorem expect_eq_ok_iff {α : Type} {expected : Expectation}
    {read? : List Char → Option (α × List Char)} {cs : List Char} {result : α × List Char} :
    expect expected read? cs = .ok result ↔ read? cs = some result := by
  unfold expect
  cases read? cs <;> simp

@[simp, grind =] theorem expect_eq_error_iff {α : Type} {expected : Expectation}
    {read? : List Char → Option (α × List Char)} {cs : List Char} {r : Rejection} :
    expect expected read? cs = .error r ↔ read? cs = none ∧ r = ⟨expected, cs⟩ := by
  unfold expect
  cases read? cs <;> simp [eq_comm]

@[simp, grind =]
theorem expectEnd_eq_error_iff {expected : Expectation} {cs : List Char} {r : Rejection} :
    expectEnd expected cs = .error r ↔ cs ≠ [] ∧ r = ⟨expected, cs⟩ := by
  cases cs <;> simp [expectEnd, eq_comm]

@[simp, grind =] theorem expectEnd_eq_ok_iff {expected : Expectation} {cs : List Char} {u : Unit} :
    expectEnd expected cs = .ok u ↔ cs = [] := by
  simp [expectEnd]

end Exposition
