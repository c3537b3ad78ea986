import Mathlib.Tactic.Common

/-!
# Three-valued truth

Conditions over rows with missing values evaluate to true, false or unknown.
The connectives are Kleene's; a row is selected only when its condition is true.
-/

namespace ThreeValued

/-- The truth value of a condition. -/
inductive Truth
  | true
  | false
  | unknown
  deriving DecidableEq, Repr

namespace Truth

/-- Conjunction: false wins over unknown. -/
def and : Truth → Truth → Truth
  | .false, _ => .false
  | _, .false => .false
  | .true, .true => .true
  | _, _ => .unknown

/-- Disjunction: true wins over unknown. -/
def or : Truth → Truth → Truth
  | .true, _ => .true
  | _, .true => .true
  | .false, .false => .false
  | _, _ => .unknown

/-- Negation leaves unknown as it is. -/
def not : Truth → Truth
  | .true => .false
  | .false => .true
  | .unknown => .unknown

/-- A conjunction selects exactly what both of its sides select. -/
@[simp] theorem and_eq_true (left right : Truth) :
    left.and right = .true ↔ left = .true ∧ right = .true := by
  cases left <;> cases right <;> decide

end Truth

end ThreeValued
