/-!
Functions that answer early when a check fails.
-/

namespace ConvergeAudit.Lib

variable [Decidable c]

/-- An answer that an early one cannot be has passed the check. -/
theorem passes (other : early ≠ result) : (if c then early else rest) = result ↔ ¬c ∧ rest = result := by
  by_cases stops : c <;> simp [stops, other]

theorem passes_not (other : early ≠ result) : (if !check then early else rest) = result ↔ check = true ∧ rest = result := by
  cases check <;> simp [other]

end ConvergeAudit.Lib
