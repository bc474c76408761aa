import Mathlib

/-!
Windows `[start n, start (n + 1))` between the values of a strictly increasing sequence.
-/

namespace ConvergeAudit.Lib.Tiling

variable {start : ℕ → ℤ}

/-- Every moment before `start n` lies in one of the first `n` windows. -/
theorem exists_window (n : ℕ) (after : start 0 ≤ moment) (before : moment < start n) :
    ∃ k < n, start k ≤ moment ∧ moment < start (k + 1) := by
  induction n with
  | zero => omega
  | succ n ih =>
    by_cases earlier : moment < start n
    · obtain ⟨k, less, inside⟩ := ih earlier
      exact ⟨k, by omega, inside⟩
    · exact ⟨n, by omega, by omega, before⟩

theorem window_unique (increasing : StrictMono start) (first : start j ≤ moment ∧ moment < start (j + 1))
    (second : start k ≤ moment ∧ moment < start (k + 1)) : j = k := by
  have upper : j < k + 1 := increasing.lt_iff_lt.mp (by omega)
  have lower : k < j + 1 := increasing.lt_iff_lt.mp (by omega)
  omega

end ConvergeAudit.Lib.Tiling
