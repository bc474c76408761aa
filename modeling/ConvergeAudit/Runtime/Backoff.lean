import ConvergeAudit.Runtime.PeerRoutes
import Mathlib.Algebra.Order.Ring.Int

/-!
The back-off loops of `audit/runtime/peer_transport.mbt` and `audit/evidence_poll_schedule.mbt`.
-/

namespace ConvergeAudit.Runtime
open Moon

section
variable (arith : Arithmetic) (fuel : ℕ) (failures baseBackoffMs maxBackoffMs : ℤ)

/-- The `while` loop of both functions, `none` when it is not over after `fuel` iterations. -/
def backoffWhile (fuel : ℕ) (delay remaining : ℤ) : Option ℤ :=
  if remaining > 0 ∧ delay < maxBackoffMs then
    match fuel with
    | 0 => none
    | fuel + 1 =>
      backoffWhile fuel (if delay > maxBackoffMs.tdiv 2 then maxBackoffMs else arith.mul delay 2) (arith.sub remaining 1)
  else some delay

def boundedExponentialBackoffWithin : Option ℤ :=
  (backoffWhile arith maxBackoffMs fuel baseBackoffMs failures).map fun delay =>
    if delay > maxBackoffMs then maxBackoffMs else delay

def playerLocalEvidencePollBackoffDelay : Option ℤ :=
  if failures < 0 ∨ baseBackoffMs ≤ 0 ∨ maxBackoffMs < baseBackoffMs then some (-1)
  else boundedExponentialBackoffWithin arith fuel failures baseBackoffMs maxBackoffMs

end

/-- The delay is doubled, or the doubled delay is above the cap and gives way to it. -/
theorem doubled_cases (maxBackoffMs delay : ℤ) :
    delay * 2 ≤ maxBackoffMs ∧ (if delay > maxBackoffMs / 2 then maxBackoffMs else delay * 2) = delay * 2 ∨
      maxBackoffMs < delay * 2 ∧ (if delay > maxBackoffMs / 2 then maxBackoffMs else delay * 2) = maxBackoffMs := by
  by_cases above : delay > maxBackoffMs / 2
  · exact Or.inr ⟨by omega, if_pos above⟩
  · exact Or.inl ⟨by omega, if_neg above⟩

theorem le_mul_two_pow {delay : ℤ} (positive : 0 < delay) (n : ℕ) : delay ≤ delay * 2 ^ n :=
  le_mul_of_one_le_right positive.le (one_le_pow₀ one_le_two)

/-- The loop of the model is the capped power of two. -/
theorem backoffLoop_eq (remaining : ℕ) (positive : 0 < delay) (below : delay ≤ maxBackoffMs) :
    backoffLoop maxBackoffMs remaining delay = min maxBackoffMs (delay * 2 ^ remaining) := by
  induction remaining generalizing delay with
  | zero =>
    rw [backoffLoop, pow_zero, mul_one, min_eq_right below]
  | succ remaining ih =>
    have grows := le_mul_two_pow positive (remaining + 1)
    rw [backoffLoop]
    split
    · rename_i room
      rcases doubled_cases maxBackoffMs delay with ⟨fits, next⟩ | ⟨beyond, next⟩
      · rw [next, ih (by omega) fits, pow_succ', mul_assoc]
      · have capped := le_mul_two_pow (by omega : 0 < delay * 2) remaining
        rw [next, ih (by omega) le_rfl, min_eq_left (le_mul_two_pow (by omega) remaining), pow_succ', ← mul_assoc,
          min_eq_left (by omega)]
    · rename_i full
      omega

/-- The machine's loop is the loop of the model and ends in time. -/
theorem backoffWhile_eq {arith : Arithmetic} (exact : arith.ExactInt32) (maxFits : IsInt32 maxBackoffMs) (fuel : ℕ)
    (enough : maxBackoffMs ≤ delay * 2 ^ fuel) (positive : 0 < delay) (remainingFits : IsInt32 remaining)
    (counted : 0 ≤ remaining) :
    backoffWhile arith maxBackoffMs fuel delay remaining = some (backoffLoop maxBackoffMs remaining.toNat delay) := by
  induction fuel generalizing delay remaining with
  | zero =>
    unfold backoffWhile
    rw [if_neg (by omega)]
    cases remaining.toNat with
    | zero => rfl
    | succ _ => rw [backoffLoop, if_neg (by omega)]
  | succ fuel ih =>
    unfold IsInt32 at maxFits remainingFits
    obtain ⟨count, rfl⟩ := Int.eq_ofNat_of_zero_le counted
    unfold backoffWhile
    cases count with
    | zero => rfl
    | succ count =>
      rw [Int.toNat_natCast, backoffLoop]
      by_cases room : delay < maxBackoffMs
      · have lowered : arith.sub ((count + 1 : ℕ) : ℤ) 1 = count := by
          rw [exact.sub (by unfold IsInt32; omega)]
          omega
        rw [if_pos ⟨by omega, room⟩, if_pos room, Int.tdiv_eq_ediv_of_nonneg (by omega)]
        rw [lowered]
        rcases doubled_cases maxBackoffMs delay with ⟨fits, next⟩ | ⟨beyond, next⟩
        · rw [exact.mul (by unfold IsInt32; omega), next]
          refine ih ?_ (by omega) (by unfold IsInt32; omega) (by omega)
          rw [mul_assoc, ← pow_succ']
          exact enough
        · rw [if_pos (show delay > maxBackoffMs / 2 by omega), next]
          exact ih (le_mul_two_pow (by omega) fuel) (by omega) (by unfold IsInt32; omega) (by omega)
      · rw [if_neg (by omega), if_neg room]

/-- Both functions return the capped power of two after at most 31 iterations. What the machine makes of a result out of
range is left open, so none is. -/
theorem backoff_is_capped_power_of_two {arith : Arithmetic} (exact : arith.ExactInt32)
    (failuresFit : IsInt32 failures) (maxFits : IsInt32 maxBackoffMs) (counted : 0 ≤ failures)
    (positive : 0 < baseBackoffMs) (ordered : baseBackoffMs ≤ maxBackoffMs) :
    boundedExponentialBackoffWithin arith 31 failures baseBackoffMs maxBackoffMs =
        some (min maxBackoffMs (baseBackoffMs * 2 ^ failures.toNat)) ∧
      playerLocalEvidencePollBackoffDelay arith 31 failures baseBackoffMs maxBackoffMs =
        some (min maxBackoffMs (baseBackoffMs * 2 ^ failures.toNat)) ∧
      boundedExponentialBackoff failures baseBackoffMs maxBackoffMs =
        min maxBackoffMs (baseBackoffMs * 2 ^ failures.toNat) := by
  have enough : maxBackoffMs ≤ baseBackoffMs * 2 ^ 31 := by
    have below := maxFits.2
    omega
  have ends := backoffWhile_eq exact maxFits 31 enough positive failuresFit counted
  rw [backoffLoop_eq _ positive ordered] at ends
  have bounded : boundedExponentialBackoffWithin arith 31 failures baseBackoffMs maxBackoffMs =
      some (min maxBackoffMs (baseBackoffMs * 2 ^ failures.toNat)) := by
    rw [boundedExponentialBackoffWithin, ends, Option.map_some, if_neg (by simp)]
  refine ⟨bounded, ?_, ?_⟩
  · rw [playerLocalEvidencePollBackoffDelay, if_neg (by omega), bounded]
  · rw [boundedExponentialBackoff, backoffLoop_eq _ positive ordered, min_eq_left (min_le_left _ _)]

theorem backoff_is_capped_power_of_two_longest :
    boundedExponentialBackoffWithin .int32 31 40 1 2147483647 = some (min 2147483647 (1 * 2 ^ (40 : ℤ).toNat)) :=
  (backoff_is_capped_power_of_two Arithmetic.exactInt32_int32 (by decide) (by decide) (by decide) (by decide)
    (by decide)).1

end ConvergeAudit.Runtime
