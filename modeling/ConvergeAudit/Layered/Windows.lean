import ConvergeAudit.Layered.Model
import ConvergeAudit.Lib.Tiling

/-!
Over unbounded integers window `n` has a closed form: `microsPerMacro` windows to an epoch, the last one cut
short by the end of the epoch. Both loops of `advance_watermark` follow it.
-/

namespace ConvergeAudit.Layered
open Moon Audit Arithmetic

section Schedule
variable (policy : VerifiedCheckpointPolicy) (originMs : ℤ)

/-- The macro interval divided by the micro interval, rounded up. -/
def microsPerMacro : ℕ :=
  ((policy.policy.macroCheckpointIntervalMs + policy.policy.microCheckpointIntervalMs - 1) /
    policy.policy.microCheckpointIntervalMs).toNat

def windowStart (n : ℕ) : ℤ :=
  originMs + (n / microsPerMacro policy : ℕ) * policy.policy.macroCheckpointIntervalMs +
    (n % microsPerMacro policy : ℕ) * policy.policy.microCheckpointIntervalMs

abbrev epochEnd (n : ℕ) : ℤ :=
  originMs + ((n / microsPerMacro policy : ℕ) + 1) * policy.policy.macroCheckpointIntervalMs

/-- Window `n` is the last one of its epoch. -/
abbrev Closing (n : ℕ) : Prop := n % microsPerMacro policy + 1 = microsPerMacro policy

theorem microsPerMacro_bounds :
    0 < microsPerMacro policy ∧
    ((microsPerMacro policy : ℤ) - 1) * policy.policy.microCheckpointIntervalMs <
      policy.policy.macroCheckpointIntervalMs ∧
    policy.policy.macroCheckpointIntervalMs ≤
      (microsPerMacro policy : ℤ) * policy.policy.microCheckpointIntervalMs := by
  have positive := policy.micro_pos
  have nested := policy.micro_le_macro
  unfold microsPerMacro
  generalize policy.policy.microCheckpointIntervalMs = micro at *
  generalize policy.policy.macroCheckpointIntervalMs = total at *
  have quotient := Int.mul_ediv_add_emod (total + micro - 1) micro
  have small := Int.emod_lt_of_pos (total + micro - 1) positive
  have nonneg := Int.emod_nonneg (total + micro - 1) (by omega : micro ≠ 0)
  have atLeast : 1 ≤ (total + micro - 1) / micro := by
    rw [Int.le_ediv_iff_mul_le positive]
    omega
  generalize (total + micro - 1) / micro = count at *
  have cast : ((count.toNat : ℕ) : ℤ) = count := by omega
  rw [cast, Int.sub_mul, Int.mul_comm count micro]
  omega

theorem mod_microsPerMacro (n : ℕ) : n % microsPerMacro policy < microsPerMacro policy :=
  Nat.mod_lt n (microsPerMacro_bounds policy).1

variable {policy}

theorem succ_within (within : ¬Closing policy n) :
    (n + 1) / microsPerMacro policy = n / microsPerMacro policy ∧
    (n + 1) % microsPerMacro policy = n % microsPerMacro policy + 1 := by
  have split := Nat.div_add_mod n (microsPerMacro policy)
  have inside := mod_microsPerMacro policy n
  replace within : n % microsPerMacro policy + 1 < microsPerMacro policy := by omega
  have next : n + 1 = microsPerMacro policy * (n / microsPerMacro policy) + (n % microsPerMacro policy + 1) := by
    omega
  constructor
  · rw [next, Nat.mul_add_div (by omega), Nat.div_eq_of_lt within, Nat.add_zero]
  · rw [next, Nat.mul_add_mod, Nat.mod_eq_of_lt within]

theorem succ_closing (closing : Closing policy n) :
    (n + 1) / microsPerMacro policy = n / microsPerMacro policy + 1 ∧ (n + 1) % microsPerMacro policy = 0 := by
  have split := Nat.div_add_mod n (microsPerMacro policy)
  have next : n + 1 = microsPerMacro policy * (n / microsPerMacro policy + 1) := by
    rw [Nat.mul_succ]
    omega
  constructor
  · rw [next, Nat.mul_div_cancel_left _ (by omega)]
  · rw [next, Nat.mul_mod_right]

theorem windowStart_zero : windowStart policy originMs 0 = originMs := by
  simp [windowStart]

theorem windowStart_succ_within (within : ¬Closing policy n) :
    windowStart policy originMs (n + 1) =
      windowStart policy originMs n + policy.policy.microCheckpointIntervalMs ∧
    windowStart policy originMs (n + 1) < epochEnd policy originMs n := by
  obtain ⟨-, below, -⟩ := microsPerMacro_bounds policy
  obtain ⟨epoch, index⟩ := succ_within within
  have inside := mod_microsPerMacro policy n
  have positive := policy.micro_pos
  have room : ((n % microsPerMacro policy : ℕ) + 1 : ℤ) * policy.policy.microCheckpointIntervalMs ≤
      ((microsPerMacro policy : ℤ) - 1) * policy.policy.microCheckpointIntervalMs :=
    Int.mul_le_mul_of_nonneg_right (by omega) (by omega)
  unfold windowStart epochEnd
  rw [epoch, index, Int.natCast_succ, Int.add_mul _ 1, Int.add_mul _ 1, Int.one_mul, Int.one_mul]
  rw [Int.add_mul, Int.one_mul] at room
  constructor <;> omega

theorem windowStart_succ_closing (closing : Closing policy n) :
    windowStart policy originMs (n + 1) = epochEnd policy originMs n ∧
    windowStart policy originMs n < epochEnd policy originMs n ∧
    epochEnd policy originMs n ≤ windowStart policy originMs n + policy.policy.microCheckpointIntervalMs := by
  obtain ⟨-, below, above⟩ := microsPerMacro_bounds policy
  obtain ⟨epoch, index⟩ := succ_closing closing
  have last : (microsPerMacro policy : ℤ) = (n % microsPerMacro policy : ℕ) + 1 := by omega
  rw [last, Int.add_mul, Int.one_mul] at above
  rw [last, Int.add_sub_cancel] at below
  unfold windowStart epochEnd
  rw [epoch, index, Int.natCast_succ, Int.natCast_zero, Int.zero_mul, Int.add_mul, Int.one_mul]
  refine ⟨?_, ?_, ?_⟩ <;> omega

variable (policy) in
theorem boundary_eq (n : ℕ) :
    (if windowStart policy originMs n + policy.policy.microCheckpointIntervalMs < epochEnd policy originMs n
      then windowStart policy originMs n + policy.policy.microCheckpointIntervalMs
      else epochEnd policy originMs n) = windowStart policy originMs (n + 1) ∧
    (windowStart policy originMs (n + 1) = epochEnd policy originMs n ↔ Closing policy n) := by
  by_cases closing : Closing policy n
  · obtain ⟨ends, -, cut⟩ := windowStart_succ_closing originMs closing
    exact ⟨by rw [if_neg (Int.not_lt.mpr cut), ends], iff_of_true ends closing⟩
  · obtain ⟨ends, less⟩ := windowStart_succ_within originMs closing
    exact ⟨by rw [← ends, if_pos less], iff_of_false (Int.ne_of_lt less) closing⟩

variable (policy) in
theorem epoch_eq (n : ℕ) :
    (if windowStart policy originMs (n + 1) = epochEnd policy originMs n
      then ((n / microsPerMacro policy : ℕ) : ℤ) + 1 else (n / microsPerMacro policy : ℕ)) =
        ((n + 1) / microsPerMacro policy : ℕ) := by
  simp only [(boundary_eq policy originMs n).2]
  split
  case isTrue closing => rw [(succ_closing closing).1, Int.natCast_succ]
  case isFalse within => rw [(succ_within within).1]

theorem windowStart_lt_succ (n : ℕ) : windowStart policy originMs n < windowStart policy originMs (n + 1) := by
  by_cases closing : Closing policy n
  · obtain ⟨ends, later, -⟩ := windowStart_succ_closing originMs closing
    rwa [ends]
  · have positive := policy.micro_pos
    obtain ⟨ends, -⟩ := windowStart_succ_within originMs closing
    omega

theorem windowStart_strictMono : StrictMono (windowStart policy originMs) :=
  strictMono_nat_of_lt_succ (windowStart_lt_succ originMs)

end Schedule

variable {builder : LayeredCheckpointBuilder}

namespace LayeredCheckpointBuilder

/-- The builder is about to seal window `n`. -/
structure AtWindow (builder : LayeredCheckpointBuilder) (n : ℕ) : Prop where
  epoch : builder.macroEpoch = (n / microsPerMacro builder.policy : ℕ)
  index : builder.microIndex = (n % microsPerMacro builder.policy : ℕ)
  starts : builder.windowStartMs = windowStart builder.policy builder.originMs n

theorem AtWindow.nextBoundaryMs (cursor : builder.AtWindow n) :
    builder.nextBoundaryMs .unbounded = windowStart builder.policy builder.originMs (n + 1) := by
  have bounded := (boundary_eq builder.policy builder.originMs n).1
  unfold LayeredCheckpointBuilder.nextBoundaryMs macroEndMs
  simp only [unbounded_add, unbounded_mul, cursor.epoch, cursor.starts]
  exact bounded

theorem AtWindow.closes_iff (cursor : builder.AtWindow n) :
    windowStart builder.policy builder.originMs (n + 1) = builder.macroEndMs .unbounded ↔
      Closing builder.policy n := by
  unfold macroEndMs
  simp only [unbounded_add, unbounded_mul, cursor.epoch]
  exact (boundary_eq builder.policy builder.originMs n).2

def nextWindow (builder : LayeredCheckpointBuilder) : LayeredCheckpointBuilder :=
  let boundary := builder.nextBoundaryMs .unbounded
  if boundary = builder.macroEndMs .unbounded then
    { builder with windowStartMs := boundary, macroEpoch := builder.macroEpoch + 1, microIndex := 0 }
  else { builder with windowStartMs := boundary, microIndex := builder.microIndex + 1 }

theorem AtWindow.nextWindow (cursor : builder.AtWindow n) :
    builder.nextWindow.AtWindow (n + 1) ∧ builder.nextWindow.policy = builder.policy ∧
      builder.nextWindow.originMs = builder.originMs := by
  unfold LayeredCheckpointBuilder.nextWindow
  rw [cursor.nextBoundaryMs]
  by_cases closing : Closing builder.policy n
  · obtain ⟨epoch, index⟩ := succ_closing closing
    rw [if_pos (cursor.closes_iff.mpr closing)]
    exact ⟨⟨by simp only [cursor.epoch, epoch, Int.natCast_succ], by simp only [index, Int.natCast_zero], rfl⟩, rfl, rfl⟩
  · obtain ⟨epoch, index⟩ := succ_within closing
    rw [if_neg fun ends => closing (cursor.closes_iff.mp ends)]
    exact ⟨⟨by simp only [cursor.epoch, epoch], by simp only [cursor.index, index, Int.natCast_succ], rfl⟩, rfl, rfl⟩

theorem dueLoop_succ :
    builder.dueLoop .unbounded target stopAfter (fuel + 1) (n / microsPerMacro builder.policy : ℕ)
        (windowStart builder.policy builder.originMs n) count =
      if windowStart builder.policy builder.originMs (n + 1) > target then count
      else if count + 1 > stopAfter then count + 1
      else builder.dueLoop .unbounded target stopAfter fuel ((n + 1) / microsPerMacro builder.policy : ℕ)
        (windowStart builder.policy builder.originMs (n + 1)) (count + 1) := by
  rw [dueLoop]
  simp only [unbounded_add, unbounded_mul]
  rw [(boundary_eq builder.policy builder.originMs n).1, epoch_eq]

/-- The counting loop finds the windows that end by the target, up to one more than it may count. -/
theorem dueLoop_spec (builder : LayeredCheckpointBuilder) (target stopAfter : ℤ) (fuel n : ℕ) (count : ℤ)
    (enough : count + fuel = stopAfter + 1) :
    ∃ k : ℕ, builder.dueLoop .unbounded target stopAfter fuel (n / microsPerMacro builder.policy : ℕ)
        (windowStart builder.policy builder.originMs n) count = count + k ∧
      (k = 0 ∨ windowStart builder.policy builder.originMs (n + k) ≤ target) ∧
      (count + k ≤ stopAfter → target < windowStart builder.policy builder.originMs (n + k + 1)) := by
  induction fuel generalizing n count with
  | zero =>
    refine ⟨0, by simp [dueLoop], Or.inl rfl, ?_⟩
    omega
  | succ fuel ih =>
    rw [dueLoop_succ]
    by_cases beyond : windowStart builder.policy builder.originMs (n + 1) > target
    · rw [if_pos beyond]
      exact ⟨0, by simp, Or.inl rfl, fun _ => beyond⟩
    by_cases many : count + 1 > stopAfter
    · rw [if_neg beyond, if_pos many]
      exact ⟨1, by simp, Or.inr (by omega), fun few => by omega⟩
    obtain ⟨k, counted, reached, stopped⟩ := ih (n + 1) (count + 1) (by omega)
    refine ⟨k + 1, by omega, Or.inr ?_, fun few => ?_⟩
    · rw [show n + (k + 1) = n + 1 + k by omega]
      rcases reached with rfl | reached
      · exact Int.not_lt.mp beyond
      · exact reached
    · rw [show n + (k + 1) + 1 = n + 1 + k + 1 by omega]
      exact stopped (by omega)

theorem AtWindow.dueWindowCount (cursor : builder.AtWindow n) (target : ℤ) (budget : 0 ≤ maxWindows) :
    ∃ k : ℕ, builder.dueWindowCount .unbounded target maxWindows = k ∧
      (k = 0 ∨ windowStart builder.policy builder.originMs (n + k) ≤ target) ∧
      (k ≤ maxWindows → target < windowStart builder.policy builder.originMs (n + k + 1)) := by
  obtain ⟨k, counted, reached, stopped⟩ := builder.dueLoop_spec target maxWindows (maxWindows + 1).toNat n 0 (by omega)
  rw [Int.zero_add] at counted stopped
  refine ⟨k, ?_, reached, stopped⟩
  rw [LayeredCheckpointBuilder.dueWindowCount, cursor.epoch, cursor.starts, counted]

end LayeredCheckpointBuilder

end ConvergeAudit.Layered
