import ConvergeAudit.Audit.Policy
import ConvergeAudit.Merkle.Inclusion
import ConvergeAudit.Moon.Arithmetic
import Mathlib.Order.Bounds.Basic

/-!
The dispute rounds of `audit/policy.mbt`, and the Merkle tree over the events of a macro interval.
-/

namespace ConvergeAudit.Audit
open Moon Lib Merkle Bft

section
variable (arith : Arithmetic)

def positiveCeilDiv (numerator denominator : ℤ) : ℤ :=
  let quotient := numerator.tdiv denominator
  if numerator.tmod denominator = 0 then quotient else arith.add quotient 1

def eventLeavesPerMacroCheckpoint (policy : VerifiedCheckpointPolicy) : ℤ :=
  positiveCeilDiv arith policy.value.macroCheckpointIntervalMs policy.value.eventIntervalMs

/-- The loop, `none` when it is not over after `fuel` iterations. -/
def bisectionLoop (fuel : ℕ) (leaves rounds : ℤ) : Option ℤ :=
  if leaves > 1 then
    match fuel with
    | 0 => none
    | fuel + 1 => bisectionLoop fuel (positiveCeilDiv arith leaves 2) (arith.add rounds 1)
  else some rounds

def disputeBisectionRounds (fuel : ℕ) (policy : VerifiedCheckpointPolicy) : Option ℤ :=
  bisectionLoop arith fuel (eventLeavesPerMacroCheckpoint arith policy) 0

end

section
variable {arith : Arithmetic} (exact : arith.ExactInt32)
include exact

/-- Rounding up stays in range: a quotient that is not exact is below the numerator. -/
theorem positiveCeilDiv_eq (nonneg : 0 ≤ numerator) (fits : IsInt32 numerator) (positive : 0 < denominator) :
    positiveCeilDiv arith numerator denominator = (numerator + denominator - 1) / denominator := by
  have parts := Int.mul_ediv_add_emod numerator denominator
  have below := Int.emod_lt_of_pos numerator positive
  have rest := Int.emod_nonneg numerator positive.ne'
  have quotient := Int.ediv_nonneg nonneg positive.le
  have grows := le_mul_of_one_le_left quotient positive
  have rounded (left count : ℤ) (split : numerator + denominator - 1 = left + denominator * count) (low : 0 ≤ left)
      (high : left < denominator) : (numerator + denominator - 1) / denominator = count := by
    rw [split, Int.add_mul_ediv_left _ _ positive.ne', Int.ediv_eq_zero_of_lt low high, zero_add]
  rw [positiveCeilDiv, Int.tdiv_eq_ediv_of_nonneg nonneg, Int.tmod_eq_emod_of_nonneg nonneg]
  split
  · exact (rounded (denominator - 1) (numerator / denominator) (by omega) (by omega) (by omega)).symm
  · unfold IsInt32 at fits
    rw [exact.add (by unfold IsInt32; omega)]
    refine (rounded (numerator % denominator - 1) _ ?_ (by omega) (by omega)).symm
    rw [mul_add, mul_one]
    omega

theorem bisectionLoop_eq {rounds : ℤ} (fuel leaves : ℕ) (fits : IsInt32 leaves) (enough : Nat.clog 2 leaves ≤ fuel)
    (counted : 0 ≤ rounds) (room : rounds + fuel < 2 ^ 31) :
    bisectionLoop arith fuel leaves rounds = some (rounds + Nat.clog 2 leaves) := by
  induction fuel generalizing leaves rounds with
  | zero =>
    have few := (Nat.clog_le_iff_le_pow Nat.one_lt_two).mp enough
    rw [bisectionLoop, if_neg (by omega), Nat.le_zero.mp enough, Nat.cast_zero, add_zero]
  | succ fuel ih =>
    rw [bisectionLoop]
    by_cases many : 1 < leaves
    · have half : positiveCeilDiv arith leaves 2 = ((leaves + 2 - 1) / 2 : ℕ) := by
        rw [positiveCeilDiv_eq exact (by omega) fits (by omega)]
        omega
      have halving := Nat.clog_of_two_le Nat.one_lt_two many
      unfold IsInt32 at fits
      rw [if_pos (by omega), half, exact.add (by unfold IsInt32; omega),
        ih _ (by unfold IsInt32; omega) (by omega) (by omega) (by omega), halving]
      congr 1
      omega
    · rw [if_neg (by omega), Nat.clog_of_right_le_one (by omega), Nat.cast_zero, add_zero]

theorem eventLeavesPerMacroCheckpoint_le_iff (policy : VerifiedCheckpointPolicy)
    (fits : IsInt32 policy.value.macroCheckpointIntervalMs) (count : ℤ) :
    eventLeavesPerMacroCheckpoint arith policy ≤ count ↔
      policy.value.macroCheckpointIntervalMs ≤ count * policy.value.eventIntervalMs := by
  have tiers := policy.value.valid_iff.mp policy.verified
  rw [eventLeavesPerMacroCheckpoint, positiveCeilDiv_eq exact (by omega) fits tiers.1, ← Int.lt_add_one_iff,
    Int.ediv_lt_iff_lt_mul tiers.1, add_mul, one_mul]
  omega

/-- The rounds of a dispute are the height of the tree over the events of a macro interval. -/
theorem dispute_rounds_are_tree_height (policy : VerifiedCheckpointPolicy)
    (fits : IsInt32 policy.value.macroCheckpointIntervalMs) :
    ∃ rounds : ℕ, disputeBisectionRounds arith 31 policy = some (rounds : ℤ) ∧
      IsLeast {r : ℕ | 2 ^ r * policy.value.eventIntervalMs ≥ policy.value.macroCheckpointIntervalMs} rounds ∧
      ∀ (hasher : Hasher) (payloads : List Str),
        (payloads.length : ℤ) = eventLeavesPerMacroCheckpoint arith policy →
          (MerkleTree.build hasher payloads).levels.length = rounds + 1 ∧
          (∃ index, ((MerkleTree.build hasher payloads).proof index).isSome = true) ∧
          ∀ index proof, (MerkleTree.build hasher payloads).proof index = some proof → proof.path.length = rounds := by
  have tiers := policy.value.valid_iff.mp policy.verified
  have bound := eventLeavesPerMacroCheckpoint_le_iff exact policy fits
  have positive : 0 < eventLeavesPerMacroCheckpoint arith policy := by
    have none := bound 0
    omega
  have below : eventLeavesPerMacroCheckpoint arith policy ≤ policy.value.macroCheckpointIntervalMs :=
    (bound _).mpr (le_mul_of_one_le_right (by omega) tiers.1)
  obtain ⟨leaves, same⟩ := Int.eq_ofNat_of_zero_le positive.le
  unfold IsInt32 at fits
  have enough : Nat.clog 2 leaves ≤ 31 := Nat.clog_le_of_le_pow (by omega)
  have power (r : ℕ) : Nat.clog 2 leaves ≤ r ↔
      2 ^ r * policy.value.eventIntervalMs ≥ policy.value.macroCheckpointIntervalMs := by
    rw [Nat.clog_le_iff_le_pow Nat.one_lt_two, ge_iff_le, ← bound, same]
    exact_mod_cast Iff.rfl
  refine ⟨Nat.clog 2 leaves, ?_, ⟨(power _).mp le_rfl, fun r enough => (power r).mpr enough⟩, ?_⟩
  · rw [disputeBisectionRounds, same, bisectionLoop_eq exact 31 leaves (by unfold IsInt32; omega) enough le_rfl
      (by decide), zero_add]
  · intro hasher payloads counted
    have length : payloads.length = leaves := by omega
    refine ⟨?_, ⟨0, ?_⟩, fun index proof found => ?_⟩
    · rw [MerkleTree.levels_build (by omega), List.length_append, Levels.length_below, List.length_map, length]
      rfl
    · rw [MerkleTree.proof_build hasher payloads le_rfl (by omega)]
      rfl
    · unfold MerkleTree.proof at found
      split at found
      · cases found
      · cases found
        rw [MerkleTree.dropLast_levels_build, Levels.length_siblings, Levels.length_below, List.length_map, length]

end

/-- One event a millisecond for the longest macro interval there is. -/
def longestPolicy : VerifiedCheckpointPolicy :=
  ⟨⟨1, 1, 2147483647, 2147483647, 2147483647, 2147483647⟩, by decide⟩

theorem dispute_rounds_are_tree_height_longest :
    ∃ rounds : ℕ, disputeBisectionRounds .int32 31 longestPolicy = some (rounds : ℤ) ∧
      IsLeast {r : ℕ | 2 ^ r * (1 : ℤ) ≥ 2147483647} rounds := by
  obtain ⟨rounds, ends, least, _⟩ :=
    dispute_rounds_are_tree_height Arithmetic.exactInt32_int32 longestPolicy (by decide)
  exact ⟨rounds, ends, least⟩

end ConvergeAudit.Audit
