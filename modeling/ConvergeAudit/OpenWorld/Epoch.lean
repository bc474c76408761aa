import ConvergeAudit.OpenWorld.Texts
import Mathlib.Data.Bool.AllAny

/-!
`open_world.mbt`: a plan checkpoint commits to the audit policy and to a secret seed, the seal after it to the
registered encounters.
-/

namespace ConvergeAudit.OpenWorld
open Moon Bft Game Arithmetic

/-- A revealed epoch. The policy and the count were checked when it was revealed. -/
structure RevealedOpenWorldAuditEpoch where
  hasher : Hasher
  auditCheckpointDigest : Digest
  anchorSealCheckpointDigest : Digest
  eligibleAnchorRoot : Digest
  eligibleRegistryRoot : Digest
  observerManifestDigest : Digest
  registeredCount : ℤ
  authorityKey : PublicKey
  worldId : Str
  epoch : ℤ
  seed : Str
  sampleNumerator : ℤ
  sampleDenominator : ℤ
  policyValid : auditPolicyValid sampleNumerator sampleDenominator = true
  count_nonneg : 0 ≤ registeredCount

inductive OpenWorldAuditEpochRefusal where
  | invalidAuditPolicy
  | invalidAuditSeed
  | invalidGameManifest
  | invalidObserverManifest
  | missingAuditSeedCommitment
  | auditSeedCommitmentMismatch
  | auditManifestMismatch
  | auditSealAuthorityMismatch
  | auditSealSessionMismatch
  | auditSealEpochMismatch
  | auditSealParentMismatch
  | auditSealManifestMismatch
  | invalidEligibleAnchorRoot
  | invalidEligibleRegistryRoot
  | invalidRegisteredCount

inductive OpenWorldAuditEpochRevealResult where
  | auditEpochRevealed (epoch : RevealedOpenWorldAuditEpoch)
  | auditEpochRefused (refusal : OpenWorldAuditEpochRefusal)

def revealOpenWorldAuditEpoch (arith : Arithmetic) (hasher : Hasher) (verified anchorSeal : VerifiedCheckpoint)
    (gameManifestDigest observerManifestDigest : Digest) (sampleNumerator sampleDenominator registeredCount : ℤ)
    (seed : Str) : OpenWorldAuditEpochRevealResult :=
  let checkpoint := verified.checkpoint
  let sealed := anchorSeal.checkpoint
  if policy : auditPolicyValid sampleNumerator sampleDenominator ≠ true then .auditEpochRefused .invalidAuditPolicy
  else if gameManifestDigest.text = Str.empty then .auditEpochRefused .invalidGameManifest
  else if observerManifestDigest.text = Str.empty then .auditEpochRefused .invalidObserverManifest
  else if seed = Str.empty then .auditEpochRefused .invalidAuditSeed
  else if negative : registeredCount < 0 then .auditEpochRefused .invalidRegisteredCount
  else if checkpoint.manifestDigest ≠ openWorldAuditManifest hasher gameManifestDigest observerManifestDigest
      sampleNumerator sampleDenominator then
    .auditEpochRefused .auditManifestMismatch
  else if anchorSeal.authorityKey ≠ verified.authorityKey then .auditEpochRefused .auditSealAuthorityMismatch
  else if sealed.sessionId ≠ checkpoint.sessionId then .auditEpochRefused .auditSealSessionMismatch
  else if sealed.epoch ≠ arith.add checkpoint.epoch 1 then .auditEpochRefused .auditSealEpochMismatch
  else if sealed.previousCheckpoint ≠ verified.digest then .auditEpochRefused .auditSealParentMismatch
  else if sealed.manifestDigest ≠ openWorldAnchorSealManifest hasher checkpoint.manifestDigest registeredCount then
    .auditEpochRefused .auditSealManifestMismatch
  else if sealed.eventRoot.text = Str.empty then .auditEpochRefused .invalidEligibleAnchorRoot
  else if sealed.publicStateRoot.text = Str.empty then .auditEpochRefused .invalidEligibleRegistryRoot
  else match checkpoint.hiddenStateCommitment with
  | none => .auditEpochRefused .missingAuditSeedCommitment
  | some commitment =>
    if commitment ≠ openWorldAuditSeedCommitment hasher checkpoint.sessionId checkpoint.epoch seed then
      .auditEpochRefused .auditSeedCommitmentMismatch
    else .auditEpochRevealed
      { hasher := hasher
        auditCheckpointDigest := verified.digest
        anchorSealCheckpointDigest := anchorSeal.digest
        eligibleAnchorRoot := sealed.eventRoot
        eligibleRegistryRoot := sealed.publicStateRoot
        observerManifestDigest := observerManifestDigest
        registeredCount := registeredCount
        authorityKey := verified.authorityKey
        worldId := checkpoint.sessionId
        epoch := checkpoint.epoch
        seed := seed
        sampleNumerator := sampleNumerator
        sampleDenominator := sampleDenominator
        policyValid := not_not.mp policy
        count_nonneg := not_lt.mp negative }

theorem reveal_revealed (revealed : revealOpenWorldAuditEpoch arith hasher plan anchorSeal game observers numerator
    denominator count seed = .auditEpochRevealed epoch) :
    (∃ game, plan.checkpoint.manifestDigest = openWorldAuditManifest hasher game epoch.observerManifestDigest
      epoch.sampleNumerator epoch.sampleDenominator) ∧
    plan.checkpoint.hiddenStateCommitment = some (openWorldAuditSeedCommitment hasher plan.checkpoint.sessionId
      plan.checkpoint.epoch epoch.seed) ∧
    epoch.hasher = hasher ∧ epoch.authorityKey = plan.authorityKey ∧ epoch.worldId = plan.checkpoint.sessionId ∧
    epoch.epoch = plan.checkpoint.epoch := by
  unfold revealOpenWorldAuditEpoch at revealed
  simp only [dite_eq_iff, Lib.passes, ne_eq, reduceCtorEq, exists_false, false_or, not_false_eq_true, not_not] at revealed
  obtain ⟨_, -, -, -, _, manifest, -, -, -, -, -, -, -, revealed⟩ := revealed
  split at revealed
  · cases revealed
  rename_i commitment committed
  rw [Lib.passes (by simp), not_not] at revealed
  obtain ⟨rfl, revealed⟩ := revealed
  cases revealed
  exact ⟨⟨game, manifest⟩, committed, rfl, rfl, rfl, rfl⟩

namespace RevealedOpenWorldAuditEpoch

/-- The residue of a digest text that decides the sample; `%` of the source truncates. -/
def sampleBucket (arith : Arithmetic) (denominator : ℤ) (text : Str) : ℤ :=
  text.units.foldl (fun bucket unit => (arith.add (arith.mul bucket 33) unit.toNat).tmod denominator) 0

/-- The text that decides the sample. -/
def sampleDigest (self : RevealedOpenWorldAuditEpoch) (encounterAnchor : Digest) : Digest :=
  self.hasher.hashString ([lit "open-world-audit-sample-v1", self.seed, self.worldId, Str.ofInt self.epoch,
    self.authorityKey.text, encounterAnchor.text].foldl appendField Str.empty)

def selectsEncounter (arith : Arithmetic) (self : RevealedOpenWorldAuditEpoch) (encounterAnchor : Digest) : Bool :=
  if encounterAnchor.text = Str.empty ∨ self.sampleNumerator = 0 then false
  else if self.sampleNumerator = self.sampleDenominator then true
  else
    let digest := self.sampleDigest encounterAnchor
    sampleBucket arith self.sampleDenominator digest.text < self.sampleNumerator

/-- The code units as the digits of a number. -/
def base33 (text : Str) : ℤ := text.units.foldl (fun value unit => value * 33 + unit.toNat) 0

theorem foldl_bucket_exact {units : List UInt16} (positive : 0 < denominator)
    (fits : ∀ unit ∈ units, (denominator - 1) * 33 + (unit.toNat : ℤ) < 2 ^ 31) (value : ℤ) :
    units.foldl (fun bucket unit => (int32.add (int32.mul bucket 33) unit.toNat).tmod denominator)
      (value % denominator) =
      units.foldl (fun value unit => value * 33 + (unit.toNat : ℤ)) value % denominator := by
  induction units generalizing value with
  | nil => rfl
  | cons unit rest ih =>
    obtain ⟨here, later⟩ := List.forall_mem_cons.mp fits
    have low : 0 ≤ value % denominator := Int.emod_nonneg _ (by omega)
    have high : value % denominator < denominator := Int.emod_lt_of_pos _ positive
    have product : int32.mul (value % denominator) 33 = value % denominator * 33 :=
      exactInt32_int32.mul ⟨by omega, by omega⟩
    have sum : int32.add (value % denominator * 33) unit.toNat = value % denominator * 33 + unit.toNat :=
      int32_add_eq ⟨by omega, by omega⟩
    have residue : (value % denominator * 33 + unit.toNat).tmod denominator =
        (value * 33 + unit.toNat) % denominator := by
      rw [Int.tmod_eq_emod_of_nonneg (by omega), Int.add_emod, Int.mul_emod, Int.emod_emod, ← Int.mul_emod, ← Int.add_emod]
    rw [List.foldl_cons, List.foldl_cons, product, sum, residue, ih later]

section Exact

/-- The sample is the one that unbounded integers draw. A rate of nothing or everything is drawn without a bucket. -/
structure SampledExactly (epoch : RevealedOpenWorldAuditEpoch) (encounterAnchor : Digest) : Prop where
  selected : epoch.selectsEncounter .int32 encounterAnchor = true ↔
    base33 (epoch.sampleDigest encounterAnchor).text % epoch.sampleDenominator < epoch.sampleNumerator
  bucket : 0 < epoch.sampleNumerator → epoch.sampleNumerator < epoch.sampleDenominator →
    0 ≤ sampleBucket .int32 epoch.sampleDenominator (epoch.sampleDigest encounterAnchor).text ∧
      sampleBucket .int32 epoch.sampleDenominator (epoch.sampleDigest encounterAnchor).text < epoch.sampleDenominator

theorem policy (epoch : RevealedOpenWorldAuditEpoch) : 0 < epoch.sampleDenominator ∧ 0 ≤ epoch.sampleNumerator ∧
    epoch.sampleNumerator ≤ epoch.sampleDenominator := by
  simpa [auditPolicyValid, and_assoc] using epoch.policyValid

variable {epoch : RevealedOpenWorldAuditEpoch} {residue unit bound : ℕ}

theorem sampledExactly (anchored : encounterAnchor.text ≠ Str.empty)
    (fits : 0 < epoch.sampleNumerator → epoch.sampleNumerator < epoch.sampleDenominator →
      ∀ unit ∈ (epoch.sampleDigest encounterAnchor).text.units,
        (epoch.sampleDenominator - 1) * 33 + (unit.toNat : ℤ) < 2 ^ 31) : SampledExactly epoch encounterAnchor := by
  obtain ⟨positive, nonneg, below⟩ := epoch.policy
  have low := Int.emod_nonneg (base33 (epoch.sampleDigest encounterAnchor).text) positive.ne'
  have high := Int.emod_lt_of_pos (base33 (epoch.sampleDigest encounterAnchor).text) positive
  by_cases none : epoch.sampleNumerator = 0
  · exact ⟨by simp [selectsEncounter, none, low], by omega⟩
  by_cases all : epoch.sampleNumerator = epoch.sampleDenominator
  · exact ⟨by simp [selectsEncounter, anchored, all, high, positive.ne'], by omega⟩
  have bucket := foldl_bucket_exact positive (fits (by omega) (by omega)) 0
  rw [Int.zero_emod] at bucket
  refine ⟨?_, fun _ _ => by rw [sampleBucket, bucket]; exact ⟨low, high⟩⟩
  rw [selectsEncounter, if_neg (by simp [anchored, none]), if_neg all, decide_eq_true_eq, base33, ← bucket]
  rfl

/-- Every residue is the bucket of a text of small units. -/
theorem exists_bucket (below : (residue : ℤ) < denominator) (fits : residue < 2 ^ 31) :
    ∃ units : List UInt16, (∀ unit ∈ units, unit.toNat ≤ 32) ∧ sampleBucket .int32 denominator ⟨units⟩ = residue := by
  induction residue using Nat.strong_induction_on with
  | h residue ih =>
    by_cases zero : residue = 0
    · exact ⟨[], by simp, by simp [sampleBucket, zero]⟩
    obtain ⟨units, small, reached⟩ := ih (residue / 33) (by omega) (by omega) (by omega)
    have digit : (UInt16.ofNat (residue % 33)).toNat = residue % 33 := by
      rw [UInt16.toNat_ofNat']
      omega
    refine ⟨units ++ [UInt16.ofNat (residue % 33)], Lib.forall_mem_concat small (by omega), ?_⟩
    unfold sampleBucket at reached ⊢
    rw [List.foldl_concat, reached, digit, exactInt32_int32.mul ⟨by omega, by omega⟩, int32_add_eq ⟨by omega, by omega⟩,
      Int.tmod_eq_of_lt (by omega) (by omega)]
    omega

section Wrapped

variable (residue unit)
  (sampled : ∀ text : Str, (∀ unit ∈ text.units, unit.toNat ≤ bound) → 0 ≤ sampleBucket .int32 denominator text)
  (below : (residue : ℤ) < denominator) (wraps : 2 ^ 31 ≤ residue * 33 + unit)
  (near : residue * 33 < 2 ^ 32 - 2 ^ 16) (bounds : 34 ≤ bound ∧ bound < 2 ^ 16)

include sampled below wraps near bounds

/-- A bucket that is not negative though its last step has wrapped is zero. -/
theorem dvd_of_wrapped (within : unit ≤ bound) : denominator ∣ residue * 33 + unit - 2 ^ 32 := by
  obtain ⟨units, digits, reached⟩ := exists_bucket below (by omega)
  have code : (UInt16.ofNat unit).toNat = unit := by
    rw [UInt16.toNat_ofNat']
    omega
  have bucket := sampled ⟨units ++ [UInt16.ofNat unit]⟩
    (Lib.forall_mem_concat (fun unit member => (digits unit member).trans (by omega)) (by omega))
  have step : int32.add (int32.mul residue 33) unit = residue * 33 + unit - 2 ^ 32 := by
    dsimp only [int32, add, mul]
    rw [Int.bmod_add_bmod, ← Int.sub_bmod_right]
    exact Int.bmod_eq_of_le (by omega) (by omega)
  have negative := Int.tmod_nonneg (a := -(residue * 33 + unit - 2 ^ 32)) denominator (by omega)
  rw [Int.neg_tmod] at negative
  rw [sampleBucket, List.foldl_concat, ← sampleBucket, reached, code, step] at bucket
  exact Int.dvd_of_tmod_eq_zero (by omega)

/-- Two units in a row wrap at one residue, and a denominator above one does not divide both. -/
theorem not_wrapped_twice (within : unit + 1 ≤ bound) (several : 1 < denominator) : False := by
  have first := dvd_of_wrapped residue unit sampled below wraps near bounds (by omega)
  have second := dvd_of_wrapped residue (unit + 1) sampled below (by omega) near bounds within
  have one := Int.le_of_dvd one_pos ((Int.dvd_sub second first).trans (dvd_of_eq (by push_cast; omega)))
  omega

end Wrapped

/-- The sample of a rate strictly between nothing and everything is exact on every text with units up to the bound
exactly when no step of the fold leaves the machine range. -/
theorem sampling_exact_iff (epoch : RevealedOpenWorldAuditEpoch) (bound : ℕ) (bounds : 34 ≤ bound ∧ bound < 2 ^ 16) :
    (∀ hasher : Hasher, (∀ value, ∀ unit ∈ (hasher.hashString value).text.units, unit.toNat ≤ bound) →
      ∀ encounterAnchor : Digest, encounterAnchor.text ≠ Str.empty →
        SampledExactly { epoch with hasher := hasher } encounterAnchor) ↔
      epoch.sampleNumerator = 0 ∨ epoch.sampleNumerator = epoch.sampleDenominator ∨
        (epoch.sampleDenominator - 1) * 33 + bound < 2 ^ 31 := by
  constructor
  · intro exact
    by_contra! ⟨some, rest, wide⟩
    obtain ⟨positive, nonneg, below⟩ := epoch.policy
    have sampled : ∀ text : Str, (∀ unit ∈ text.units, unit.toNat ≤ bound) →
        0 ≤ sampleBucket .int32 epoch.sampleDenominator text := fun text within =>
      ((exact ⟨fun _ => ⟨text⟩⟩ (fun _ => within) ⟨"a"⟩ (by decide)).bucket (lt_of_le_of_ne nonneg some.symm)
        (lt_of_le_of_ne below rest)).1
    -- the first residue whose step with the largest unit leaves the range
    obtain ⟨residue, first⟩ : ∃ residue : ℕ, residue = (2 ^ 31 - bound + 32) / 33 := ⟨_, rfl⟩
    by_cases twice : 2 ^ 31 < residue * 33 + bound
    · exact not_wrapped_twice residue (bound - 1) sampled (by omega) (by omega) (by omega) bounds
        (by omega) (by omega)
    by_cases last : (residue : ℤ) + 1 < epoch.sampleDenominator
    · exact not_wrapped_twice (residue + 1) (bound - 1) sampled (by omega) (by omega) (by omega) bounds
        (by omega) (by omega)
    obtain ⟨quotient, product⟩ := dvd_of_wrapped residue bound sampled (by omega) (by omega) (by omega) bounds le_rfl
    -- the denominator is just above `2 ^ 31 / 33`, so no multiple of it is `2 ^ 31`
    rcases Int.lt_or_le quotient (-33) with far | near
    · have := Int.mul_le_mul_of_nonneg_left (Int.le_sub_one_of_lt far) positive.le
      omega
    · have := Int.mul_le_mul_of_nonneg_left near positive.le
      omega
  · intro fits hasher within encounterAnchor anchored
    exact sampledExactly anchored fun some rest unit member => by
      have := within _ unit member
      dsimp only at some rest ⊢
      omega

end Exact

end RevealedOpenWorldAuditEpoch

def Sample.epoch (anchorRoot registryRoot : Digest) : RevealedOpenWorldAuditEpoch where
  hasher := .identity
  auditCheckpointDigest := ⟨"plan"⟩
  anchorSealCheckpointDigest := ⟨"seal"⟩
  eligibleAnchorRoot := anchorRoot
  eligibleRegistryRoot := registryRoot
  observerManifestDigest := ⟨"observers"⟩
  registeredCount := 1
  authorityKey := ⟨"authority"⟩
  worldId := "world"
  epoch := 4
  seed := "seed"
  sampleNumerator := 0
  sampleDenominator := 1
  policyValid := by decide
  count_nonneg := by decide

/-- Half of the encounters of a log hashed to hexadecimal digits. -/
theorem RevealedOpenWorldAuditEpoch.sampling_exact_iff_one_half :
    let epoch := { Sample.epoch ⟨"r"⟩ ⟨"s"⟩ with sampleNumerator := 1, sampleDenominator := 2, policyValid := by decide }
    (34 ≤ 102 ∧ 102 < 2 ^ 16) ∧ SampledExactly { epoch with hasher := ⟨fun _ => ⟨"ffffff"⟩⟩ } ⟨"a"⟩ :=
  ⟨by decide, (sampling_exact_iff _ 102 (by decide)).mpr (by decide) ⟨fun _ => ⟨"ffffff"⟩⟩
    (fun _ => List.all_iff_forall_prop.mp (by rfl)) ⟨"a"⟩ (by decide)⟩

/-- With a denominator near the machine bound the product wraps: the bucket of the digest `ffffff` is negative, so the
encounter is selected at the lowest rate, though its residue is not below the numerator. -/
theorem RevealedOpenWorldAuditEpoch.sample_bucket_wraps :
    let epoch := { Sample.epoch ⟨"r"⟩ ⟨"s"⟩ with
      hasher := ⟨fun _ => ⟨"ffffff"⟩⟩, sampleNumerator := 1, sampleDenominator := 2147483647, policyValid := by decide }
    sampleBucket .int32 epoch.sampleDenominator (epoch.sampleDigest ⟨"a"⟩).text = -178413148 ∧
      epoch.selectsEncounter .int32 ⟨"a"⟩ = true ∧
      ¬base33 (epoch.sampleDigest ⟨"a"⟩).text % epoch.sampleDenominator < epoch.sampleNumerator := by
  decide +kernel

end ConvergeAudit.OpenWorld
