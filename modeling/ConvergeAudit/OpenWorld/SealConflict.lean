import ConvergeAudit.OpenWorld.Epoch
import ConvergeAudit.OpenWorld.Observation
import ConvergeAudit.Merkle.Inclusion
import ConvergeAudit.AuthMap.Proofs

/-!
An encounter of an epoch, signed by the authority or certified by observers, is held against the registry that the
authority sealed. Only dishonest seals can be accused.
-/

namespace ConvergeAudit.OpenWorld
open Moon Bft Game Merkle AuthMap

inductive OpenWorldSealConflictDecision where
  | registryTruncated
  | slotSubstituted
  | slotMissing
  | noConflict
  | invalidEvidence

inductive OpenWorldSealConflictKind where
  | truncatedRegistry
  | substitutedSlot
  | missingSlot

inductive OpenWorldSealConflictSource where
  | authoritySignedEncounter
  | observerQuorum

structure OpenWorldSealConflict where
  kind : OpenWorldSealConflictKind
  source : OpenWorldSealConflictSource
  auditCheckpointDigest : Digest
  sealCheckpointDigest : Digest
  encounterDigest : Digest
  registrationIndex : ℤ
  sealedEncounterDigest : Option Digest
  observerApprovalCount : Option ℤ

inductive OpenWorldSealConflictDetection where
  | sealConflictDetected (conflict : OpenWorldSealConflict)
  | sealConflictNotFound
  | sealConflictEvidenceInvalid
  | sealConflictBoundaryMismatch

def classifyOpenWorldSealConflict (encounterBoundaryMatches : Bool) (registrationIndex registeredCount : ℤ)
    (missingRegistrationPresent missingRegistrationMatches conflictingInclusionPresent conflictingInclusionMatches
      sealedDigestMatches : Bool) : OpenWorldSealConflictDecision :=
  if !encounterBoundaryMatches ∨ registrationIndex < 0 ∨ registeredCount < 0 then .invalidEvidence
  else if registrationIndex ≥ registeredCount then .registryTruncated
  else if missingRegistrationPresent && conflictingInclusionPresent then .invalidEvidence
  else if missingRegistrationPresent then
    if missingRegistrationMatches then .slotMissing else .invalidEvidence
  else if !conflictingInclusionPresent || !conflictingInclusionMatches then .invalidEvidence
  else if sealedDigestMatches then .noConflict
  else .slotSubstituted

def OpenWorldSealConflictDecision.accuses : OpenWorldSealConflictDecision → Bool
  | .registryTruncated | .slotSubstituted | .slotMissing => true
  | .noConflict | .invalidEvidence => false

/-- The optional arguments of the detect functions. -/
structure ConflictEvidence where
  missingRegistration : Option AuthMapAbsenceProof
  sealedEncounterDigest : Option Digest
  conflictingInclusion : Option MerkleProof

section
variable [StrOrder]

section
variable (hasher : Hasher) (auditEpoch : RevealedOpenWorldAuditEpoch)
  (registration : OpenWorldRegistrationCertificate)

def missingRegistrationMatches (registrationIndex : ℤ) : Option AuthMapAbsenceProof → Bool
  | some proof => proof.key == openWorldEncounterRegistrationKey registrationIndex &&
      verifyNonMembership hasher auditEpoch.eligibleRegistryRoot proof
  | none => false

def conflictingInclusionMatches (registrationIndex : ℤ) : Option Digest → Option MerkleProof → Bool
  | some sealedDigest, some proof => proof.leafIndex == registrationIndex &&
      proof.leafCount == auditEpoch.registeredCount &&
      verifyInclusion hasher (openWorldEncounterAnchorPayload registrationIndex sealedDigest)
        auditEpoch.eligibleAnchorRoot proof
  | _, _ => false

def detectOpenWorldSealConflictFacts (encounterDigest : Digest) (registrationIndex : ℤ) (boundaryMatches : Bool)
    (source : OpenWorldSealConflictSource) (observerApprovalCount : Option ℤ) (evidence : ConflictEvidence) :
    OpenWorldSealConflictDetection :=
  if !boundaryMatches then .sealConflictBoundaryMismatch
  else
    let conflict (kind : OpenWorldSealConflictKind) (sealedEncounterDigest : Option Digest) :
        OpenWorldSealConflictDetection :=
      .sealConflictDetected
        { kind := kind
          source := source
          auditCheckpointDigest := auditEpoch.auditCheckpointDigest
          sealCheckpointDigest := auditEpoch.anchorSealCheckpointDigest
          encounterDigest := encounterDigest
          registrationIndex := registrationIndex
          sealedEncounterDigest := sealedEncounterDigest
          observerApprovalCount := observerApprovalCount }
    match classifyOpenWorldSealConflict boundaryMatches registrationIndex auditEpoch.registeredCount
        evidence.missingRegistration.isSome
        (missingRegistrationMatches hasher auditEpoch registrationIndex evidence.missingRegistration)
        (evidence.sealedEncounterDigest.isSome && evidence.conflictingInclusion.isSome)
        (conflictingInclusionMatches hasher auditEpoch registrationIndex evidence.sealedEncounterDigest
          evidence.conflictingInclusion)
        (evidence.sealedEncounterDigest == some encounterDigest) with
    | .registryTruncated => conflict .truncatedRegistry none
    | .slotSubstituted => conflict .substitutedSlot evidence.sealedEncounterDigest
    | .slotMissing => conflict .missingSlot none
    | .noConflict => .sealConflictNotFound
    | .invalidEvidence => .sealConflictEvidenceInvalid

def encounterBoundaryMatches (encounter : VerifiedCheckpoint) : Bool :=
  encounter.authorityKey == auditEpoch.authorityKey &&
    encounter.checkpoint.previousCheckpoint == auditEpoch.auditCheckpointDigest

def detectOpenWorldSealConflict (encounter : VerifiedCheckpoint)
    (evidence : ConflictEvidence) : OpenWorldSealConflictDetection :=
  detectOpenWorldSealConflictFacts hasher auditEpoch encounter.digest encounter.checkpoint.epoch
    (encounterBoundaryMatches auditEpoch encounter) .authoritySignedEncounter none evidence

def registrationBoundaryMatches : Bool :=
  registration.auditCheckpointDigest == auditEpoch.auditCheckpointDigest &&
    registration.observerManifestDigest == auditEpoch.observerManifestDigest

def detectObservedOpenWorldSealConflict (evidence : ConflictEvidence) : OpenWorldSealConflictDetection :=
  detectOpenWorldSealConflictFacts hasher auditEpoch registration.encounterDigest registration.registrationIndex
    (registrationBoundaryMatches auditEpoch registration) .observerQuorum (some registration.approvalCount) evidence

end

omit [StrOrder] in
/-- Inside the registry one kind of proof has to be given, and it has to hold. -/
theorem classify_accuses_iff (counted : 0 ≤ count) :
    (classifyOpenWorldSealConflict boundary index count missing absent included holds same).accuses = true ↔
    boundary = true ∧ 0 ≤ index ∧
      (count ≤ index ∨ missing = true ∧ included = false ∧ absent = true ∨
        missing = false ∧ included = true ∧ holds = true ∧ same = false) := by
  cases boundary with
  | false => simp [classifyOpenWorldSealConflict, OpenWorldSealConflictDecision.accuses]
  | true =>
    unfold classifyOpenWorldSealConflict
    by_cases negative : index < 0
    · simp [negative, OpenWorldSealConflictDecision.accuses]
    rw [if_neg (by simp; omega)]
    by_cases beyond : index ≥ count
    · simp [beyond, not_lt.mp negative, OpenWorldSealConflictDecision.accuses]
    simp only [not_lt.mp negative, show ¬ count ≤ index from beyond, true_and, false_or]
    revert missing absent included holds same
    decide

theorem detected_iff_accuses :
    (∃ conflict, detectOpenWorldSealConflictFacts hasher auditEpoch encounterDigest registrationIndex boundaryMatches
      source observerApprovalCount evidence = .sealConflictDetected conflict) ↔
    boundaryMatches = true ∧ 0 ≤ registrationIndex ∧
      (auditEpoch.registeredCount ≤ registrationIndex ∨
        evidence.missingRegistration.isSome = true ∧
          (evidence.sealedEncounterDigest.isSome && evidence.conflictingInclusion.isSome) = false ∧
          missingRegistrationMatches hasher auditEpoch registrationIndex evidence.missingRegistration = true ∨
        evidence.missingRegistration.isSome = false ∧
          (evidence.sealedEncounterDigest.isSome && evidence.conflictingInclusion.isSome) = true ∧
          conflictingInclusionMatches hasher auditEpoch registrationIndex evidence.sealedEncounterDigest
            evidence.conflictingInclusion = true ∧
          (evidence.sealedEncounterDigest == some encounterDigest) = false) := by
  rw [← classify_accuses_iff auditEpoch.count_nonneg]
  cases boundaryMatches with
  | false => simp [detectOpenWorldSealConflictFacts, classifyOpenWorldSealConflict,
      OpenWorldSealConflictDecision.accuses]
  | true =>
    unfold detectOpenWorldSealConflictFacts
    rw [if_neg (by decide)]
    split <;> simp [OpenWorldSealConflictDecision.accuses, *]

omit [StrOrder] in
theorem conflictingInclusionMatches_iff :
    conflictingInclusionMatches hasher auditEpoch registrationIndex sealedDigest inclusion = true ↔
      ∃ digest proof, sealedDigest = some digest ∧ inclusion = some proof ∧ proof.leafIndex = registrationIndex ∧
        proof.leafCount = auditEpoch.registeredCount ∧
        verifyInclusion hasher (openWorldEncounterAnchorPayload registrationIndex digest)
          auditEpoch.eligibleAnchorRoot proof = true := by
  cases sealedDigest <;> cases inclusion <;> simp [conflictingInclusionMatches, and_assoc]

theorem missingRegistrationMatches_iff :
    missingRegistrationMatches hasher auditEpoch registrationIndex missing = true ↔
      ∃ proof, missing = some proof ∧ proof.key = openWorldEncounterRegistrationKey registrationIndex ∧
        verifyNonMembership hasher auditEpoch.eligibleRegistryRoot proof = true := by
  cases missing <;> simp [missingRegistrationMatches]

end

def anchorPayloads (digests : List Digest) : List Str :=
  digests.mapIdx fun slot digest => openWorldEncounterAnchorPayload slot digest

def anchorTree (hasher : Hasher) (digests : List Digest) : MerkleTree := .build hasher (anchorPayloads digests)

theorem length_anchorPayloads (digests : List Digest) : (anchorPayloads digests).length = digests.length := by
  simp [anchorPayloads]

theorem getElem?_anchorPayloads (digests : List Digest) (slot : ℕ) :
    (anchorPayloads digests)[slot]? = digests[slot]?.map (openWorldEncounterAnchorPayload slot) := by
  simp [anchorPayloads]

theorem anchorTree_proof (lower : 0 ≤ slot) (inside : slot < digests.length) :
    ∃ digest proof, digests[slot.toNat]? = some digest ∧ (anchorTree hasher digests).proof slot = some proof ∧
      proof.leafIndex = slot ∧ proof.leafCount = digests.length ∧
      verifyInclusion hasher (openWorldEncounterAnchorPayload slot digest) (anchorTree hasher digests).root proof =
        true := by
  have within : slot.toNat < (anchorPayloads digests).length := by
    rw [length_anchorPayloads]
    omega
  have position := Int.toNat_of_nonneg lower
  obtain ⟨digest, held⟩ : ∃ digest, digests[slot.toNat]? = some digest :=
    ⟨_, List.getElem?_eq_getElem (by rwa [length_anchorPayloads] at within)⟩
  have payload : (anchorPayloads digests)[slot.toNat] = openWorldEncounterAnchorPayload slot digest := by
    have found := getElem?_anchorPayloads digests slot.toNat
    rw [held, List.getElem?_eq_getElem within, Option.map_some, Option.some_inj, position] at found
    exact found
  obtain ⟨proof, made, accepted⟩ := verifyInclusion_proof hasher within
  rw [position] at made
  rw [payload] at accepted
  have shape := MerkleTree.proof_build hasher (anchorPayloads digests) lower (by omega)
  rw [made, Option.some_inj] at shape
  refine ⟨digest, proof, held, made, ?_, ?_, accepted⟩
  · rw [shape]
  · rw [shape, length_anchorPayloads]

section
variable [StrOrder]

/-- The seal of the epoch is over these digests, slot by slot, and this registry. -/
structure Seals (hasher : Hasher) (auditEpoch : RevealedOpenWorldAuditEpoch) (digests : List Digest)
    (registry : AuthenticatedMap) : Prop where
  count : auditEpoch.registeredCount = digests.length
  anchors : auditEpoch.eligibleAnchorRoot = (anchorTree hasher digests).root
  registered : auditEpoch.eligibleRegistryRoot = registry.root
  reachable : Reachable hasher registry

/-- The seal does not have `digest` at the slot: it ends before, holds another digest, or has not registered the slot. -/
def Misrecorded (digests : List Digest) (registry : AuthenticatedMap) (slot : ℤ) (digest : Digest) : Prop :=
  (digests.length : ℤ) ≤ slot ∨ slot < digests.length ∧ digests[slot.toNat]? ≠ some digest ∨
    slot < digests.length ∧ registry.get (openWorldEncounterRegistrationKey slot) = none

/-- Evidence that anyone with the tree and the registry can produce. -/
structure ConflictEvidence.Obtainable (hasher : Hasher) (digests : List Digest) (registry : AuthenticatedMap) (slot : ℤ)
    (evidence : ConflictEvidence) : Prop where
  missing : evidence.missingRegistration = none ∨
    evidence.missingRegistration = registry.absenceProof (openWorldEncounterRegistrationKey slot)
  sealed : evidence.sealedEncounterDigest = none ∨ evidence.sealedEncounterDigest = digests[slot.toNat]?
  inclusion : evidence.conflictingInclusion = none ∨
    evidence.conflictingInclusion = (anchorTree hasher digests).proof slot

/-- A seal that registers every slot is accused only for what it does not hold. -/
theorem Seals.accused (collisionFree : hasher.CollisionFree) (seals : Seals hasher auditEpoch digests registry)
    (registered : ∀ index : ℕ, index < digests.length →
      (registry.get (openWorldEncounterRegistrationKey index)).isSome = true)
    (detected : ∃ conflict, detectOpenWorldSealConflictFacts hasher auditEpoch encounterDigest slot boundaryMatches
      source observerApprovalCount evidence = .sealConflictDetected conflict) :
    (digests.length : ℤ) ≤ slot ∨ digests[slot.toNat]? ≠ some encounterDigest := by
  obtain ⟨_, lower, beyond | ⟨_, _, absent⟩ | ⟨_, _, holds, other⟩⟩ := detected_iff_accuses.mp detected
  · rw [seals.count] at beyond
    exact Or.inl beyond
  · obtain ⟨proof, _, sameKey, accepted⟩ := missingRegistrationMatches_iff.mp absent
    by_cases inside : slot.toNat < digests.length
    · -- an accepted absence proof contradicts the registry
      have present := registered slot.toNat inside
      obtain ⟨treap, rfl⟩ := seals.reachable.treap
      rw [seals.registered] at accepted
      have missing := verifyNonMembership_sound treap collisionFree accepted
      rw [sameKey, show slot = (slot.toNat : ℤ) by omega] at missing
      rw [missing] at present
      cases present
    · exact Or.inl (by omega)
  · obtain ⟨sealedDigest, proof, given, _, position, _, accepted⟩ := conflictingInclusionMatches_iff.mp holds
    rw [seals.anchors, anchorTree] at accepted
    obtain ⟨_, _, _, leaf, _⟩ := verifyInclusion_sound collisionFree accepted
    rw [position, getElem?_anchorPayloads] at leaf
    obtain ⟨digest, found, samePayload⟩ := Option.map_eq_some_iff.mp leaf
    obtain ⟨_, rfl⟩ := openWorldEncounterAnchorPayload_inj samePayload
    rw [given, beq_eq_false_iff_ne] at other
    rw [found]
    exact Or.inr other

/-- Whatever the seal gets wrong can be shown from the tree or from the registry. -/
theorem Seals.accusable (seals : Seals hasher auditEpoch digests registry) (bound : boundaryMatches = true)
    (lower : 0 ≤ slot) (wrong : Misrecorded digests registry slot encounterDigest) :
    ∃ evidence : ConflictEvidence, evidence.Obtainable hasher digests registry slot ∧
      ∃ conflict, detectOpenWorldSealConflictFacts hasher auditEpoch encounterDigest slot boundaryMatches source
        observerApprovalCount evidence = .sealConflictDetected conflict := by
  rcases wrong with beyond | ⟨inside, different⟩ | ⟨_, missing⟩
  · refine ⟨⟨none, none, none⟩, ⟨Or.inl rfl, Or.inl rfl, Or.inl rfl⟩, detected_iff_accuses.mpr ⟨bound, lower, Or.inl ?_⟩⟩
    rw [seals.count]
    exact beyond
  · obtain ⟨digest, proof, held, made, position, counted, accepted⟩ := anchorTree_proof lower inside
    refine ⟨⟨none, some digest, some proof⟩, ⟨Or.inl rfl, Or.inr held.symm, Or.inr made.symm⟩,
      detected_iff_accuses.mpr ⟨bound, lower, Or.inr (Or.inr ⟨rfl, rfl, ?_, ?_⟩)⟩⟩
    · apply conflictingInclusionMatches_iff.mpr
      rw [seals.anchors, seals.count]
      exact ⟨digest, proof, rfl, rfl, position, counted, accepted⟩
    · rw [beq_eq_false_iff_ne, ← held]
      exact different
  · obtain ⟨treap, rfl⟩ := seals.reachable.treap
    obtain ⟨⟨proof, made, sameKey, accepted⟩, _⟩ := absenceProof_complete treap missing
    refine ⟨⟨some proof, none, none⟩, ⟨Or.inr made.symm, Or.inl rfl, Or.inl rfl⟩,
      detected_iff_accuses.mpr ⟨bound, lower, Or.inr (Or.inl ⟨rfl, rfl, ?_⟩)⟩⟩
    apply missingRegistrationMatches_iff.mpr
    rw [seals.registered]
    exact ⟨proof, rfl, sameKey, accepted⟩

/-- Accusations from an authority's encounter or an observer certificate are never false, and always available. -/
theorem seal_conflicts_sound_and_complete {hasher : Hasher} (collisionFree : hasher.CollisionFree)
    {auditEpoch : RevealedOpenWorldAuditEpoch} {digests : List Digest} {registry : AuthenticatedMap}
    (seals : Seals hasher auditEpoch digests registry) :
    ((∀ index : ℕ, index < digests.length →
        (registry.get (openWorldEncounterRegistrationKey index)).isSome = true) →
      (∀ encounter evidence conflict, 0 ≤ encounter.checkpoint.epoch →
        detectOpenWorldSealConflict hasher auditEpoch encounter evidence = .sealConflictDetected conflict →
        (digests.length : ℤ) ≤ encounter.checkpoint.epoch ∨
          digests[encounter.checkpoint.epoch.toNat]? ≠ some encounter.digest) ∧
      (∀ registration evidence conflict, 0 ≤ registration.registrationIndex →
        detectObservedOpenWorldSealConflict hasher auditEpoch registration evidence = .sealConflictDetected conflict →
        (digests.length : ℤ) ≤ registration.registrationIndex ∨
          digests[registration.registrationIndex.toNat]? ≠ some registration.encounterDigest)) ∧
    (∀ encounter, encounterBoundaryMatches auditEpoch encounter = true → 0 ≤ encounter.checkpoint.epoch →
      Misrecorded digests registry encounter.checkpoint.epoch encounter.digest →
      ∃ evidence : ConflictEvidence, evidence.Obtainable hasher digests registry encounter.checkpoint.epoch ∧
        ∃ conflict, detectOpenWorldSealConflict hasher auditEpoch encounter evidence = .sealConflictDetected conflict) ∧
    (∀ registration, registrationBoundaryMatches auditEpoch registration = true → 0 ≤ registration.registrationIndex →
      Misrecorded digests registry registration.registrationIndex registration.encounterDigest →
      ∃ evidence : ConflictEvidence, evidence.Obtainable hasher digests registry registration.registrationIndex ∧
        ∃ conflict, detectObservedOpenWorldSealConflict hasher auditEpoch registration evidence =
          .sealConflictDetected conflict) := by
  refine ⟨fun registered => ⟨?_, ?_⟩, ?_, ?_⟩
  · intro encounter evidence conflict _ detected
    exact seals.accused collisionFree registered ⟨conflict, detected⟩
  · intro registration evidence conflict _ detected
    exact seals.accused collisionFree registered ⟨conflict, detected⟩
  · intro encounter bound lower wrong
    exact seals.accusable bound lower wrong
  · intro registration bound lower wrong
    exact seals.accusable bound lower wrong

end

section
open Shortlex

namespace Sample

def registry : AuthenticatedMap :=
  (((AuthenticatedMap.new .identity).put (openWorldEncounterRegistrationKey 0) "registered").1.put
    (openWorldEncounterRegistrationKey 1) "registered").1

def sealedDigests : List Digest := [⟨"first"⟩, ⟨"second"⟩]

def twoSlotEpoch : RevealedOpenWorldAuditEpoch :=
  { epoch (anchorTree .identity sealedDigests).root registry.root with registeredCount := 2, count_nonneg := by decide }

def observed (slot : ℤ) (encounterDigest : Digest) : OpenWorldRegistrationCertificate :=
  ⟨⟨"plan"⟩, ⟨"observers"⟩, slot, encounterDigest, 4, 1, 3⟩

theorem twoSlotEpoch_seals : Seals .identity twoSlotEpoch sealedDigests registry where
  count := rfl
  anchors := rfl
  registered := rfl
  reachable := ⟨[.put 0 (openWorldEncounterRegistrationKey 0) "registered",
    .put 0 (openWorldEncounterRegistrationKey 1) "registered"], List.mem_singleton_self _⟩

end Sample

open Sample in
/-- The second encounter cannot be turned against the seal at its own slot, the first one can at the second slot. -/
theorem seal_conflicts_sound_and_complete_two_slots :
    (∀ evidence conflict, detectObservedOpenWorldSealConflict .identity twoSlotEpoch (observed 1 ⟨"second"⟩) evidence ≠
      .sealConflictDetected conflict) ∧
    ∃ evidence conflict, detectObservedOpenWorldSealConflict .identity twoSlotEpoch (observed 1 ⟨"first"⟩) evidence =
      .sealConflictDetected conflict := by
  obtain ⟨sound, _, complete⟩ := seal_conflicts_sound_and_complete Hasher.identity_collisionFree twoSlotEpoch_seals
  constructor
  · intro evidence conflict detected
    have registered : ∀ index < sealedDigests.length,
        (registry.get (openWorldEncounterRegistrationKey index)).isSome = true := by decide +kernel
    rcases (sound registered).2 (observed 1 ⟨"second"⟩) evidence conflict (by decide) detected with beyond | other
    · exact absurd beyond (by decide)
    · exact other rfl
  · obtain ⟨evidence, _, conflict, detected⟩ := complete (observed 1 ⟨"first"⟩) (by decide) (by decide)
      (Or.inr (Or.inl ⟨by decide, by decide⟩))
    exact ⟨evidence, conflict, detected⟩

end

end ConvergeAudit.OpenWorld
