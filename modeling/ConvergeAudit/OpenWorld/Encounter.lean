import ConvergeAudit.OpenWorld.Epoch
import ConvergeAudit.Merkle.Inclusion

/-!
`evaluate_open_world_encounter`: a registered encounter is accepted from a peer certificate or from a central replay,
or has to wait.
-/

namespace ConvergeAudit.OpenWorld
open Moon Bft Game Merkle

inductive OpenWorldOutcomeClass where
  | ephemeral
  | durable
  | tradable
  | highValue
  deriving DecidableEq

inductive OpenWorldAuditDecision where
  | peerAccepted
  | centralAccepted
  | provisional
  | centralReplayRequired
  | rejected
  deriving DecidableEq

inductive OpenWorldEncounterGateResult where
  | encounterPeerFinalized (finalized : FinalizedCheckpoint)
  | encounterCentralFinalized (finalized : FinalizedCheckpoint)
  | encounterProvisional
  | encounterCentralReplayRequired
  | encounterRejected
  | encounterInvalidAnchor
  | encounterAnchorNotCommitted
  | encounterEpochAuthorityMismatch
  | encounterEpochParentMismatch
  | encounterEvidenceMismatch
  | encounterInvalidRegistrationIndex
  deriving DecidableEq

def routeOpenWorldAudit (outcomeClass : OpenWorldOutcomeClass) (peerCertificateMatches challengePresent sampleSelected
    centralReplayPresent centralReplayMatches : Bool) : OpenWorldAuditDecision :=
  if centralReplayPresent then
    if centralReplayMatches then .centralAccepted else .rejected
  else
    let economic := match outcomeClass with
      | .ephemeral => false
      | .durable | .tradable | .highValue => true
    let mandatory := match outcomeClass with
      | .highValue => true
      | .ephemeral | .durable | .tradable => false
    let centralRequired := challengePresent || sampleSelected || mandatory || (economic && !peerCertificateMatches)
    if centralRequired then .centralReplayRequired
    else if peerCertificateMatches then .peerAccepted
    else .provisional

def peerCertificateMatches (certificate : Option WitnessReplayCertificate) (encounter : VerifiedCheckpoint) : Bool :=
  match certificate with
  | none => false
  | some value => value.checkpointDigest == encounter.digest && value.refereeKey == encounter.authorityKey

def centralReplayMatches (replay : Option CheckpointReplayMatch) (encounter : VerifiedCheckpoint) : Bool :=
  match replay with
  | none => false
  | some value => value.checkpointDigest == encounter.digest && value.authorityKey == encounter.authorityKey

def encounterEvidenceCollector (hasher : Hasher) (verifier : Verifier) (encounter : VerifiedCheckpoint)
    (participantEvidence : Option EvidenceCollector) : EvidenceCollector :=
  match participantEvidence with
  | some value => value
  | none => .new hasher verifier (prepareCheckpoint hasher encounter.checkpoint) []

structure Submission where
  encounter : VerifiedCheckpoint
  eligibilityProof : MerkleProof
  outcomeClass : OpenWorldOutcomeClass
  peerCertificate : Option WitnessReplayCertificate
  centralReplay : Option CheckpointReplayMatch
  participantEvidence : Option EvidenceCollector

namespace Submission

def challenged (submission : Submission) : Bool :=
  match submission.participantEvidence with
  | none => false
  | some evidence => evidence.evidence.challenged

def decision (arith : Arithmetic) (auditEpoch : RevealedOpenWorldAuditEpoch) (submission : Submission) :
    OpenWorldAuditDecision :=
  routeOpenWorldAudit submission.outcomeClass (peerCertificateMatches submission.peerCertificate submission.encounter)
    submission.challenged (auditEpoch.selectsEncounter arith submission.encounter.digest)
    submission.centralReplay.isSome (centralReplayMatches submission.centralReplay submission.encounter)

/-- The last `match` of the gate: a decision is carried out by the evidence collector. -/
def settle (hasher : Hasher) (verifier : Verifier) (submission : Submission) :
    OpenWorldAuditDecision → OpenWorldEncounterGateResult
  | .peerAccepted =>
    match submission.peerCertificate with
    | some certificate =>
      match (encounterEvidenceCollector hasher verifier submission.encounter submission.participantEvidence).finalize
          submission.encounter 0 none (some certificate) with
      | .ready finalized => .encounterPeerFinalized finalized
      | _ => .encounterRejected
    | none => .encounterRejected
  | .centralAccepted =>
    match submission.centralReplay with
    | some replay =>
      match (encounterEvidenceCollector hasher verifier submission.encounter submission.participantEvidence).finalize
          submission.encounter 0 (some replay) none with
      | .ready finalized => .encounterCentralFinalized finalized
      | _ => .encounterRejected
    | none => .encounterRejected
  | .provisional => .encounterProvisional
  | .centralReplayRequired => .encounterCentralReplayRequired
  | .rejected => .encounterRejected

end Submission

def evaluateOpenWorldEncounter (arith : Arithmetic) (hasher : Hasher) (verifier : Verifier)
    (auditEpoch : RevealedOpenWorldAuditEpoch) (submission : Submission) : OpenWorldEncounterGateResult :=
  let encounter := submission.encounter
  let encounterAnchor := encounter.digest
  let registrationIndex := encounter.checkpoint.epoch
  let eligibilityProof := submission.eligibilityProof
  if encounterAnchor.text = Str.empty then .encounterInvalidAnchor
  else if encounter.authorityKey ≠ auditEpoch.authorityKey then .encounterEpochAuthorityMismatch
  else if encounter.checkpoint.previousCheckpoint ≠ auditEpoch.auditCheckpointDigest then .encounterEpochParentMismatch
  else if registrationIndex < 0 ∨ registrationIndex ≥ auditEpoch.registeredCount then
    .encounterInvalidRegistrationIndex
  else if eligibilityProof.leafIndex ≠ registrationIndex ∨ eligibilityProof.leafCount ≠ auditEpoch.registeredCount then
    .encounterAnchorNotCommitted
  else if !verifyInclusion hasher (openWorldEncounterAnchorPayload registrationIndex encounterAnchor)
      auditEpoch.eligibleAnchorRoot eligibilityProof then
    .encounterAnchorNotCommitted
  else match submission.participantEvidence with
  | some evidence =>
    if evidence.checkpointDigest ≠ encounter.digest then .encounterEvidenceMismatch
    else submission.settle hasher verifier (submission.decision arith auditEpoch)
  | none => submission.settle hasher verifier (submission.decision arith auditEpoch)

/-- The answers that leave the slot to the encounter: accepted, or waiting for a replay. -/
def OpenWorldEncounterGateResult.admits : OpenWorldEncounterGateResult → Bool
  | .encounterPeerFinalized _ | .encounterCentralFinalized _ | .encounterProvisional
  | .encounterCentralReplayRequired => true
  | _ => false

theorem peerCertificateMatches_iff :
    peerCertificateMatches certificate encounter = true ↔
      ∃ value, certificate = some value ∧ value.checkpointDigest = encounter.digest ∧
        value.refereeKey = encounter.authorityKey := by
  cases certificate <;> simp [peerCertificateMatches]

theorem centralReplayMatches_iff :
    centralReplayMatches replay encounter = true ↔
      ∃ value, replay = some value ∧ value.checkpointDigest = encounter.digest ∧
        value.authorityKey = encounter.authorityKey := by
  cases replay <;> simp [centralReplayMatches]

/-- Over all flags: a peer certificate alone is enough only for an encounter that nothing escalates. -/
theorem routeOpenWorldAudit_peer : ∀ peer challenge sample present central,
    routeOpenWorldAudit outcomeClass peer challenge sample present central = .peerAccepted →
      challenge = false ∧ sample = false ∧ outcomeClass ≠ .highValue ∧ peer = true := by
  cases outcomeClass <;> decide

theorem routeOpenWorldAudit_central : ∀ peer challenge sample present central,
    routeOpenWorldAudit outcomeClass peer challenge sample present central = .centralAccepted → central = true := by
  cases outcomeClass <;> decide

section
variable {submission : Submission}

theorem settle_finalized :
    (submission.settle hasher verifier decision = .encounterPeerFinalized finalized → decision = .peerAccepted) ∧
    (submission.settle hasher verifier decision = .encounterCentralFinalized finalized → decision = .centralAccepted) := by
  constructor <;> fun_cases Submission.settle hasher verifier submission decision <;> simp

theorem evaluate_admits (admitted : (evaluateOpenWorldEncounter arith hasher verifier auditEpoch submission).admits = true) :
    submission.eligibilityProof.leafIndex = submission.encounter.checkpoint.epoch ∧
    verifyInclusion hasher (openWorldEncounterAnchorPayload submission.encounter.checkpoint.epoch
      submission.encounter.digest) auditEpoch.eligibleAnchorRoot submission.eligibilityProof = true ∧
    evaluateOpenWorldEncounter arith hasher verifier auditEpoch submission =
      submission.settle hasher verifier (submission.decision arith auditEpoch) := by
  unfold evaluateOpenWorldEncounter at admitted ⊢
  dsimp only at admitted ⊢
  iterate 6
    split at admitted
    · cases admitted
  rename_i anchored sameAuthority sameParent inRange samePosition included
  rw [if_neg anchored, if_neg sameAuthority, if_neg sameParent, if_neg inRange, if_neg samePosition, if_neg included]
  rw [Bool.not_not_eq] at included
  rw [not_or, not_not] at samePosition
  refine ⟨samePosition.1, included, ?_⟩
  cases given : submission.participantEvidence with
  | none => rfl
  | some evidence =>
    rw [given] at admitted
    dsimp only at admitted ⊢
    split at admitted
    · cases admitted
    rename_i sameEncounter
    rw [if_neg sameEncounter]

/-- One slot admits one encounter, and an encounter is finalized only on the evidence that its route asks for. -/
theorem slots_admit_one_encounter (collisionFree : hasher.CollisionFree) (arith : Arithmetic) (verifier : Verifier)
    (auditEpoch : RevealedOpenWorldAuditEpoch) :
    (∀ submission other : Submission,
      (evaluateOpenWorldEncounter arith hasher verifier auditEpoch submission).admits = true →
      (evaluateOpenWorldEncounter arith hasher verifier auditEpoch other).admits = true →
      submission.encounter.checkpoint.epoch = other.encounter.checkpoint.epoch →
      submission.encounter.digest = other.encounter.digest) ∧
    (∀ submission finalized,
      evaluateOpenWorldEncounter arith hasher verifier auditEpoch submission = .encounterPeerFinalized finalized →
      (∀ evidence, submission.participantEvidence = some evidence → evidence.evidence.challenged = false) ∧
      auditEpoch.selectsEncounter arith submission.encounter.digest = false ∧
      submission.outcomeClass ≠ .highValue ∧
      ∃ certificate, submission.peerCertificate = some certificate ∧
        certificate.checkpointDigest = submission.encounter.digest ∧
        certificate.refereeKey = submission.encounter.authorityKey) ∧
    (∀ submission finalized,
      evaluateOpenWorldEncounter arith hasher verifier auditEpoch submission = .encounterCentralFinalized finalized →
      ∃ replay, submission.centralReplay = some replay ∧
        replay.checkpointDigest = submission.encounter.digest ∧
        replay.authorityKey = submission.encounter.authorityKey) := by
  refine ⟨?_, ?_, ?_⟩
  · intro submission other admitted otherAdmitted sameSlot
    obtain ⟨position, included, _⟩ := evaluate_admits admitted
    obtain ⟨otherPosition, otherIncluded, _⟩ := evaluate_admits otherAdmitted
    have samePosition := position.trans (sameSlot.trans otherPosition.symm)
    have payloads := verifyInclusion_unique collisionFree included otherIncluded samePosition
    exact (openWorldEncounterAnchorPayload_inj payloads).2
  · intro submission finalized answered
    obtain ⟨_, _, settled⟩ := evaluate_admits (congrArg OpenWorldEncounterGateResult.admits answered)
    obtain ⟨calm, unselected, ordinary, certified⟩ :=
      routeOpenWorldAudit_peer _ _ _ _ _ (settle_finalized.1 (settled.symm.trans answered))
    refine ⟨?_, unselected, ordinary, peerCertificateMatches_iff.mp certified⟩
    intro evidence given
    rw [Submission.challenged, given] at calm
    exact calm
  · intro submission finalized answered
    obtain ⟨_, _, settled⟩ := evaluate_admits (congrArg OpenWorldEncounterGateResult.admits answered)
    have accepted := routeOpenWorldAudit_central _ _ _ _ _ (settle_finalized.2 (settled.symm.trans answered))
    exact centralReplayMatches_iff.mp accepted

end

namespace Sample

def encounter (signature : Str) : VerifiedCheckpoint where
  signed := signCheckpoint .identity ⟨fun _ => ⟨signature⟩, ⟨"authority"⟩⟩
    { sessionId := "world"
      epoch := 0
      previousCheckpoint := ⟨"plan"⟩
      manifestDigest := ⟨"game"⟩
      eventRoot := ⟨"events"⟩
      publicStateRoot := ⟨"state"⟩
      assetDeltaRoot := ⟨"assets"⟩
      hiddenStateCommitment := none }

def sealedEpoch : RevealedOpenWorldAuditEpoch :=
  epoch (hashRoot .identity 1 (hashLeaf .identity (openWorldEncounterAnchorPayload 0 (encounter "first").digest)))
    ⟨"registry"⟩

def waiting : Submission := ⟨encounter "first", ⟨0, 1, []⟩, .ephemeral, none, none, none⟩

def witnessed : Submission :=
  ⟨encounter "second", ⟨0, 1, []⟩, .tradable, some ⟨(encounter "second").digest, ⟨"authority"⟩, 4, 1, 3⟩, none, none⟩

end Sample

open Sample in
theorem slots_admit_one_encounter_sample :
    evaluateOpenWorldEncounter .int32 .identity ⟨fun _ _ _ => true⟩ sealedEpoch waiting = .encounterProvisional ∧
    evaluateOpenWorldEncounter .int32 .identity ⟨fun _ _ _ => true⟩ sealedEpoch witnessed =
      .encounterPeerFinalized ⟨encounter "second"⟩ ∧
    waiting.encounter.digest = witnessed.encounter.digest := by
  have waits : evaluateOpenWorldEncounter .int32 .identity ⟨fun _ _ _ => true⟩ sealedEpoch waiting =
      .encounterProvisional := by decide +kernel
  have finalizes : evaluateOpenWorldEncounter .int32 .identity ⟨fun _ _ _ => true⟩ sealedEpoch witnessed =
      .encounterPeerFinalized ⟨encounter "second"⟩ := by decide +kernel
  have unique := (slots_admit_one_encounter Hasher.identity_collisionFree .int32 ⟨fun _ _ _ => true⟩ sealedEpoch).1
  exact ⟨waits, finalizes, unique waiting witnessed (by rw [waits]; rfl) (by rw [finalizes]; rfl) rfl⟩

/-- The epoch can be revealed from a plan that verifies under the authority. -/
def Reveals (arith : Arithmetic) (hasher : Hasher) (verifier : Verifier) (authority : PublicKey)
    (plan : SignedCheckpoint) (epoch : RevealedOpenWorldAuditEpoch) : Prop :=
  ∃ verified anchorSeal game observers numerator denominator count seed,
    openCheckpoint hasher verifier authority plan = .opened verified ∧
    revealOpenWorldAuditEpoch arith hasher verified anchorSeal game observers numerator denominator count seed =
      .auditEpochRevealed epoch

/-- The plan fixes the sample before an encounter is registered. Whatever is revealed from plans with one digest under
one authority draws one sample, so no other seed or rate gets a drawn encounter past its replay. -/
theorem plan_fixes_the_sample (arith : Arithmetic) (hasher : Hasher) (injective : hasher.CollisionFree)
    (verifier : Verifier) (authority : PublicKey) (plan plan' : SignedCheckpoint)
    (epoch epoch' : RevealedOpenWorldAuditEpoch) (revealed : Reveals arith hasher verifier authority plan epoch)
    (revealed' : Reveals arith hasher verifier authority plan' epoch') (digests : plan.digest = plan'.digest) :
    epoch.seed = epoch'.seed ∧ epoch.observerManifestDigest = epoch'.observerManifestDigest ∧
    (∀ anchor, epoch.selectsEncounter arith anchor = epoch'.selectsEncounter arith anchor) ∧
    ∀ submission finalized, epoch.selectsEncounter arith submission.encounter.digest = true →
      evaluateOpenWorldEncounter arith hasher verifier epoch' submission ≠ .encounterPeerFinalized finalized := by
  obtain ⟨_, _, _, _, _, _, _, _, opened, made⟩ := revealed
  obtain ⟨_, _, _, _, _, _, _, _, opened', made'⟩ := revealed'
  obtain ⟨rfl, verified, signer⟩ := openCheckpoint_opened opened
  obtain ⟨rfl, verified', signer'⟩ := openCheckpoint_opened opened'
  have plans : plan.checkpoint = plan'.checkpoint := verifyCheckpoint_inj injective verified verified' digests
  obtain ⟨⟨_, policy⟩, commitment, hashers, key, world, number⟩ := reveal_revealed made
  obtain ⟨⟨_, policy'⟩, commitment', hashers', key', world', number'⟩ := reveal_revealed made'
  simp only [VerifiedCheckpoint.checkpoint, VerifiedCheckpoint.authorityKey, plans, signer, signer'] at *
  have policies := foldl_appendField_inj (injective (policy.symm.trans policy'))
  have seeds := foldl_appendField_inj (injective (Option.some.inj (commitment.symm.trans commitment')))
  simp only [List.cons.injEq, Str.ofInt_inj, Digest.text_inj, true_and, and_true] at policies seeds
  obtain ⟨-, observers, numerators, denominators⟩ := policies
  have sample : ∀ anchor, epoch.selectsEncounter arith anchor = epoch'.selectsEncounter arith anchor := by
    intro anchor
    simp only [RevealedOpenWorldAuditEpoch.selectsEncounter, RevealedOpenWorldAuditEpoch.sampleDigest, hashers,
      hashers', seeds, world, world', number, number', key, key', numerators, denominators]
  refine ⟨seeds, observers, sample, fun submission finalized drawn answered => ?_⟩
  obtain ⟨-, -, settled⟩ := evaluate_admits (congrArg OpenWorldEncounterGateResult.admits answered)
  obtain ⟨-, unselected, -⟩ := routeOpenWorldAudit_peer _ _ _ _ _ (settle_finalized.1 (settled.symm.trans answered))
  rw [← sample, drawn] at unselected
  cases unselected

def Sample.auditPlan : SignedCheckpoint :=
  signCheckpoint .identity ⟨fun _ => ⟨"first"⟩, ⟨"authority"⟩⟩
    { (encounter "first").checkpoint with
      manifestDigest := openWorldAuditManifest .identity ⟨"game"⟩ ⟨"observers"⟩ 1 2
      hiddenStateCommitment := some (openWorldAuditSeedCommitment .identity "world" 0 "seed") }

def Sample.anchorSeal : VerifiedCheckpoint where
  signed := signCheckpoint .identity ⟨fun _ => ⟨"first"⟩, ⟨"authority"⟩⟩
    { auditPlan.checkpoint with
      epoch := 1
      previousCheckpoint := auditPlan.digest
      manifestDigest := openWorldAnchorSealManifest .identity auditPlan.checkpoint.manifestDigest 1 }

open Sample in
set_option maxRecDepth 4000 in
theorem plan_fixes_the_sample_sample :
    let reveals := Reveals .int32 .identity ⟨fun _ _ _ => true⟩ ⟨"authority"⟩ auditPlan
    ∃ epoch, reveals epoch ∧ ∀ other, reveals other → epoch.seed = other.seed := by
  intro reveals
  obtain ⟨epoch, revealed⟩ : ∃ epoch, reveals epoch :=
    ⟨_, ⟨auditPlan⟩, anchorSeal, ⟨"game"⟩, ⟨"observers"⟩, 1, 2, 1, "seed", by decide +kernel, rfl⟩
  refine ⟨epoch, revealed, fun other revealed' => ?_⟩
  exact (plan_fixes_the_sample _ _ Hasher.identity_collisionFree _ _ _ _ _ _ revealed revealed' rfl).1

end ConvergeAudit.OpenWorld
