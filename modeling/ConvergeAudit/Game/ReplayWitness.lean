import ConvergeAudit.Game.Attestation
import ConvergeAudit.Game.FaultPolicy

/-!
`replay_witness.mbt` and `witness_manifest`: witnesses that have replayed a game approve its checkpoint. The roster
and the fault bound are committed in the manifest of the checkpoint.
-/

namespace ConvergeAudit.Game
open Moon Bft Quorum

section
variable [StrOrder]

/-- The canonical order of a roster: ids from the largest down, then keys. -/
def sortedRoster (participants : List Participant) : List Participant :=
  sortBy (fun left right =>
    if left.id ≠ right.id then compare right.id left.id else compare right.key.text left.key.text) participants

def rosterFields (participants : List Participant) : List Str :=
  participants.flatMap fun participant => [participant.id, participant.key.text]

theorem sortedRoster_perm : (sortedRoster participants).Perm participants :=
  sortBy_perm _ _

theorem sortedRoster_eq_of_perm (perm : participants.Perm others) :
    sortedRoster participants = sortedRoster others := by
  let order : Participant → Participant → Ordering :=
    compareLex (fun left right => compare right.id left.id) fun left right => compare right.key.text left.key.text
  have sorted : ∀ roster, sortedRoster roster = sortBy order roster := by
    intro roster
    unfold sortedRoster
    congr 1
    funext left right
    simp only [ne_comm (a := left.id), ite_compare_eq_then]
    rfl
  rw [sorted, sorted]
  refine sortBy_eq_of_perm_of_separates perm ?_
  rintro ⟨id, ⟨key⟩⟩ _ ⟨id', ⟨key'⟩⟩ _ same
  obtain ⟨ids, keys⟩ := compareLex_eq_eq.mp same
  have ids : id' = id := compare_eq_iff_eq.mp ids
  have keys : key' = key := compare_eq_iff_eq.mp keys
  rw [ids, keys]

omit [StrOrder] in
theorem rosterFields_injective : Function.Injective rosterFields := by
  intro left
  induction left with
  | nil =>
    intro right same
    cases right with
    | nil => rfl
    | cons participant rest => cases same
  | cons participant rest ih =>
    intro right same
    cases right with
    | nil => cases same
    | cons other others =>
      obtain ⟨⟨id⟩, ⟨text⟩⟩ := participant
      obtain ⟨ids, later⟩ := List.cons.inj same
      obtain ⟨keys, tails⟩ := List.cons.inj later
      dsimp only at ids keys
      rw [ids, keys, ih tails]

def serializeReplayWitnessSessionManifest (gameManifestDigest : Digest) (refereeKey : PublicKey)
    (witnesses : List Participant) (maxFaults : ℤ) : Str :=
  let sorted := sortedRoster witnesses
  ([lit "replay-witness-session-v1", gameManifestDigest.text, refereeKey.text, Str.ofInt maxFaults,
    Str.ofInt sorted.length] ++ rosterFields sorted).foldl appendField Str.empty

def replayWitnessSessionManifest (hasher : Hasher) (gameManifestDigest : Digest) (refereeKey : PublicKey)
    (witnesses : List Participant) (maxFaults : ℤ) : Digest :=
  hasher.hashString (serializeReplayWitnessSessionManifest gameManifestDigest refereeKey witnesses maxFaults)

end

structure ReplayWitnessCollector where
  evidence : EvidenceCollector
  witnessCount : ℤ
  maxFaults : ℤ
  refereeKey : PublicKey

inductive ReplayWitnessCollectorBuildResult where
  | witnessCollectorReady (collector : ReplayWitnessCollector)
  | invalidGameManifest
  | invalidRefereeKey
  | invalidWitnessPolicy
  | invalidWitnessRoster
  | refereeIsWitness
  | witnessManifestMismatch

inductive ReplayWitnessCertificationResult where
  | witnessCertified (certificate : WitnessReplayCertificate)
  | witnessCheckpointMismatch
  | witnessRefereeMismatch
  | witnessQuorumPending (approvalCount required : ℤ)
  deriving DecidableEq

namespace ReplayWitnessCollector

section
variable (arith : Arithmetic) (collector : ReplayWitnessCollector)

def new [StrOrder] (arith : Arithmetic) (hasher : Hasher) (verifier : Verifier) (checkpoint : PreparedCheckpoint)
    (gameManifestDigest : Digest) (refereeKey : PublicKey) (witnesses : List Participant) (maxFaults : ℤ) :
    ReplayWitnessCollectorBuildResult :=
  if gameManifestDigest.text = Str.empty then .invalidGameManifest
  else if refereeKey.text = Str.empty then .invalidRefereeKey
  else
    let evidence := evidenceCollectorForPurpose hasher verifier checkpoint witnesses .replayWitness
    if !evidence.isRosterValid then .invalidWitnessRoster
    else if !replayWitnessPolicyValid arith witnesses.length maxFaults then .invalidWitnessPolicy
    else if witnesses.any fun witness => witness.key = refereeKey then .refereeIsWitness
    else if checkpoint.checkpoint.manifestDigest ≠
        replayWitnessSessionManifest hasher gameManifestDigest refereeKey witnesses maxFaults then
      .witnessManifestMismatch
    else .witnessCollectorReady ⟨evidence, witnesses.length, maxFaults, refereeKey⟩

def deliver (collector : ReplayWitnessCollector) (signed : SignedAttestation) :
    ReplayWitnessCollector × EvidenceDeliveryResult :=
  let delivery := collector.evidence.deliver signed
  ({ collector with evidence := delivery.1 }, delivery.2)

def deliverAll (signed : List SignedAttestation) : ReplayWitnessCollector :=
  signed.foldl (fun collector signed => (collector.deliver signed).1) collector

def requiredApprovals : ℤ :=
  replayWitnessQuorumSize arith collector.witnessCount collector.maxFaults

def certify (verified : VerifiedCheckpoint) : ReplayWitnessCertificationResult :=
  if verified.digest ≠ collector.evidence.checkpointDigest then .witnessCheckpointMismatch
  else if verified.authorityKey ≠ collector.refereeKey then .witnessRefereeMismatch
  else
    let approvalCount := countApprovals collector.evidence.evidence.approvals
    if !replayWitnessCertificateAllowed arith collector.witnessCount collector.maxFaults approvalCount then
      .witnessQuorumPending approvalCount (collector.requiredApprovals arith)
    else .witnessCertified
      { checkpointDigest := verified.digest
        refereeKey := verified.authorityKey
        witnessCount := collector.witnessCount
        maxFaults := collector.maxFaults
        approvalCount := approvalCount }

end

end ReplayWitnessCollector

def WitnessReplayCertificate.requiredApprovals (arith : Arithmetic) (certificate : WitnessReplayCertificate) : ℤ :=
  replayWitnessQuorumSize arith certificate.witnessCount certificate.maxFaults

theorem ReplayWitnessCollector.deliverAll_eq (collector : ReplayWitnessCollector) (signed : List SignedAttestation) :
    collector.deliverAll signed = { collector with evidence := collector.evidence.deliverAll signed } := by
  induction signed generalizing collector with
  | nil => rfl
  | cons first rest ih => exact ih (collector.deliver first).1

section
variable [StrOrder] {refereeKey : PublicKey} {maxFaults : ℤ} {collector : ReplayWitnessCollector}

theorem ReplayWitnessCollector.new_ready_iff :
    new arith hasher verifier checkpoint gameManifestDigest refereeKey witnesses maxFaults =
        .witnessCollectorReady collector ↔
      (gameManifestDigest.text ≠ Str.empty ∧ refereeKey.text ≠ Str.empty ∧
        (evidenceCollectorForPurpose hasher verifier checkpoint witnesses .replayWitness).isRosterValid = true ∧
        replayWitnessPolicyValid arith witnesses.length maxFaults = true ∧
        (witnesses.any fun witness => witness.key = refereeKey) = false ∧
        checkpoint.checkpoint.manifestDigest =
          replayWitnessSessionManifest hasher gameManifestDigest refereeKey witnesses maxFaults) ∧
      collector = ⟨evidenceCollectorForPurpose hasher verifier checkpoint witnesses .replayWitness, witnesses.length,
        maxFaults, refereeKey⟩ := by
  unfold new
  simp (disch := simp) only [Lib.passes, ne_eq, not_not, Bool.not_eq_true]
  simp [and_assoc, @eq_comm _ collector]

end

end ConvergeAudit.Game
