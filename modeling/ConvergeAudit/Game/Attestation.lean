import ConvergeAudit.Quorum.Collector
import ConvergeAudit.Game.Checkpoint
import ConvergeAudit.Lib.Quorums

/-!
`x/game_audit/attestation`: participants sign choices over a prepared checkpoint, and a collector turns them into the
evidence with which a signed checkpoint is finalized.
-/

namespace ConvergeAudit.Game
open Moon Bft Quorum

inductive AttestationChoice where
  | approve
  | challenge

inductive AttestationPurpose where
  | checkpointApproval
  | replayWitness
  deriving DecidableEq

structure Attestation where
  checkpointDigest : Digest
  participantId : Str
  purpose : AttestationPurpose
  choice : AttestationChoice

structure SignedAttestation where
  attestation : Attestation
  digest : Digest
  signature : Signature
  signerKey : PublicKey

structure Participant where
  id : Str
  key : PublicKey
  deriving DecidableEq

inductive EvidenceAlertKind where
  | invalidRoster
  | hashMismatch
  | unknownParticipant
  | signerKeyMismatch
  | invalidSignature
  | wrongCheckpoint
  | wrongPurpose
  | equivocation

structure EvidenceAlert where
  kind : EvidenceAlertKind
  participantId : Str
  digest : Digest
  detail : Str

inductive EvidenceDeliveryResult where
  | accepted
  | duplicate
  | rejected (alert : EvidenceAlert)

structure AuditEvidence where
  approvals : List Bool
  challenged : Bool

structure EvidenceCollector where
  inner : VoteCollector

def AttestationPurpose.quorumDomain : AttestationPurpose → Str
  | .checkpointApproval => "checkpoint-approval"
  | .replayWitness => "replay-witness"

def AttestationChoice.quorumChoice : AttestationChoice → VoteChoice
  | .approve => .approveChoice
  | .challenge => .challengeChoice

def SignedAttestation.quorumVote (signed : SignedAttestation) : SignedVote where
  statement :=
    { subjectDigest := signed.attestation.checkpointDigest
      memberId := signed.attestation.participantId
      domain := signed.attestation.purpose.quorumDomain
      choice := signed.attestation.choice.quorumChoice }
  digest := signed.digest
  signature := signed.signature
  signerKey := signed.signerKey

def serializeAttestation (attestation : Attestation) : Str :=
  serializeVoteStatement
    { subjectDigest := attestation.checkpointDigest
      memberId := attestation.participantId
      domain := attestation.purpose.quorumDomain
      choice := attestation.choice.quorumChoice }

def quorumAlertKind : VoteAlertKind → EvidenceAlertKind
  | .voteInvalidRoster => .invalidRoster
  | .voteHashMismatch => .hashMismatch
  | .voteUnknownMember => .unknownParticipant
  | .voteSignerKeyMismatch => .signerKeyMismatch
  | .voteInvalidSignature => .invalidSignature
  | .voteWrongSubject => .wrongCheckpoint
  | .voteWrongDomain => .wrongPurpose
  | .voteEquivocation => .equivocation

def quorumMembers (participants : List Participant) : List QuorumMember :=
  participants.map fun participant => ⟨participant.id, participant.key⟩

def evidenceCollectorForPurpose (hasher : Hasher) (verifier : Verifier) (checkpoint : PreparedCheckpoint)
    (participants : List Participant) (purpose : AttestationPurpose) : EvidenceCollector where
  inner := .new hasher verifier checkpoint.digest purpose.quorumDomain (quorumMembers participants)

inductive AuthorityVerdict where
  | noVerdict
  | accept
  | reject

inductive CheckpointDecision where
  | pending
  | attested
  | challenged
  | finalized
  | rejected

def countApprovals (approvals : List Bool) : ℤ :=
  approvals.foldl (fun count approved => if approved then count + 1 else count) 0

def decideCheckpoint (approvals : List Bool) (requiredApprovals : ℤ) (challenged : Bool) (authority : AuthorityVerdict)
    (replayMatches : Bool) : CheckpointDecision :=
  let quorum : Bool := requiredApprovals > 0 && requiredApprovals ≤ approvals.length &&
    countApprovals approvals ≥ requiredApprovals
  match authority with
  | .reject => .rejected
  | .accept =>
    if replayMatches then .finalized
    else if challenged then .challenged
    else if quorum then .finalized
    else .pending
  | .noVerdict =>
    if challenged then .challenged
    else if quorum then .attested
    else .pending

def checkpointReplayCapabilityMatches (capabilityPresent checkpointDigestMatches authorityKeyMatches : Bool) : Bool :=
  capabilityPresent && checkpointDigestMatches && authorityKeyMatches

/-- Issued by the replay kernel for a checkpoint that it has replayed. -/
structure CheckpointReplayMatch where
  checkpointDigest : Digest
  authorityKey : PublicKey

/-- Issued by `ReplayWitnessCollector.certify`. -/
structure WitnessReplayCertificate where
  checkpointDigest : Digest
  refereeKey : PublicKey
  witnessCount : ℤ
  maxFaults : ℤ
  approvalCount : ℤ
  deriving DecidableEq

structure FinalizedCheckpoint where
  verified : VerifiedCheckpoint
  deriving DecidableEq

inductive CheckpointFinalizationResult where
  | ready (finalized : FinalizedCheckpoint)
  | deferred (decision : CheckpointDecision)
  | checkpointMismatch

namespace EvidenceCollector

section
variable (collector : EvidenceCollector)

def new (hasher : Hasher) (verifier : Verifier) (checkpoint : PreparedCheckpoint) (participants : List Participant) :
    EvidenceCollector :=
  evidenceCollectorForPurpose hasher verifier checkpoint participants .checkpointApproval

def isRosterValid : Bool := collector.inner.rosterValidValue

def checkpointDigest : Digest := collector.inner.subjectDigestValue

def deliver (collector : EvidenceCollector) (signed : SignedAttestation) : EvidenceCollector × EvidenceDeliveryResult :=
  let delivery := collector.inner.deliver signed.quorumVote
  (⟨delivery.1⟩,
    match delivery.2 with
    | .voteAccepted => .accepted
    | .voteDuplicate => .duplicate
    | .voteRejected alert => .rejected ⟨quorumAlertKind alert.kind, alert.memberId, alert.digest, alert.detail⟩)

def deliverAll (signed : List SignedAttestation) : EvidenceCollector :=
  signed.foldl (fun collector signed => (collector.deliver signed).1) collector

def evidence (collector : EvidenceCollector) : AuditEvidence :=
  let evidence := collector.inner.evidence
  ⟨evidence.approvals, evidence.challenged⟩

def decideWithReplayMatches (requiredApprovals : ℤ) (authority : AuthorityVerdict)
    (replayMatches : Bool) : CheckpointDecision :=
  let evidence := collector.evidence
  decideCheckpoint evidence.approvals requiredApprovals evidence.challenged authority replayMatches

def finalize (verified : VerifiedCheckpoint) (requiredApprovals : ℤ) (replayMatch : Option CheckpointReplayMatch)
    (witnessCertificate : Option WitnessReplayCertificate) :
    CheckpointFinalizationResult :=
  if verified.digest ≠ collector.checkpointDigest then .checkpointMismatch
  else
    let encounterReplayMatches :=
      match replayMatch with
      | some capability =>
        checkpointReplayCapabilityMatches true (capability.checkpointDigest == verified.digest)
          (capability.authorityKey == verified.authorityKey)
      | none => false
    let witnessReplayMatches :=
      match witnessCertificate with
      | some certificate =>
        checkpointReplayCapabilityMatches true (certificate.checkpointDigest == verified.digest)
          (certificate.refereeKey == verified.authorityKey)
      | none => false
    match collector.decideWithReplayMatches requiredApprovals .accept
        (encounterReplayMatches || witnessReplayMatches) with
    | .finalized => .ready ⟨verified⟩
    | other => .deferred other

end

end EvidenceCollector

theorem countApprovals_eq (approvals : List Bool) : countApprovals approvals = approvals.count true := by
  have counted : ∀ start : ℤ,
      approvals.foldl (fun count approved => if approved then count + 1 else count) start =
        start + approvals.count true := by
    induction approvals with
    | nil => simp
    | cons approved rest ih =>
      intro start
      rw [List.foldl_cons, ih]
      cases approved
      · simp
      · simp
        omega
  rw [countApprovals, counted, Int.zero_add]

/-- A signed attestation that authenticates a choice of `participant` over a checkpoint. -/
structure SignedAttestation.Authentic (hasher : Hasher) (verifier : Verifier) (checkpointDigest : Digest)
    (purpose : AttestationPurpose) (participant : Participant) (choice : AttestationChoice)
    (signed : SignedAttestation) : Prop where
  digest : hasher.hashString (serializeAttestation signed.attestation) = signed.digest
  signature : verifier.verify participant.key signed.digest signed.signature = true
  signerKey : signed.signerKey = participant.key
  attestation : signed.attestation = ⟨checkpointDigest, participant.id, purpose, choice⟩

theorem quorumDomain_injective : Function.Injective AttestationPurpose.quorumDomain := by
  intro left right
  cases left <;> cases right <;> decide

theorem quorumChoice_injective : Function.Injective AttestationChoice.quorumChoice := by
  intro left right
  cases left <;> cases right <;> simp [AttestationChoice.quorumChoice]

/-- The poll that the collector of one purpose holds. -/
def attestationPoll (hasher : Hasher) (verifier : Verifier) (checkpointDigest : Digest)
    (participants : List Participant) (purpose : AttestationPurpose) : Poll :=
  ⟨hasher, verifier, checkpointDigest, purpose.quorumDomain, quorumMembers participants⟩

theorem authentic_of_poll {signed : SignedAttestation}
    (authentic : (attestationPoll hasher verifier checkpointDigest participants purpose).Authentic signed.quorumVote
      index choice.quorumChoice) :
    ∃ participant, participants[index]? = some participant ∧
      signed.Authentic hasher verifier checkpointDigest purpose participant choice := by
  obtain ⟨hashed, domain, member, signature, subject, chosen⟩ := authentic
  obtain ⟨participant, found, same⟩ :
      ∃ participant, participants[index]? = some participant ∧
        (⟨participant.id, participant.key⟩ : QuorumMember) = ⟨signed.attestation.participantId, signed.signerKey⟩ := by
    rw [attestationPoll, quorumMembers, List.getElem?_map] at member
    exact Option.map_eq_some_iff.mp member
  obtain ⟨sameId, sameKey⟩ := QuorumMember.mk.inj same
  refine ⟨participant, found, hashed, ?_, sameKey.symm, ?_⟩
  · rw [sameKey]
    exact signature
  · have purposes := quorumDomain_injective domain
    have choices := quorumChoice_injective chosen
    have subjects : signed.attestation.checkpointDigest = checkpointDigest := subject
    rw [sameId, ← purposes, ← choices, ← subjects]

theorem quorumMembers_nodup
    (valid : (attestationPoll hasher verifier checkpointDigest participants purpose).Valid) : participants.Nodup := by
  have ids := valid.sound.ids_nodup
  have mapped : (rosterEntries (quorumMembers participants)).map Prod.fst = participants.map Participant.id := by
    simp [rosterEntries, quorumMembers]
  rw [attestationPoll, mapped] at ids
  exact ids.of_map

theorem EvidenceCollector.inner_deliverAll (collector : EvidenceCollector) (signed : List SignedAttestation) :
    (collector.deliverAll signed).inner = collector.inner.deliverAll (signed.map SignedAttestation.quorumVote) := by
  induction signed generalizing collector with
  | nil => rfl
  | cons first rest ih => exact ih (collector.deliver first).1

open Classical in
noncomputable def approvers (hasher : Hasher) (verifier : Verifier) (checkpointDigest : Digest)
    (participants : List Participant) (purpose : AttestationPurpose) (delivered : List SignedAttestation) :
    Finset Participant :=
  participants.toFinset.filter fun participant =>
    ∃ signed ∈ delivered, signed.Authentic hasher verifier checkpointDigest purpose participant .approve

theorem countApprovals_le_approvers
    (valid : (attestationPoll hasher verifier checkpointDigest participants purpose).Valid)
    (delivered : List SignedAttestation) :
    countApprovals ((attestationPoll hasher verifier checkpointDigest participants purpose).evidence
      (delivered.map SignedAttestation.quorumVote)).approvals ≤
    (approvers hasher verifier checkpointDigest participants purpose delivered).card := by
  rw [countApprovals_eq, Int.ofNat_le]
  apply Lib.count_marks_le_card (quorumMembers_nodup valid)
  intro index marked
  have inside : index < (quorumMembers participants).length := by
    obtain ⟨bound, _⟩ := List.getElem?_eq_some_iff.mp marked
    rwa [Poll.length_approvals] at bound
  rw [valid.getElem?_approvals index inside, Option.some_inj, valid.isApproval_iff] at marked
  obtain ⟨⟨vote, voted, authentic⟩, _⟩ := marked
  obtain ⟨signed, given, rfl⟩ := List.mem_map.mp voted
  obtain ⟨participant, found, approved⟩ : ∃ participant, participants[index]? = some participant ∧
      signed.Authentic hasher verifier checkpointDigest purpose participant .approve := authentic_of_poll authentic
  exact ⟨participant, by simpa [approvers] using ⟨List.mem_of_getElem? found, signed, given, approved⟩, found⟩

end ConvergeAudit.Game
