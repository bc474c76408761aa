import ConvergeAudit.Moon.Text
import ConvergeAudit.Moon.Arithmetic
import Mathlib.Data.Int.Notation

/-!
`audit/runtime/runtime.mbt`. Closures and acknowledgements are capabilities: their fields are what the functions that
mint them have checked. `Int` is unbounded here, but for the sum that is a lease's deadline.
-/

namespace ConvergeAudit.Runtime
open Moon

section
variable (entry : CheckpointOutboxEntry)

structure AuditDigest where
  text : Str
  deriving DecidableEq

structure AuditBoundary where
  protocolVersion : ℤ
  purpose : Str
  manifestDigest : AuditDigest
  scopeId : Str
  unitId : Str
  deriving DecidableEq

def boundaryValid (boundary : AuditBoundary) : Bool :=
  boundary.protocolVersion > 0 && boundary.purpose != Str.empty && boundary.manifestDigest.text != Str.empty &&
    boundary.scopeId != Str.empty && boundary.unitId != Str.empty

structure EpochClosureEvidence where
  boundary : AuditBoundary
  epoch : ℤ
  rosterDigest : AuditDigest
  frontierDigest : AuditDigest
  certificateDigest : AuditDigest
  deriving DecidableEq

inductive EpochClosureRefusal where
  | nonPositiveProtocolVersion
  | emptyPurpose
  | emptyManifestDigest
  | emptyScopeId
  | emptyUnitId
  | negativeClosureEpoch
  | emptyRosterDigest
  | emptyFrontierDigest
  | emptyCertificateDigest

def classifyClosureStructure (evidence : EpochClosureEvidence) : Option EpochClosureRefusal :=
  if evidence.boundary.protocolVersion ≤ 0 then some .nonPositiveProtocolVersion
  else if evidence.boundary.purpose = Str.empty then some .emptyPurpose
  else if evidence.boundary.manifestDigest.text = Str.empty then some .emptyManifestDigest
  else if evidence.boundary.scopeId = Str.empty then some .emptyScopeId
  else if evidence.boundary.unitId = Str.empty then some .emptyUnitId
  else if evidence.epoch < 0 then some .negativeClosureEpoch
  else if evidence.rosterDigest.text = Str.empty then some .emptyRosterDigest
  else if evidence.frontierDigest.text = Str.empty then some .emptyFrontierDigest
  else if evidence.certificateDigest.text = Str.empty then some .emptyCertificateDigest
  else none

/-- Minted by `open_trusted_epoch_closure` only. -/
structure TrustedEpochClosure where
  evidenceValue : EpochClosureEvidence
  wellFormed : classifyClosureStructure evidenceValue = none

inductive CheckpointOutboxState where
  | outboxPending
  | outboxInFlight (leaseExpiresAtMs : ℤ)
  | outboxAcknowledgedState
  deriving DecidableEq

structure CheckpointOutboxEntry where
  boundaryValue : AuditBoundary
  destinationIdValue : Str
  epochValue : ℤ
  checkpointDigestValue : AuditDigest
  canonicalEnvelopeValue : Str
  createdOrderValue : ℤ
  stateValue : CheckpointOutboxState
  deriving DecidableEq

inductive OutboxEntryRefusal where
  | invalidOutboxBoundary
  | emptyDestinationId
  | negativeCheckpointEpoch
  | emptyCheckpointDigest
  | emptyCanonicalEnvelope
  | negativeCreatedOrder

def openCheckpointOutboxEntry (boundary : AuditBoundary) (destinationId : Str) (epoch : ℤ)
    (checkpointDigest : AuditDigest) (canonicalEnvelope : Str) (createdOrder : ℤ) :
    Except OutboxEntryRefusal CheckpointOutboxEntry :=
  if !boundaryValid boundary then .error .invalidOutboxBoundary
  else if destinationId = Str.empty then .error .emptyDestinationId
  else if epoch < 0 then .error .negativeCheckpointEpoch
  else if checkpointDigest.text = Str.empty then .error .emptyCheckpointDigest
  else if canonicalEnvelope = Str.empty then .error .emptyCanonicalEnvelope
  else if createdOrder < 0 then .error .negativeCreatedOrder
  else .ok
    { boundaryValue := boundary
      destinationIdValue := destinationId
      epochValue := epoch
      checkpointDigestValue := checkpointDigest
      canonicalEnvelopeValue := canonicalEnvelope
      createdOrderValue := createdOrder
      stateValue := .outboxPending }

def CheckpointOutboxEntry.withState (state : CheckpointOutboxState) : CheckpointOutboxEntry :=
  { entry with stateValue := state }

inductive OutboxClaimRefusal where
  | negativeClaimTime
  | nonPositiveLeaseDuration
  | leaseDeadlineOverflow

inductive CheckpointOutboxClaimResult where
  | outboxClaimed (entry : CheckpointOutboxEntry)
  | outboxNotRetryable
  | outboxClaimRefused (reason : OutboxClaimRefusal)

def outboxRetryableAt (nowMs : ℤ) : Bool :=
  match entry.stateValue with
  | .outboxPending => true
  | .outboxInFlight leaseExpiresAtMs => leaseExpiresAtMs ≤ nowMs
  | .outboxAcknowledgedState => false

def claimCheckpointOutbox (nowMs leaseDurationMs : ℤ) : CheckpointOutboxClaimResult :=
  if nowMs < 0 then .outboxClaimRefused .negativeClaimTime
  else if leaseDurationMs ≤ 0 then .outboxClaimRefused .nonPositiveLeaseDuration
  else if !outboxRetryableAt entry nowMs then .outboxNotRetryable
  else
    let leaseExpiresAtMs := Arithmetic.int32.add nowMs leaseDurationMs
    if leaseExpiresAtMs < nowMs then .outboxClaimRefused .leaseDeadlineOverflow
    else .outboxClaimed (entry.withState (.outboxInFlight leaseExpiresAtMs))

inductive CheckpointOutboxReleaseResult where
  | outboxReleased (entry : CheckpointOutboxEntry)
  | outboxReleaseNoop

def releaseCheckpointOutbox : CheckpointOutboxReleaseResult :=
  match entry.stateValue with
  | .outboxInFlight _ => .outboxReleased (entry.withState .outboxPending)
  | .outboxPending | .outboxAcknowledgedState => .outboxReleaseNoop

inductive CheckpointAckDecision where
  | checkpointAccepted
  | checkpointDuplicate
  | checkpointGap
  | checkpointSameEpochFork
  | checkpointParentFork
  | checkpointStaleUnknown
  | checkpointBoundaryMismatch
  | checkpointRefused
  deriving DecidableEq

inductive OutboxAckRefusal where
  | ackAuthorityMismatch
  | ackBoundaryMismatch
  | ackEpochMismatch
  | ackDigestMismatch
  | ackDecisionNotSuccessful

structure CheckpointAckEvidence where
  boundary : AuditBoundary
  authorityId : Str
  epoch : ℤ
  checkpointDigest : AuditDigest
  decision : CheckpointAckDecision
  deriving DecidableEq

/-- Minted by `open_authenticated_checkpoint_ack` only. -/
structure AuthenticatedCheckpointAck where
  evidenceValue : CheckpointAckEvidence
  boundary_valid : boundaryValid evidenceValue.boundary = true
  authority_named : evidenceValue.authorityId ≠ Str.empty
  epoch_nonneg : 0 ≤ evidenceValue.epoch
  digest_present : evidenceValue.checkpointDigest.text ≠ Str.empty

def runtimeCheckpointAckCompletionAllowed (authorityMatches boundaryMatches epochMatches digestMatches accepted
    duplicate : Bool) : Bool :=
  authorityMatches && boundaryMatches && epochMatches && digestMatches && (accepted || duplicate)

inductive CheckpointOutboxAckResult where
  | outboxAcknowledged (entry : CheckpointOutboxEntry)
  | outboxAlreadyAcknowledged
  | outboxAckRefused (reason : OutboxAckRefusal)

def acknowledgeCheckpointOutbox (ack : AuthenticatedCheckpointAck) : CheckpointOutboxAckResult :=
  let evidence := ack.evidenceValue
  let authorityMatches := evidence.authorityId == entry.destinationIdValue
  let boundaryMatches := evidence.boundary == entry.boundaryValue
  let epochMatches := evidence.epoch == entry.epochValue
  let digestMatches := evidence.checkpointDigest == entry.checkpointDigestValue
  let accepted := evidence.decision == .checkpointAccepted
  let duplicate := evidence.decision == .checkpointDuplicate
  if !authorityMatches then .outboxAckRefused .ackAuthorityMismatch
  else if !boundaryMatches then .outboxAckRefused .ackBoundaryMismatch
  else if !epochMatches then .outboxAckRefused .ackEpochMismatch
  else if !digestMatches then .outboxAckRefused .ackDigestMismatch
  else if !runtimeCheckpointAckCompletionAllowed authorityMatches boundaryMatches epochMatches digestMatches accepted
      duplicate then .outboxAckRefused .ackDecisionNotSuccessful
  else if entry.stateValue = .outboxAcknowledgedState then .outboxAlreadyAcknowledged
  else .outboxAcknowledged (entry.withState .outboxAcknowledgedState)

/-- The acknowledgement is for exactly this entry, and reports success. -/
@[mk_iff]
structure Acknowledges (evidence : CheckpointAckEvidence) (entry : CheckpointOutboxEntry) : Prop where
  boundary : evidence.boundary = entry.boundaryValue
  authority : evidence.authorityId = entry.destinationIdValue
  epoch : evidence.epoch = entry.epochValue
  digest : evidence.checkpointDigest = entry.checkpointDigestValue
  decision : evidence.decision = .checkpointAccepted ∨ evidence.decision = .checkpointDuplicate

end

theorem claimCheckpointOutbox_cases
    (claim : claimCheckpointOutbox entry nowMs leaseDurationMs = .outboxClaimed claimed) :
    outboxRetryableAt entry nowMs = true ∧ entry.stateValue ≠ .outboxAcknowledgedState ∧
      ∃ lease, 0 ≤ lease ∧ nowMs ≤ lease ∧ claimed = entry.withState (.outboxInFlight lease) := by
  unfold claimCheckpointOutbox at claim
  simp (disch := simp) only [Lib.passes, Bool.not_not_eq] at claim
  obtain ⟨time, duration, retryable, later, claim⟩ := claim
  cases claim
  refine ⟨retryable, fun acknowledged => ?_, Arithmetic.int32.add nowMs leaseDurationMs, by omega, by omega, rfl⟩
  simp [outboxRetryableAt, acknowledged] at retryable

theorem releaseCheckpointOutbox_cases (release : releaseCheckpointOutbox entry = .outboxReleased released) :
    entry.stateValue ≠ .outboxAcknowledgedState ∧ released = entry.withState .outboxPending := by
  unfold releaseCheckpointOutbox at release
  split at release
  · rename_i lease inFlight
    injection release with same
    exact ⟨by simp [inFlight], same.symm⟩
  · cases release
  · cases release

theorem acknowledgeCheckpointOutbox_cases {ack : AuthenticatedCheckpointAck}
    (acknowledge : acknowledgeCheckpointOutbox entry ack = .outboxAcknowledged acknowledged) :
    entry.stateValue ≠ .outboxAcknowledgedState ∧ Acknowledges ack.evidenceValue entry ∧
      acknowledged = entry.withState .outboxAcknowledgedState := by
  unfold acknowledgeCheckpointOutbox at acknowledge
  simp (disch := simp) only [Lib.passes, Bool.not_not_eq, beq_iff_eq] at acknowledge
  obtain ⟨authority, boundary, epoch, digest, decision, state, acknowledge⟩ := acknowledge
  cases acknowledge
  refine ⟨state, ⟨boundary, authority, epoch, digest, ?_⟩, rfl⟩
  simpa [runtimeCheckpointAckCompletionAllowed, boundary, authority, epoch, digest] using decision

theorem acknowledgeCheckpointOutbox_of {ack : AuthenticatedCheckpointAck} (acknowledges : Acknowledges ack.evidenceValue entry)
    (open_ : entry.stateValue ≠ .outboxAcknowledgedState) :
    acknowledgeCheckpointOutbox entry ack = .outboxAcknowledged (entry.withState .outboxAcknowledgedState) := by
  obtain ⟨boundary, authority, epoch, digest, decision⟩ := acknowledges
  unfold acknowledgeCheckpointOutbox
  rcases decision with decision | decision <;>
    simp [boundary, authority, epoch, digest, decision, open_, runtimeCheckpointAckCompletionAllowed]

end ConvergeAudit.Runtime
