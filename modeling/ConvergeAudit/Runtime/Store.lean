import ConvergeAudit.Runtime.Seal

/-!
`audit/runtime/local_store.mbt`: one player's events, checkpoint chain and outbox, as one transaction domain. The
mutable store is passed through; every mutation raises the storage revision.
-/

namespace ConvergeAudit.Runtime
open Moon Audit

structure PlayerLocalAuditEvent where
  boundary : AuditBoundary
  authorId : Str
  counter : ℤ
  epoch : ℤ
  eventDigest : AuditDigest
  canonicalEvent : Str
  deriving DecidableEq

/-- Two authenticated digests under one author counter. -/
structure PlayerLocalEventEquivocation where
  accepted : PlayerLocalAuditEvent
  conflicting : PlayerLocalAuditEvent
  deriving DecidableEq

structure PlayerLocalCheckpointOutboxRecord where
  boundary : AuditBoundary
  destinationId : Str
  epoch : ℤ
  checkpointDigest : AuditDigest
  canonicalEnvelope : Str
  createdOrder : ℤ
  state : CheckpointOutboxState

structure PlayerLocalRetentionAnchor where
  boundary : AuditBoundary
  epoch : ℤ
  checkpointDigest : AuditDigest
  deriving DecidableEq

inductive PlayerLocalEvidenceHoldKind where
  | evidenceHoldFork
  | evidenceHoldChallenge
  | evidenceHoldAppeal
  deriving DecidableEq

inductive PlayerLocalEvidenceHoldResolutionDecision where
  | evidenceHoldUpheld
  | evidenceHoldDismissed
  deriving DecidableEq

inductive PlayerLocalEvidenceHoldState where
  | evidenceHoldActive
  | evidenceHoldResolved (decision : PlayerLocalEvidenceHoldResolutionDecision) (resolutionDigest : AuditDigest)
  deriving DecidableEq

structure PlayerLocalEvidenceHold where
  boundary : AuditBoundary
  holdId : Str
  epoch : ℤ
  checkpointDigest : AuditDigest
  kind : PlayerLocalEvidenceHoldKind
  referenceDigest : AuditDigest
  state : PlayerLocalEvidenceHoldState
  deriving DecidableEq

structure PlayerLocalEvidenceInboxCursor where
  boundary : AuditBoundary
  sourceId : Str
  sequence : ℤ
  messageDigest : AuditDigest
  deriving DecidableEq

inductive PlayerLocalEvidencePollJobState where
  | evidencePollScheduled
  | evidencePollInFlight (leaseExpiresAtMs : ℤ)
  | evidencePollExpired (expiredAtMs : ℤ)
  | evidencePollEscalated (escalatedAtMs : ℤ) (reasonDigest : AuditDigest)
  deriving DecidableEq

structure PlayerLocalEvidencePollJob where
  boundary : AuditBoundary
  sourceId : Str
  endpoint : Str
  initialMessageDigest : AuditDigest
  deadlineAtMs : ℤ
  nextPollAtMs : ℤ
  failures : ℤ
  attemptCount : ℤ
  state : PlayerLocalEvidencePollJobState
  deriving DecidableEq

inductive PlayerLocalEventRefusal where
  | localEventInvalidBoundary
  | localEventBoundaryMismatch
  | localEventMissingAuthor
  | localEventNegativeCounter
  | localEventNegativeEpoch
  | localEventMissingDigest
  | localEventMissingCanonicalBytes
  | localEventDigestCollision
  | localEventPrunedEpoch
  deriving DecidableEq

inductive PlayerLocalEventAdmission where
  | localEventStored
  | localEventDuplicate
  | localEventEquivocation
  | localEventRefused (reason : PlayerLocalEventRefusal)
  deriving DecidableEq

inductive PlayerLocalAuditStoreRefusal where
  | localStoreInvalidBoundary
  | localStoreMissingGenesis
  | localStoreInvalidOutboxCapacity
  | localStoreInvalidImage
  deriving DecidableEq

/-- The complete logical database image. -/
structure PlayerLocalAuditImage where
  boundary : AuditBoundary
  genesisDigest : AuditDigest
  outboxCapacity : ℤ
  events : List PlayerLocalAuditEvent
  equivocations : List PlayerLocalEventEquivocation
  checkpoints : List CheckpointSealDraft
  head : CheckpointSealHead
  retentionAnchor : PlayerLocalRetentionAnchor
  evidenceHolds : List PlayerLocalEvidenceHold
  evidenceInboxCursors : List PlayerLocalEvidenceInboxCursor
  evidencePollJobs : List PlayerLocalEvidencePollJob
  consumedClosureEpochs : List ℤ
  outbox : List PlayerLocalCheckpointOutboxRecord
  ackHistory : List CheckpointAckEvidence
  nextCreatedOrder : ℤ
  storageRevision : ℤ

structure PlayerLocalAuditStore where
  boundaryValue : AuditBoundary
  genesisDigestValue : AuditDigest
  outboxCapacityValue : ℤ
  eventsValue : List PlayerLocalAuditEvent
  equivocationsValue : List PlayerLocalEventEquivocation
  checkpointsValue : List CheckpointSealDraft
  headValue : CheckpointSealHead
  retentionAnchorValue : PlayerLocalRetentionAnchor
  evidenceHoldsValue : List PlayerLocalEvidenceHold
  evidenceInboxCursorsValue : List PlayerLocalEvidenceInboxCursor
  evidencePollJobsValue : List PlayerLocalEvidencePollJob
  consumedClosureEpochsValue : List ℤ
  outboxValue : List CheckpointOutboxEntry
  ackHistoryValue : List CheckpointAckEvidence
  nextCreatedOrderValue : ℤ
  storageRevisionValue : ℤ
  deriving DecidableEq

inductive PlayerLocalAuditStoreOpenResult where
  | playerLocalAuditStoreReady (store : PlayerLocalAuditStore)
  | playerLocalAuditStoreRefused (reason : PlayerLocalAuditStoreRefusal)
  deriving DecidableEq

/-- A seal write set with the revision it was prepared at. -/
structure PlayerLocalSealPlan where
  runtimePlan : AtomicCheckpointSealPlan
  expectedRevision : ℤ
  requiredDestinations : List Str
  consumedClosure : EpochClosureEvidence
  deriving DecidableEq

inductive PlayerLocalSealPrepareResult where
  | playerLocalSealPrepared (plan : PlayerLocalSealPlan)
  | playerLocalSealAlreadyCommitted
  | playerLocalSealConflict (reason : CheckpointSealConflictReason)
  | playerLocalSealRefused (reason : CheckpointSealRefusal)
  deriving DecidableEq

inductive PlayerLocalSealCommitResult where
  | playerLocalSealCommitted
  | playerLocalSealConcurrentWrite
  deriving DecidableEq

inductive PlayerLocalOutboxUpdateResult where
  | playerLocalOutboxUpdated (entry : CheckpointOutboxEntry)
  | playerLocalOutboxNoChange
  | playerLocalOutboxRefused
  deriving DecidableEq

def localEventKey (authorId : Str) (counter : ℤ) : Str :=
  Str.ofInt authorId.length ++ lit ":" ++ authorId ++ lit ":" ++ Str.ofInt counter

def playerLocalEventRefusal (expectedBoundary : AuditBoundary) (event : PlayerLocalAuditEvent) :
    Option PlayerLocalEventRefusal :=
  if !boundaryValid event.boundary then some .localEventInvalidBoundary
  else if event.boundary ≠ expectedBoundary then some .localEventBoundaryMismatch
  else if event.authorId = Str.empty then some .localEventMissingAuthor
  else if event.counter < 0 then some .localEventNegativeCounter
  else if event.epoch < 0 then some .localEventNegativeEpoch
  else if event.eventDigest.text = Str.empty then some .localEventMissingDigest
  else if event.canonicalEvent = Str.empty then some .localEventMissingCanonicalBytes
  else none

def openPlayerLocalAuditStore (boundary : AuditBoundary) (genesisDigest : AuditDigest) (outboxCapacity : ℤ) :
    PlayerLocalAuditStoreOpenResult :=
  if !boundaryValid boundary then .playerLocalAuditStoreRefused .localStoreInvalidBoundary
  else if genesisDigest.text = Str.empty then .playerLocalAuditStoreRefused .localStoreMissingGenesis
  else if outboxCapacity < 0 then .playerLocalAuditStoreRefused .localStoreInvalidOutboxCapacity
  else .playerLocalAuditStoreReady
    { boundaryValue := boundary
      genesisDigestValue := genesisDigest
      outboxCapacityValue := outboxCapacity
      eventsValue := []
      equivocationsValue := []
      checkpointsValue := []
      headValue := { boundary := boundary, epoch := -1, checkpointDigest := genesisDigest }
      retentionAnchorValue := { boundary := boundary, epoch := -1, checkpointDigest := genesisDigest }
      evidenceHoldsValue := []
      evidenceInboxCursorsValue := []
      evidencePollJobsValue := []
      consumedClosureEpochsValue := []
      outboxValue := []
      ackHistoryValue := []
      nextCreatedOrderValue := 0
      storageRevisionValue := 0 }

def checkpointForEpoch (checkpoints : List CheckpointSealDraft) (epoch : ℤ) : Option CheckpointSealDraft :=
  checkpoints.find? fun checkpoint => checkpoint.epoch = epoch

def localOutboxHas (outbox : List CheckpointOutboxEntry) (draft : CheckpointSealDraft) (destinationId : Str) : Bool :=
  outbox.any fun entry =>
    entry.boundaryValue = draft.boundary && entry.destinationIdValue = destinationId &&
      entry.epochValue = draft.epoch && entry.checkpointDigestValue = draft.checkpointDigest &&
      entry.canonicalEnvelopeValue = draft.canonicalEnvelope

def localOutboxRecord (entry : CheckpointOutboxEntry) : PlayerLocalCheckpointOutboxRecord where
  boundary := entry.boundaryValue
  destinationId := entry.destinationIdValue
  epoch := entry.epochValue
  checkpointDigest := entry.checkpointDigestValue
  canonicalEnvelope := entry.canonicalEnvelopeValue
  createdOrder := entry.createdOrderValue
  state := entry.stateValue

/-- Entries that are not acknowledged; only these use capacity. -/
def activeLocalOutboxCount (entries : List CheckpointOutboxEntry) : ℤ :=
  entries.foldl (fun count entry => if entry.stateValue ≠ .outboxAcknowledgedState then count + 1 else count) 0

namespace PlayerLocalAuditStore

section
variable (store : PlayerLocalAuditStore) (index : ℤ)

def admitEvent (event : PlayerLocalAuditEvent) : PlayerLocalAuditStore × PlayerLocalEventAdmission :=
  match playerLocalEventRefusal store.boundaryValue event with
  | some reason => (store, .localEventRefused reason)
  | none =>
    if event.epoch ≤ store.retentionAnchorValue.epoch then (store, .localEventRefused .localEventPrunedEpoch)
    else
      let key := localEventKey event.authorId event.counter
      match store.eventsValue.find? fun accepted => localEventKey accepted.authorId accepted.counter = key with
      | some accepted =>
        if accepted.eventDigest = event.eventDigest then
          if accepted = event then (store, .localEventDuplicate)
          else (store, .localEventRefused .localEventDigestCollision)
        else match store.equivocationsValue.find? fun evidence =>
            evidence.accepted = accepted && evidence.conflicting.eventDigest = event.eventDigest with
        | some evidence =>
          if evidence.conflicting = event then (store, .localEventEquivocation)
          else (store, .localEventRefused .localEventDigestCollision)
        | none =>
          ({ store with
              equivocationsValue := store.equivocationsValue ++ [⟨accepted, event⟩]
              storageRevisionValue := store.storageRevisionValue + 1 }, .localEventEquivocation)
      | none =>
        ({ store with
            eventsValue := store.eventsValue ++ [event]
            storageRevisionValue := store.storageRevisionValue + 1 }, .localEventStored)

def sealSnapshot (draft : CheckpointSealDraft) (requiredDestinations : List Str) : CheckpointSealStorageSnapshot :=
  let known := checkpointForEpoch store.checkpointsValue draft.epoch
  let knownDigestMatches :=
    match known with
    | some checkpoint => decide (checkpoint.checkpointDigest = draft.checkpointDigest)
    | none => false
  let closureConsumed := store.consumedClosureEpochsValue.contains draft.epoch
  let allOutboxPresent :=
    requiredDestinations.length > 0 &&
      requiredDestinations.all fun destination => localOutboxHas store.outboxValue draft destination
  { boundary := store.boundaryValue
    currentEpoch := store.headValue.epoch
    currentDigest := store.headValue.checkpointDigest
    incomingEpochKnown := known.isSome
    knownDigestMatches := knownDigestMatches
    knownSealComplete := knownDigestMatches && closureConsumed && allOutboxPresent
    closureConsumed := closureConsumed
    outboxEntryCount := activeLocalOutboxCount store.outboxValue
    outboxCapacity := store.outboxCapacityValue
    nextCreatedOrder := store.nextCreatedOrderValue }

def prepareSeal [StrOrder] (store : PlayerLocalAuditStore) (draft : CheckpointSealDraft)
    (closure : TrustedEpochClosure) (destinations : List Str) : Option PlayerLocalSealPrepareResult :=
  (prepareAtomicCheckpointSeal (store.sealSnapshot draft destinations) draft closure destinations).map fun
    | .atomicCheckpointSealPrepared plan =>
      .playerLocalSealPrepared
        { runtimePlan := plan
          expectedRevision := store.storageRevisionValue
          requiredDestinations := destinations
          consumedClosure := closure.evidenceValue }
    | .checkpointSealAlreadyCommitted => .playerLocalSealAlreadyCommitted
    | .checkpointSealConflict reason => .playerLocalSealConflict reason
    | .checkpointSealRefused reason => .playerLocalSealRefused reason

def commitSeal (plan : PlayerLocalSealPlan) : PlayerLocalAuditStore × PlayerLocalSealCommitResult :=
  if store.storageRevisionValue ≠ plan.expectedRevision then (store, .playerLocalSealConcurrentWrite)
  else
    let runtimePlan := plan.runtimePlan
    let draft := runtimePlan.checkpointValue
    if store.sealSnapshot draft plan.requiredDestinations ≠ runtimePlan.expectedSnapshotValue then
      (store, .playerLocalSealConcurrentWrite)
    else
      let entries := runtimePlan.outboxEntriesValue
      if activeLocalOutboxCount store.outboxValue + entries.length ≠ runtimePlan.nextOutboxEntryCountValue ∨
          runtimePlan.nextOutboxEntryCountValue > store.outboxCapacityValue then
        (store, .playerLocalSealConcurrentWrite)
      else
        ({ store with
            checkpointsValue := store.checkpointsValue ++ [draft]
            headValue := runtimePlan.nextHeadValue
            outboxValue := store.outboxValue ++ entries
            consumedClosureEpochsValue := store.consumedClosureEpochsValue ++ [runtimePlan.consumedClosureEpochValue]
            nextCreatedOrderValue := runtimePlan.nextCreatedOrderValue
            storageRevisionValue := store.storageRevisionValue + 1 }, .playerLocalSealCommitted)

def durableImage : PlayerLocalAuditImage where
  boundary := store.boundaryValue
  genesisDigest := store.genesisDigestValue
  outboxCapacity := store.outboxCapacityValue
  events := store.eventsValue
  equivocations := store.equivocationsValue
  checkpoints := store.checkpointsValue
  head := store.headValue
  retentionAnchor := store.retentionAnchorValue
  evidenceHolds := store.evidenceHoldsValue
  evidenceInboxCursors := store.evidenceInboxCursorsValue
  evidencePollJobs := store.evidencePollJobsValue
  consumedClosureEpochs := store.consumedClosureEpochsValue
  outbox := store.outboxValue.map localOutboxRecord
  ackHistory := store.ackHistoryValue
  nextCreatedOrder := store.nextCreatedOrderValue
  storageRevision := store.storageRevisionValue

def outboxAt : Option CheckpointOutboxEntry :=
  if index < 0 ∨ index ≥ store.outboxValue.length then none else store.outboxValue[index.toNat]?

def setOutbox (entry : CheckpointOutboxEntry) : PlayerLocalAuditStore :=
  { store with
    outboxValue := store.outboxValue.set index.toNat entry
    storageRevisionValue := store.storageRevisionValue + 1 }

def claimOutboxAt (nowMs leaseDurationMs : ℤ) : PlayerLocalAuditStore × PlayerLocalOutboxUpdateResult :=
  match store.outboxAt index with
  | none => (store, .playerLocalOutboxRefused)
  | some current =>
    match claimCheckpointOutbox current nowMs leaseDurationMs with
    | .outboxClaimed entry => (store.setOutbox index entry, .playerLocalOutboxUpdated entry)
    | .outboxNotRetryable => (store, .playerLocalOutboxNoChange)
    | .outboxClaimRefused _ => (store, .playerLocalOutboxRefused)

def releaseOutboxAt : PlayerLocalAuditStore × PlayerLocalOutboxUpdateResult :=
  match store.outboxAt index with
  | none => (store, .playerLocalOutboxRefused)
  | some current =>
    match releaseCheckpointOutbox current with
    | .outboxReleased entry => (store.setOutbox index entry, .playerLocalOutboxUpdated entry)
    | .outboxReleaseNoop => (store, .playerLocalOutboxNoChange)

def acknowledgeOutboxAt (ack : AuthenticatedCheckpointAck) : PlayerLocalAuditStore × PlayerLocalOutboxUpdateResult :=
  match store.outboxAt index with
  | none => (store, .playerLocalOutboxRefused)
  | some current =>
    match acknowledgeCheckpointOutbox current ack with
    | .outboxAcknowledged entry =>
      ({ store.setOutbox index entry with ackHistoryValue := store.ackHistoryValue ++ [ack.evidenceValue] },
        .playerLocalOutboxUpdated entry)
    | .outboxAlreadyAcknowledged => (store, .playerLocalOutboxNoChange)
    | .outboxAckRefused _ => (store, .playerLocalOutboxRefused)

end

end PlayerLocalAuditStore

end ConvergeAudit.Runtime
