import ConvergeAudit.Runtime.Store
import ConvergeAudit.Moon.Scan
import ConvergeAudit.Moon.Fields

/-!
The validators of a database image, and `restore_player_local_audit_store`.
-/

namespace ConvergeAudit.Runtime
open Moon

section
variable (record : PlayerLocalCheckpointOutboxRecord) (boundary : AuditBoundary) (image : PlayerLocalAuditImage)

def localOutboxRecordValid : Bool :=
  boundaryValid record.boundary && record.destinationId != Str.empty && record.epoch ≥ 0 &&
    record.checkpointDigest.text != Str.empty && record.canonicalEnvelope != Str.empty && record.createdOrder ≥ 0 &&
    (match record.state with
      | .outboxInFlight leaseExpiresAtMs => leaseExpiresAtMs ≥ 0
      | .outboxPending | .outboxAcknowledgedState => true)

def restoreLocalOutboxEntry : Option CheckpointOutboxEntry :=
  if !localOutboxRecordValid record then none
  else some
    { boundaryValue := record.boundary
      destinationIdValue := record.destinationId
      epochValue := record.epoch
      checkpointDigestValue := record.checkpointDigest
      canonicalEnvelopeValue := record.canonicalEnvelope
      createdOrderValue := record.createdOrder
      stateValue := record.state }

def activeLocalOutboxRecordCount (entries : List PlayerLocalCheckpointOutboxRecord) : ℤ :=
  entries.foldl (fun count entry => if entry.state ≠ .outboxAcknowledgedState then count + 1 else count) 0

def eventKey (event : PlayerLocalAuditEvent) : Str := localEventKey event.authorId event.counter

def conflictKey (evidence : PlayerLocalEventEquivocation) : Str :=
  eventKey evidence.accepted ++ lit ":" ++ evidence.conflicting.eventDigest.text

def localImageEquivocationValid (acceptedByKey : Map Str PlayerLocalAuditEvent)
    (evidence : PlayerLocalEventEquivocation) : Bool :=
  match acceptedByKey.get (eventKey evidence.accepted) with
  | some accepted =>
    !(accepted ≠ evidence.accepted || evidence.conflicting.boundary ≠ image.boundary ||
      evidence.conflicting.authorId ≠ accepted.authorId || evidence.conflicting.counter ≠ accepted.counter ||
      evidence.conflicting.eventDigest = accepted.eventDigest ||
      evidence.conflicting.epoch ≤ image.retentionAnchor.epoch ||
      (playerLocalEventRefusal image.boundary evidence.conflicting).isSome)
  | none => false

def localImageEventsValid : Bool :=
  match collectDistinct eventKey id
      (fun event => !((playerLocalEventRefusal image.boundary event).isSome ||
        event.epoch ≤ image.retentionAnchor.epoch)) Map.empty image.events with
  | none => false
  | some acceptedByKey => allDistinct conflictKey (localImageEquivocationValid image acceptedByKey) image.equivocations

def chainLinkValid (expectedEpoch : ℤ) (expectedParent : AuditDigest) (checkpoint : CheckpointSealDraft) : Bool :=
  !(checkpoint.boundary ≠ image.boundary || checkpoint.epoch ≠ expectedEpoch ||
    checkpoint.previousCheckpoint ≠ expectedParent || checkpoint.checkpointDigest.text = Str.empty ||
    checkpoint.canonicalEnvelope = Str.empty || !image.consumedClosureEpochs.contains checkpoint.epoch)

def checkpointChainLoop (image : PlayerLocalAuditImage) (expectedEpoch : ℤ) (expectedParent : AuditDigest) :
    List CheckpointSealDraft → Bool
  | [] => true
  | checkpoint :: rest =>
    if !chainLinkValid image expectedEpoch expectedParent checkpoint then false
    else checkpointChainLoop image (expectedEpoch + 1) checkpoint.checkpointDigest rest

def localImageCheckpointChainValid : Bool :=
  checkpointChainLoop image (image.retentionAnchor.epoch + 1) image.retentionAnchor.checkpointDigest
      image.checkpoints &&
    match image.checkpoints.getLast? with
    | none =>
      image.head == ⟨image.retentionAnchor.boundary, image.retentionAnchor.epoch, image.retentionAnchor.checkpointDigest⟩
    | some latest => image.head == ⟨image.boundary, latest.epoch, latest.checkpointDigest⟩

def outboxRowValid (entry : PlayerLocalCheckpointOutboxRecord) : Bool :=
  localOutboxRecordValid entry && entry.boundary = image.boundary &&
    match checkpointForEpoch image.checkpoints entry.epoch with
    | some checkpoint =>
      !(checkpoint.checkpointDigest ≠ entry.checkpointDigest || checkpoint.canonicalEnvelope ≠ entry.canonicalEnvelope)
    | none => false

/-- The loop over the outbox: the epochs that have a row, and the largest created order. -/
def outboxLoop (image : PlayerLocalAuditImage) (seenOrder checkpointHasOutbox : Map ℤ Bool) (maxCreatedOrder : ℤ) :
    List PlayerLocalCheckpointOutboxRecord → Option (Map ℤ Bool × ℤ)
  | [] => some (checkpointHasOutbox, maxCreatedOrder)
  | entry :: rest =>
    if !outboxRowValid image entry || seenOrder.contains entry.createdOrder then none
    else outboxLoop image (seenOrder.set entry.createdOrder true) (checkpointHasOutbox.set entry.epoch true)
      (if entry.createdOrder > maxCreatedOrder then entry.createdOrder else maxCreatedOrder) rest

def localImageOutboxValid : Bool :=
  if activeLocalOutboxRecordCount image.outbox > image.outboxCapacity || image.nextCreatedOrder < 0 then false
  else match outboxLoop image Map.empty Map.empty (-1) image.outbox with
  | none => false
  | some (checkpointHasOutbox, maxCreatedOrder) =>
    (image.checkpoints.all fun checkpoint => checkpointHasOutbox.contains checkpoint.epoch) &&
      image.nextCreatedOrder > maxCreatedOrder

def localAckKey (evidence : CheckpointAckEvidence) : Str :=
  Str.ofInt evidence.authorityId.length ++ lit ":" ++ evidence.authorityId ++ lit ":" ++ Str.ofInt evidence.epoch ++
    lit ":" ++ evidence.checkpointDigest.text

def localAckMatchesOutbox (evidence : CheckpointAckEvidence) (entry : PlayerLocalCheckpointOutboxRecord) : Bool :=
  evidence.boundary = entry.boundary && evidence.authorityId = entry.destinationId && evidence.epoch = entry.epoch &&
    evidence.checkpointDigest = entry.checkpointDigest &&
    (evidence.decision = .checkpointAccepted || evidence.decision = .checkpointDuplicate)

def localImageAckHistoryValid : Bool :=
  allDistinct localAckKey
      (fun evidence =>
        !(!boundaryValid evidence.boundary || evidence.boundary ≠ image.boundary || evidence.authorityId = Str.empty ||
          evidence.epoch < 0 || evidence.checkpointDigest.text = Str.empty) &&
        image.outbox.any fun entry => localAckMatchesOutbox evidence entry && entry.state = .outboxAcknowledgedState)
      image.ackHistory &&
    image.outbox.all fun entry =>
      entry.state ≠ .outboxAcknowledgedState ||
        image.ackHistory.any fun evidence => localAckMatchesOutbox evidence entry

def evidenceHoldValid (checkpoints : List CheckpointSealDraft) (hold : PlayerLocalEvidenceHold) : Bool :=
  !(!boundaryValid hold.boundary || hold.boundary ≠ boundary || hold.holdId = Str.empty || hold.epoch < 0 ||
      hold.checkpointDigest.text = Str.empty || hold.referenceDigest.text = Str.empty) &&
    (match checkpointForEpoch checkpoints hold.epoch with
      | some checkpoint => checkpoint.checkpointDigest = hold.checkpointDigest
      | none => false) &&
    (match hold.state with
      | .evidenceHoldActive => true
      | .evidenceHoldResolved _ resolutionDigest => resolutionDigest.text != Str.empty)

def localImageEvidenceHoldsValid : Bool :=
  allDistinct (·.holdId) (evidenceHoldValid image.boundary image.checkpoints) image.evidenceHolds

def evidenceInboxCursorValid (cursor : PlayerLocalEvidenceInboxCursor) : Bool :=
  !(!boundaryValid cursor.boundary || cursor.boundary ≠ boundary || cursor.sourceId = Str.empty ||
    cursor.sequence < 0 || cursor.messageDigest.text = Str.empty)

def localImageEvidenceInboxCursorsValid : Bool :=
  allDistinct (·.sourceId) (evidenceInboxCursorValid image.boundary) image.evidenceInboxCursors

def evidencePollJobValid (job : PlayerLocalEvidencePollJob) : Bool :=
  !(!boundaryValid job.boundary || job.boundary ≠ boundary || job.sourceId = Str.empty ||
      job.endpoint = Str.empty || job.initialMessageDigest.text = Str.empty || job.deadlineAtMs < 0 ||
      job.nextPollAtMs < 0 || job.nextPollAtMs > job.deadlineAtMs || job.failures < 0 || job.attemptCount < 0) &&
    match job.state with
    | .evidencePollScheduled => true
    | .evidencePollInFlight leaseExpiresAtMs =>
      !(job.attemptCount = 0 || leaseExpiresAtMs < 0 || leaseExpiresAtMs > job.deadlineAtMs)
    | .evidencePollExpired expiredAtMs => !(expiredAtMs < job.deadlineAtMs : Bool)
    | .evidencePollEscalated escalatedAtMs reasonDigest => !(escalatedAtMs < 0 || reasonDigest.text = Str.empty)

def localImageEvidencePollJobsValid : Bool :=
  allDistinct (·.sourceId) (evidencePollJobValid image.boundary) image.evidencePollJobs

/-- The condition under which an image with a boundary, a genesis and a capacity is refused. -/
def localImageInvalid : Bool :=
  image.storageRevision < 0 || image.retentionAnchor.boundary ≠ image.boundary ||
    image.retentionAnchor.epoch < -1 || image.retentionAnchor.epoch > image.head.epoch ||
    image.retentionAnchor.checkpointDigest.text = Str.empty ||
    (image.retentionAnchor.epoch = -1 && image.retentionAnchor.checkpointDigest ≠ image.genesisDigest) ||
    !localImageEventsValid image || !localImageCheckpointChainValid image || !localImageEvidenceHoldsValid image ||
    !localImageEvidenceInboxCursorsValid image || !localImageEvidencePollJobsValid image ||
    !localImageOutboxValid image || !localImageAckHistoryValid image

/-- The store of the last step of the restoration. -/
def storeOfImage (restoredOutbox : List CheckpointOutboxEntry) : PlayerLocalAuditStore where
  boundaryValue := image.boundary
  genesisDigestValue := image.genesisDigest
  outboxCapacityValue := image.outboxCapacity
  eventsValue := image.events
  equivocationsValue := image.equivocations
  checkpointsValue := image.checkpoints
  headValue := image.head
  retentionAnchorValue := image.retentionAnchor
  evidenceHoldsValue := image.evidenceHolds
  evidenceInboxCursorsValue := image.evidenceInboxCursors
  evidencePollJobsValue := image.evidencePollJobs
  consumedClosureEpochsValue := image.consumedClosureEpochs
  outboxValue := restoredOutbox
  ackHistoryValue := image.ackHistory
  nextCreatedOrderValue := image.nextCreatedOrder
  storageRevisionValue := image.storageRevision

def restorePlayerLocalAuditStore : PlayerLocalAuditStoreOpenResult :=
  if !boundaryValid image.boundary then .playerLocalAuditStoreRefused .localStoreInvalidBoundary
  else if image.genesisDigest.text = Str.empty then .playerLocalAuditStoreRefused .localStoreMissingGenesis
  else if image.outboxCapacity < 0 then .playerLocalAuditStoreRefused .localStoreInvalidOutboxCapacity
  else if localImageInvalid image then .playerLocalAuditStoreRefused .localStoreInvalidImage
  else match image.outbox.mapM restoreLocalOutboxEntry with
  | none => .playerLocalAuditStoreRefused .localStoreInvalidImage
  | some restoredOutbox => .playerLocalAuditStoreReady (storeOfImage image restoredOutbox)

end

end ConvergeAudit.Runtime
