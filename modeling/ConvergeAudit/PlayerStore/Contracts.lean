import ConvergeAudit.Js.Values
import ConvergeAudit.Moon.Scan
import ConvergeAudit.Lib.Fallible

/-!
`player-local-runtime/contracts.ts`. A record of a contract is the row of its table with the boundary of the store.
`urlProtocol` stands for the URL parser: the protocol of an address that it accepts.
-/

namespace ConvergeAudit.PlayerStore

open Moon Js Lib.Fallible

structure AuditBoundary where
  protocolVersion : Int
  purpose : Str
  manifestDigest : Str
  scopeId : Str
  unitId : Str
  deriving DecidableEq

structure PlayerLocalStoreConfiguration where
  boundary : AuditBoundary
  genesisDigest : Str
  outboxCapacity : Int
  deriving DecidableEq

structure EventRow where
  authorId : Str
  counter : Int
  epoch : Int
  eventDigest : Str
  canonicalEvent : Str
  deriving DecidableEq

structure PlayerLocalAuditEvent extends EventRow where
  boundary : AuditBoundary

structure PlayerLocalEventEquivocation where
  accepted : PlayerLocalAuditEvent
  conflicting : PlayerLocalAuditEvent

structure CheckpointRow where
  epoch : Int
  previousCheckpoint : Str
  checkpointDigest : Str
  canonicalEnvelope : Str
  deriving DecidableEq

structure CheckpointSealDraft extends CheckpointRow where
  boundary : AuditBoundary

@[ext] structure HeadRow where
  epoch : Int
  checkpointDigest : Str
  deriving DecidableEq

structure CheckpointSealHead extends HeadRow where
  boundary : AuditBoundary

/-- Last checkpoint whose detailed local evidence was safely pruned. It has the fields of a head, and is used as one. -/
abbrev PlayerLocalRetentionAnchor := CheckpointSealHead

inductive CheckpointOutboxState
  | pending
  | inFlight (leaseExpiresAtMs : Int)
  | acknowledged
  deriving DecidableEq

structure OutboxRow where
  destinationId : Str
  epoch : Int
  checkpointDigest : Str
  canonicalEnvelope : Str
  createdOrder : Int
  state : CheckpointOutboxState
  deriving DecidableEq

structure PlayerLocalCheckpointOutboxRecord extends OutboxRow where
  boundary : AuditBoundary
  deriving DecidableEq

structure ClosureRow where
  epoch : Int
  rosterDigest : Str
  frontierDigest : Str
  certificateDigest : Str
  deriving DecidableEq

structure EpochClosureEvidence extends ClosureRow where
  boundary : AuditBoundary

inductive AckDecision
  | accepted
  | duplicate
  deriving DecidableEq

structure AckRow where
  authorityId : Str
  epoch : Int
  checkpointDigest : Str
  decision : AckDecision
  deriving DecidableEq

structure CheckpointAckEvidence extends AckRow where
  boundary : AuditBoundary

inductive PlayerLocalEvidenceHoldKind
  | fork
  | challenge
  | appeal
  deriving DecidableEq

inductive HoldDecision
  | upheld
  | dismissed
  deriving DecidableEq

inductive PlayerLocalEvidenceHoldState
  | active
  | resolved (decision : HoldDecision) (resolutionDigest : Str)
  deriving DecidableEq

structure EvidenceHoldRow where
  holdId : Str
  epoch : Int
  checkpointDigest : Str
  kind : PlayerLocalEvidenceHoldKind
  referenceDigest : Str
  state : PlayerLocalEvidenceHoldState
  deriving DecidableEq

structure PlayerLocalEvidenceHold extends EvidenceHoldRow where
  boundary : AuditBoundary
  deriving DecidableEq

structure PlayerLocalEvidenceHoldResolution where
  boundary : AuditBoundary
  holdId : Str
  epoch : Int
  checkpointDigest : Str
  referenceDigest : Str
  decision : HoldDecision
  resolutionDigest : Str
  deriving DecidableEq

structure EvidenceInboxCursorRow where
  sourceId : Str
  sequence : Int
  messageDigest : Str
  deriving DecidableEq

/-- The sequence `-1` is allowed only as an expected, not-yet-persisted genesis cursor. -/
structure PlayerLocalEvidenceInboxCursor extends EvidenceInboxCursorRow where
  boundary : AuditBoundary
  deriving DecidableEq

inductive PlayerLocalEvidencePollJobState
  | scheduled
  | inFlight (leaseExpiresAtMs : Int)
  | expired (expiredAtMs : Int)
  | escalated (escalatedAtMs : Int) (reasonDigest : Str)
  deriving DecidableEq

structure PollSchedule where
  sourceId : Str
  endpoint : Str
  initialMessageDigest : Str
  deadlineAtMs : Int
  nextPollAtMs : Int
  deriving DecidableEq

structure PlayerLocalEvidencePollJobDraft extends PollSchedule where
  boundary : AuditBoundary

structure EvidencePollJobRow extends PollSchedule where
  failures : Int
  attemptCount : Int
  state : PlayerLocalEvidencePollJobState
  deriving DecidableEq

structure PlayerLocalEvidencePollJob extends EvidencePollJobRow where
  boundary : AuditBoundary
  deriving DecidableEq

structure PlayerLocalEvidencePollJobCompletion where
  sourceId : Str
  expectedAttemptCount : Int
  expectedLeaseExpiresAtMs : Int
  completedAtMs : Int
  nextPollAtMs : Int
  failures : Int

inductive PlayerLocalEvidenceInboxOperation
  | place (hold : PlayerLocalEvidenceHold)
  | resolve (resolution : PlayerLocalEvidenceHoldResolution)
  deriving DecidableEq

structure PlayerLocalEvidenceInboxWriteSet where
  expectedRevision : Int
  expectedCursor : PlayerLocalEvidenceInboxCursor
  nextCursor : PlayerLocalEvidenceInboxCursor
  messageId : Str
  operation : PlayerLocalEvidenceInboxOperation

structure CheckpointSealStorageSnapshot where
  boundary : AuditBoundary
  currentEpoch : Int
  currentDigest : Str
  incomingEpochKnown : Bool
  knownDigestMatches : Bool
  knownSealComplete : Bool
  closureConsumed : Bool
  outboxEntryCount : Int
  outboxCapacity : Int
  nextCreatedOrder : Int
  deriving DecidableEq

structure PlayerLocalSealWriteSet where
  expectedRevision : Int
  expectedSnapshot : CheckpointSealStorageSnapshot
  checkpoint : CheckpointSealDraft
  nextHead : CheckpointSealHead
  outboxEntries : List PlayerLocalCheckpointOutboxRecord
  consumedClosure : EpochClosureEvidence
  nextOutboxEntryCount : Int
  nextCreatedOrder : Int

structure PlayerLocalPruneWriteSet where
  retainFromEpoch : Int
  protectedEpochs : List Int
  expectedRevision : Int
  expectedAnchor : PlayerLocalRetentionAnchor
  nextAnchor : PlayerLocalRetentionAnchor

structure PlayerLocalAuditImage where
  boundary : AuditBoundary
  genesisDigest : Str
  outboxCapacity : Int
  events : List PlayerLocalAuditEvent
  equivocations : List PlayerLocalEventEquivocation
  checkpoints : List CheckpointSealDraft
  head : CheckpointSealHead
  retentionAnchor : PlayerLocalRetentionAnchor
  evidenceHolds : List PlayerLocalEvidenceHold
  evidenceInboxCursors : List PlayerLocalEvidenceInboxCursor
  evidencePollJobs : List PlayerLocalEvidencePollJob
  consumedClosures : List EpochClosureEvidence
  outbox : List PlayerLocalCheckpointOutboxRecord
  ackHistory : List CheckpointAckEvidence
  nextCreatedOrder : Int
  storageRevision : Int

def isNonNegativeInteger (value : Int) : Bool := safeNonNegativeInteger value

theorem isNonNegativeInteger_iff : isNonNegativeInteger value = true ↔ 0 ≤ value ∧ value ≤ maxSafeInteger :=
  safeNonNegativeInteger_iff

def playerLocalBoundaryValid (boundary : AuditBoundary) : Bool :=
  isSafeInteger boundary.protocolVersion && decide (0 < boundary.protocolVersion) && decide (0 < boundary.purpose.length) &&
  decide (0 < boundary.manifestDigest.length) && decide (0 < boundary.scopeId.length) && decide (0 < boundary.unitId.length)

def samePlayerLocalBoundary (left right : AuditBoundary) : Bool :=
  decide (left.protocolVersion = right.protocolVersion) && decide (left.purpose = right.purpose) &&
  decide (left.manifestDigest = right.manifestDigest) && decide (left.scopeId = right.scopeId) &&
  decide (left.unitId = right.unitId)

@[simp] theorem samePlayerLocalBoundary_iff : samePlayerLocalBoundary left right = true ↔ left = right := by
  obtain ⟨version, purpose, manifest, scope_, unit⟩ := left
  obtain ⟨version', purpose', manifest', scope', unit'⟩ := right
  simp [samePlayerLocalBoundary, and_assoc]

def samePlayerLocalHead (left right : CheckpointSealHead) : Bool :=
  samePlayerLocalBoundary left.boundary right.boundary && decide (left.epoch = right.epoch) &&
  decide (left.checkpointDigest = right.checkpointDigest)

@[simp] theorem samePlayerLocalHead_iff : samePlayerLocalHead left right = true ↔ left = right := by
  obtain ⟨⟨epoch, digest⟩, boundary⟩ := left
  obtain ⟨⟨epoch', digest'⟩, boundary'⟩ := right
  simp [samePlayerLocalHead, and_assoc, and_comm, and_left_comm]

section
variable (boundary : AuditBoundary)

def samePlayerLocalRetentionAnchor (left right : PlayerLocalRetentionAnchor) : Bool := samePlayerLocalHead left right

def playerLocalEventValid (event : PlayerLocalAuditEvent) : Bool :=
  samePlayerLocalBoundary boundary event.boundary && decide (0 < event.authorId.length) &&
  isNonNegativeInteger event.counter && isNonNegativeInteger event.epoch && decide (0 < event.eventDigest.length) &&
  decide (0 < event.canonicalEvent.length)

def playerLocalCheckpointValid (checkpoint : CheckpointSealDraft) : Bool :=
  samePlayerLocalBoundary boundary checkpoint.boundary && isNonNegativeInteger checkpoint.epoch &&
  decide (0 < checkpoint.previousCheckpoint.length) && decide (0 < checkpoint.checkpointDigest.length) &&
  decide (0 < checkpoint.canonicalEnvelope.length)

def playerLocalClosureValid (closure : EpochClosureEvidence) : Bool :=
  samePlayerLocalBoundary boundary closure.boundary && isNonNegativeInteger closure.epoch &&
  decide (0 < closure.rosterDigest.length) && decide (0 < closure.frontierDigest.length) &&
  decide (0 < closure.certificateDigest.length)

def holdStateValid : PlayerLocalEvidenceHoldState → Bool
  | .active => true
  | .resolved _ resolutionDigest => decide (0 < resolutionDigest.length)

def playerLocalEvidenceHoldValid (hold : PlayerLocalEvidenceHold) : Bool :=
  samePlayerLocalBoundary boundary hold.boundary && decide (0 < hold.holdId.length) && isNonNegativeInteger hold.epoch &&
  decide (0 < hold.checkpointDigest.length) && decide (0 < hold.referenceDigest.length) && holdStateValid hold.state

def playerLocalEvidenceHoldResolutionValid (resolution : PlayerLocalEvidenceHoldResolution) : Bool :=
  samePlayerLocalBoundary boundary resolution.boundary && decide (0 < resolution.holdId.length) &&
  isNonNegativeInteger resolution.epoch && decide (0 < resolution.checkpointDigest.length) &&
  decide (0 < resolution.referenceDigest.length) && decide (0 < resolution.resolutionDigest.length)

end

section PollJobs

variable (urlProtocol : Str → Option Str)

def playerLocalPollEndpointValid (value : Str) : Bool :=
  decide (0 < value.length) && decide (value.length ≤ 4096) &&
  (decide (urlProtocol value = some "https:") || decide (urlProtocol value = some "http:"))

def playerLocalEvidencePollJobDraftValid (boundary : AuditBoundary) (draft : PlayerLocalEvidencePollJobDraft) : Bool :=
  samePlayerLocalBoundary boundary draft.boundary && decide (0 < draft.sourceId.length) &&
  decide (draft.sourceId.length ≤ 256) && playerLocalPollEndpointValid urlProtocol draft.endpoint &&
  decide (0 < draft.initialMessageDigest.length) && decide (draft.initialMessageDigest.length ≤ 4096) &&
  isNonNegativeInteger draft.deadlineAtMs && isNonNegativeInteger draft.nextPollAtMs &&
  decide (draft.nextPollAtMs ≤ draft.deadlineAtMs)

def pollStateValid (job : EvidencePollJobRow) : Bool :=
  match job.state with
  | .scheduled => true
  | .inFlight leaseExpiresAtMs =>
    decide (0 < job.attemptCount) && isNonNegativeInteger leaseExpiresAtMs && decide (leaseExpiresAtMs ≤ job.deadlineAtMs)
  | .expired expiredAtMs => isNonNegativeInteger expiredAtMs && decide (job.deadlineAtMs ≤ expiredAtMs)
  | .escalated escalatedAtMs reasonDigest =>
    isNonNegativeInteger escalatedAtMs && decide (0 < reasonDigest.length) && decide (reasonDigest.length ≤ 4096)

def PlayerLocalEvidencePollJob.draft (job : PlayerLocalEvidencePollJob) : PlayerLocalEvidencePollJobDraft :=
  ⟨job.toPollSchedule, job.boundary⟩

def playerLocalEvidencePollJobValid (boundary : AuditBoundary) (job : PlayerLocalEvidencePollJob) : Bool :=
  playerLocalEvidencePollJobDraftValid urlProtocol boundary job.draft && isNonNegativeInteger job.failures &&
  isNonNegativeInteger job.attemptCount && pollStateValid job.toEvidencePollJobRow

end PollJobs

section
variable (image : PlayerLocalAuditImage) (writeSet : PlayerLocalEvidenceInboxWriteSet)

def samePlayerLocalEvidencePollJobDraft (job : PlayerLocalEvidencePollJob) (draft : PlayerLocalEvidencePollJobDraft) : Bool :=
  samePlayerLocalBoundary job.boundary draft.boundary && decide (job.sourceId = draft.sourceId) &&
  decide (job.endpoint = draft.endpoint) && decide (job.initialMessageDigest = draft.initialMessageDigest) &&
  decide (job.deadlineAtMs = draft.deadlineAtMs)

def samePlayerLocalEvidenceInboxCursor (left right : PlayerLocalEvidenceInboxCursor) : Bool :=
  samePlayerLocalBoundary left.boundary right.boundary && decide (left.sourceId = right.sourceId) &&
  decide (left.sequence = right.sequence) && decide (left.messageDigest = right.messageDigest)

def inboxCursorsValid : Bool :=
  let expected := writeSet.expectedCursor
  let next := writeSet.nextCursor
  isNonNegativeInteger writeSet.expectedRevision && decide (writeSet.expectedRevision = image.storageRevision) &&
  samePlayerLocalBoundary image.boundary expected.boundary && samePlayerLocalBoundary image.boundary next.boundary &&
  decide (0 < expected.sourceId.length) && decide (expected.sourceId.length ≤ 256) &&
  decide (expected.sourceId = next.sourceId) && isSafeInteger expected.sequence && decide (-1 ≤ expected.sequence) &&
  isNonNegativeInteger next.sequence && decide (next.sequence = expected.sequence + 1) &&
  decide (0 < expected.messageDigest.length) && decide (expected.messageDigest.length ≤ 4096) &&
  decide (0 < next.messageDigest.length) && decide (next.messageDigest.length ≤ 4096) &&
  decide (next.messageDigest ≠ expected.messageDigest) && decide (0 < writeSet.messageId.length) &&
  (match image.evidenceInboxCursors.find? fun cursor => cursor.sourceId = expected.sourceId with
    | some current => samePlayerLocalEvidenceInboxCursor current expected
    | none => decide (expected.sequence = -1))

def inboxOperationValid (messageId : Str) : PlayerLocalEvidenceInboxOperation → Bool
  | .place hold =>
    decide (messageId = hold.holdId) && playerLocalEvidenceHoldValid image.boundary hold && decide (hold.state = .active) &&
    ((image.checkpoints.find? fun checkpoint => checkpoint.epoch = hold.epoch).any fun checkpoint =>
      decide (checkpoint.checkpointDigest = hold.checkpointDigest)) &&
    (match image.evidenceHolds.find? fun existing => existing.holdId = hold.holdId with
      | none => true
      | some existing =>
        decide (existing.epoch = hold.epoch) && decide (existing.checkpointDigest = hold.checkpointDigest) &&
        decide (existing.kind = hold.kind) && decide (existing.referenceDigest = hold.referenceDigest) &&
        decide (existing.state = .active))
  | .resolve resolution =>
    decide (messageId = resolution.holdId) && playerLocalEvidenceHoldResolutionValid image.boundary resolution &&
    (match image.evidenceHolds.find? fun existing => existing.holdId = resolution.holdId with
      | none => false
      | some existing =>
        decide (existing.epoch = resolution.epoch) && decide (existing.checkpointDigest = resolution.checkpointDigest) &&
        decide (existing.referenceDigest = resolution.referenceDigest) &&
        (decide (existing.state = .active) ||
          decide (existing.state = .resolved resolution.decision resolution.resolutionDigest)))

def playerLocalEvidenceInboxWriteSetValid : Bool :=
  inboxCursorsValid image writeSet && inboxOperationValid image writeSet.messageId writeSet.operation

def sealEntryValid (boundary : AuditBoundary) (checkpoint : CheckpointSealDraft) (createdOrder : Int)
    (entry : PlayerLocalCheckpointOutboxRecord) : Bool :=
  samePlayerLocalBoundary boundary entry.boundary && decide (0 < entry.destinationId.length) &&
  decide (entry.epoch = checkpoint.epoch) && decide (entry.checkpointDigest = checkpoint.checkpointDigest) &&
  decide (entry.canonicalEnvelope = checkpoint.canonicalEnvelope) && decide (entry.createdOrder = createdOrder) &&
  decide (entry.state = .pending)

/-- The loop over the outbox entries of a seal. `destinations` are those before, `createdOrder` the order of the next one. -/
def sealEntriesValid (boundary : AuditBoundary) (checkpoint : CheckpointSealDraft) (destinations : List Str)
    (createdOrder : Int) : List PlayerLocalCheckpointOutboxRecord → Bool
  | [] => true
  | entry :: rest =>
    sealEntryValid boundary checkpoint createdOrder entry && !destinations.contains entry.destinationId &&
    sealEntriesValid boundary checkpoint (entry.destinationId :: destinations) (createdOrder + 1) rest

def playerLocalSealWriteSetValid (configuration : PlayerLocalStoreConfiguration) (writeSet : PlayerLocalSealWriteSet) :
    Bool :=
  let boundary := configuration.boundary
  let checkpoint := writeSet.checkpoint
  let snapshot := writeSet.expectedSnapshot
  isNonNegativeInteger writeSet.expectedRevision && playerLocalCheckpointValid boundary checkpoint &&
  playerLocalClosureValid boundary writeSet.consumedClosure && decide (checkpoint.epoch = snapshot.currentEpoch + 1) &&
  decide (checkpoint.previousCheckpoint = snapshot.currentDigest) &&
  decide (writeSet.consumedClosure.epoch = checkpoint.epoch) &&
  samePlayerLocalHead writeSet.nextHead ⟨⟨checkpoint.epoch, checkpoint.checkpointDigest⟩, boundary⟩ &&
  decide (writeSet.outboxEntries ≠ []) &&
  decide (writeSet.nextOutboxEntryCount = snapshot.outboxEntryCount + writeSet.outboxEntries.length) &&
  decide (writeSet.nextOutboxEntryCount ≤ configuration.outboxCapacity) &&
  decide (writeSet.nextCreatedOrder = snapshot.nextCreatedOrder + writeSet.outboxEntries.length) &&
  isSafeInteger writeSet.nextCreatedOrder &&
  sealEntriesValid boundary checkpoint [] snapshot.nextCreatedOrder writeSet.outboxEntries

end

section Prune

variable (image : PlayerLocalAuditImage) (writeSet : PlayerLocalPruneWriteSet)

def protectedEpochsOf : List Int :=
  writeSet.protectedEpochs ++ (image.evidenceHolds.filter fun hold => hold.state = .active).map (·.epoch)

def equivocationEpochsOf : List Int :=
  image.equivocations.flatMap fun evidence => [evidence.accepted.epoch, evidence.conflicting.epoch]

def epochOutbox (checkpoint : CheckpointSealDraft) : List PlayerLocalCheckpointOutboxRecord :=
  image.outbox.filter fun entry => entry.epoch = checkpoint.epoch ∧ entry.checkpointDigest = checkpoint.checkpointDigest

def prunable (expectedParent : Str) (expectedEpoch : Int) (checkpoint : CheckpointSealDraft) : Bool :=
  decide (checkpoint.epoch = expectedEpoch) && decide (checkpoint.previousCheckpoint = expectedParent) &&
  decide (checkpoint.epoch < writeSet.retainFromEpoch) && !(protectedEpochsOf image writeSet).contains checkpoint.epoch &&
  !(equivocationEpochsOf image).contains checkpoint.epoch && decide (epochOutbox image checkpoint ≠ []) &&
  (epochOutbox image checkpoint).all fun entry => entry.state = .acknowledged

/-- The loop over the checkpoints: the parent and the epoch that the next one would have. -/
def pruneLoop (expectedParent : Str) (expectedEpoch : Int) : List CheckpointSealDraft → Option (Str × Int)
  | [] => some (expectedParent, expectedEpoch)
  | checkpoint :: rest =>
    if checkpoint.epoch > writeSet.nextAnchor.epoch then some (expectedParent, expectedEpoch)
    else if !prunable image writeSet expectedParent expectedEpoch checkpoint then none
    else pruneLoop checkpoint.checkpointDigest (expectedEpoch + 1) rest

def playerLocalPruneWriteSetValid : Bool :=
  isNonNegativeInteger writeSet.expectedRevision && decide (writeSet.expectedRevision = image.storageRevision) &&
  samePlayerLocalRetentionAnchor writeSet.expectedAnchor image.retentionAnchor &&
  samePlayerLocalBoundary image.boundary writeSet.nextAnchor.boundary && isNonNegativeInteger writeSet.retainFromEpoch &&
  decide (writeSet.retainFromEpoch ≤ image.head.epoch + 1) &&
  decide (writeSet.expectedAnchor.epoch < writeSet.nextAnchor.epoch) &&
  decide (writeSet.nextAnchor.epoch < writeSet.retainFromEpoch) && decide (writeSet.nextAnchor.epoch ≤ image.head.epoch) &&
  allDistinct id (fun epoch => isNonNegativeInteger epoch && decide (image.retentionAnchor.epoch < epoch))
    writeSet.protectedEpochs &&
  decide (pruneLoop image writeSet image.retentionAnchor.checkpointDigest (image.retentionAnchor.epoch + 1)
    image.checkpoints = some (writeSet.nextAnchor.checkpointDigest, writeSet.nextAnchor.epoch + 1))

end Prune

def eventKey (authorId : Str) (counter : Int) : Str := nulJoin authorId (Str.ofInt counter)

def conflictKey (evidence : PlayerLocalEventEquivocation) : Str :=
  nulJoin (eventKey evidence.accepted.authorId evidence.accepted.counter) evidence.conflicting.eventDigest

def outboxAckKey (authorityId : Str) (epoch : Int) (checkpointDigest : Str) : Str :=
  nulJoin (nulJoin authorityId (Str.ofInt epoch)) checkpointDigest

section Image

variable (image : PlayerLocalAuditImage)

def configurationValid : Bool :=
  playerLocalBoundaryValid image.boundary && decide (0 < image.genesisDigest.length) &&
  isNonNegativeInteger image.outboxCapacity && isNonNegativeInteger image.storageRevision &&
  isNonNegativeInteger image.nextCreatedOrder &&
  decide (((image.outbox.filter fun entry => entry.state ≠ .acknowledged).length : Int) ≤ image.outboxCapacity)

def retentionAnchorValid : Bool :=
  samePlayerLocalBoundary image.boundary image.retentionAnchor.boundary && isSafeInteger image.retentionAnchor.epoch &&
  decide (-1 ≤ image.retentionAnchor.epoch) && decide (image.retentionAnchor.epoch ≤ image.head.epoch) &&
  decide (0 < image.retentionAnchor.checkpointDigest.length) &&
  decide (image.retentionAnchor.epoch = -1 → image.retentionAnchor.checkpointDigest = image.genesisDigest)

def imageEventValid (event : PlayerLocalAuditEvent) : Bool :=
  playerLocalEventValid image.boundary event && decide (image.retentionAnchor.epoch < event.epoch)

def eventKeysOf : Option (Map Str Bool) :=
  collectDistinct (fun event => eventKey event.authorId event.counter) (fun _ => true) (imageEventValid image) Map.empty
    image.events

def imageEquivocationValid (eventKeys : Map Str Bool) (evidence : PlayerLocalEventEquivocation) : Bool :=
  eventKeys.contains (eventKey evidence.accepted.authorId evidence.accepted.counter) &&
  playerLocalEventValid image.boundary evidence.conflicting &&
  decide (image.retentionAnchor.epoch < evidence.conflicting.epoch) &&
  decide (evidence.accepted.authorId = evidence.conflicting.authorId) &&
  decide (evidence.accepted.counter = evidence.conflicting.counter) &&
  decide (evidence.accepted.eventDigest ≠ evidence.conflicting.eventDigest)

/-- The loop over the checkpoints from an index on: the parent and the epoch that the next one would have. -/
def chainLoop (index : Nat) (expectedParent : Str) (expectedEpoch : Int) : List CheckpointSealDraft → Option (Str × Int)
  | [] => some (expectedParent, expectedEpoch)
  | checkpoint :: rest =>
    if playerLocalCheckpointValid image.boundary checkpoint && decide (checkpoint.epoch = expectedEpoch) &&
      decide (checkpoint.previousCheckpoint = expectedParent) &&
      (image.consumedClosures[index]?.any fun closure =>
        decide (closure.epoch = expectedEpoch) && playerLocalClosureValid image.boundary closure) then
      chainLoop (index + 1) checkpoint.checkpointDigest (expectedEpoch + 1) rest
    else none

def checkpointByEpoch : Map Int CheckpointSealDraft :=
  image.checkpoints.foldl (fun byEpoch checkpoint => byEpoch.set checkpoint.epoch checkpoint) Map.empty

def imageHoldValid (hold : PlayerLocalEvidenceHold) : Bool :=
  playerLocalEvidenceHoldValid image.boundary hold &&
  ((checkpointByEpoch image).get hold.epoch).any fun checkpoint =>
    decide (checkpoint.checkpointDigest = hold.checkpointDigest)

def imageCursorValid (cursor : PlayerLocalEvidenceInboxCursor) : Bool :=
  samePlayerLocalBoundary image.boundary cursor.boundary && decide (0 < cursor.sourceId.length) &&
  decide (cursor.sourceId.length ≤ 256) && isNonNegativeInteger cursor.sequence && decide (0 < cursor.messageDigest.length) &&
  decide (cursor.messageDigest.length ≤ 4096)

def outboxStateValid : CheckpointOutboxState → Bool
  | .inFlight leaseExpiresAtMs => isNonNegativeInteger leaseExpiresAtMs
  | _ => true

def imageOutboxValid (entry : PlayerLocalCheckpointOutboxRecord) : Bool :=
  (((checkpointByEpoch image).get entry.epoch).any fun checkpoint =>
    decide (entry.checkpointDigest = checkpoint.checkpointDigest) &&
    decide (entry.canonicalEnvelope = checkpoint.canonicalEnvelope)) &&
  samePlayerLocalBoundary image.boundary entry.boundary && decide (0 < entry.destinationId.length) &&
  isNonNegativeInteger entry.createdOrder && outboxStateValid entry.state

def maxCreatedOrder : Int := image.outbox.foldl (fun greatest entry => max greatest entry.createdOrder) (-1)

def outboxCovers : Bool :=
  (image.checkpoints.all fun checkpoint => image.outbox.any fun entry => decide (entry.epoch = checkpoint.epoch)) &&
  decide (maxCreatedOrder image < image.nextCreatedOrder)

def acknowledgedKeysOf : List Str :=
  (image.outbox.filter fun entry => entry.state = .acknowledged).map fun entry =>
    outboxAckKey entry.destinationId entry.epoch entry.checkpointDigest

def ackKeyOf (evidence : CheckpointAckEvidence) : Str :=
  outboxAckKey evidence.authorityId evidence.epoch evidence.checkpointDigest

def imageAckValid (evidence : CheckpointAckEvidence) : Bool :=
  samePlayerLocalBoundary image.boundary evidence.boundary && decide (0 < evidence.authorityId.length) &&
  isNonNegativeInteger evidence.epoch && decide (0 < evidence.checkpointDigest.length) &&
  (acknowledgedKeysOf image).contains (ackKeyOf evidence)

/-- The checks of `playerLocalAuditImageError`, up to the first that fails. -/
def checkAuditImage (urlProtocol : Str → Option Str) : Except Str Unit := do
  require (configurationValid image = true) "invalid configuration"
  require (retentionAnchorValid image = true) "invalid retention anchor"
  let eventKeys ← given (eventKeysOf image) "invalid event relation"
  require (allDistinct conflictKey (imageEquivocationValid image eventKeys) image.equivocations = true)
    "invalid equivocation relation"
  let reached ← given (chainLoop image 0 image.retentionAnchor.checkpointDigest (image.retentionAnchor.epoch + 1)
    image.checkpoints) "invalid checkpoint chain"
  require (image.consumedClosures.length = image.checkpoints.length) "orphan closure footprint"
  require (samePlayerLocalHead image.head
    (if 0 < image.checkpoints.length then ⟨⟨reached.2 - 1, reached.1⟩, image.boundary⟩ else image.retentionAnchor) = true)
    "orphan local head"
  require (allDistinct (·.holdId) (imageHoldValid image) image.evidenceHolds = true) "invalid evidence hold relation"
  require (allDistinct (·.sourceId) (imageCursorValid image) image.evidenceInboxCursors = true)
    "invalid evidence inbox cursor relation"
  require (allDistinct (·.sourceId) (playerLocalEvidencePollJobValid urlProtocol image.boundary) image.evidencePollJobs = true)
    "invalid evidence poll job relation"
  require (allDistinct (·.createdOrder) (imageOutboxValid image) image.outbox = true) "invalid outbox relation"
  require (outboxCovers image = true) "incomplete outbox footprint"
  require (allDistinct ackKeyOf (imageAckValid image) image.ackHistory = true) "invalid ACK history"
  require (∀ key ∈ acknowledgedKeysOf image, key ∈ image.ackHistory.map ackKeyOf) "ACK footprint missing"

/-- The reason for which an image is not valid. -/
def playerLocalAuditImageError (urlProtocol : Str → Option Str) : Option Str :=
  match checkAuditImage image urlProtocol with
  | .ok _ => none
  | .error reason => some reason

end Image

end ConvergeAudit.PlayerStore
