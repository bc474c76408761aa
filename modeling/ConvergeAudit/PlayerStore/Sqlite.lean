import ConvergeAudit.PlayerStore.Contracts
import ConvergeAudit.Js.Collections
import ConvergeAudit.Lib.Table

/-!
`player-local-sqlite.ts`. An operation that throws leaves the tables as they were, so an error carries no store. The
state columns of a row and the nullable columns that its `CHECK` ties to them are one value here. What a statement binds is
`stored`, with the texts that SQLite keeps; what the code compares with a row that it has read is not.
-/

namespace ConvergeAudit.PlayerStore

open Moon Js Lib.Fallible Lib.Table

structure ConfigurationRow extends PlayerLocalStoreConfiguration where
  nextCreatedOrder : Int
  storageRevision : Int
  deriving DecidableEq

structure EquivocationRow where
  authorId : Str
  counter : Int
  epoch : Int
  conflictingDigest : Str
  canonicalEvent : Str
  deriving DecidableEq

def PlayerLocalStoreConfiguration.stored (configuration : PlayerLocalStoreConfiguration) : PlayerLocalStoreConfiguration :=
  let boundary := configuration.boundary
  ⟨⟨boundary.protocolVersion, sqlText boundary.purpose, sqlText boundary.manifestDigest, sqlText boundary.scopeId,
    sqlText boundary.unitId⟩, sqlText configuration.genesisDigest, configuration.outboxCapacity⟩

def EventRow.stored (row : EventRow) : EventRow :=
  ⟨sqlText row.authorId, row.counter, row.epoch, sqlText row.eventDigest, sqlText row.canonicalEvent⟩

def CheckpointRow.stored (row : CheckpointRow) : CheckpointRow :=
  ⟨row.epoch, sqlText row.previousCheckpoint, sqlText row.checkpointDigest, sqlText row.canonicalEnvelope⟩

def HeadRow.stored (row : HeadRow) : HeadRow := ⟨row.epoch, sqlText row.checkpointDigest⟩

def OutboxRow.stored (row : OutboxRow) : OutboxRow :=
  ⟨sqlText row.destinationId, row.epoch, sqlText row.checkpointDigest, sqlText row.canonicalEnvelope, row.createdOrder,
    row.state⟩

def ClosureRow.stored (row : ClosureRow) : ClosureRow :=
  ⟨row.epoch, sqlText row.rosterDigest, sqlText row.frontierDigest, sqlText row.certificateDigest⟩

def AckRow.stored (row : AckRow) : AckRow :=
  ⟨sqlText row.authorityId, row.epoch, sqlText row.checkpointDigest, row.decision⟩

def EvidenceHoldRow.stored (row : EvidenceHoldRow) : EvidenceHoldRow :=
  ⟨sqlText row.holdId, row.epoch, sqlText row.checkpointDigest, row.kind, sqlText row.referenceDigest, row.state⟩

def EvidenceInboxCursorRow.stored (row : EvidenceInboxCursorRow) : EvidenceInboxCursorRow :=
  ⟨sqlText row.sourceId, row.sequence, sqlText row.messageDigest⟩

def PollSchedule.stored (row : PollSchedule) : PollSchedule :=
  ⟨sqlText row.sourceId, sqlText row.endpoint, sqlText row.initialMessageDigest, row.deadlineAtMs, row.nextPollAtMs⟩

structure PlayerLocalSqliteStore where
  config : ConfigurationRow
  head : HeadRow
  retentionAnchor : HeadRow
  events : List EventRow
  equivocations : List EquivocationRow
  checkpoints : List CheckpointRow
  evidenceHolds : List EvidenceHoldRow
  evidenceInboxCursors : List EvidenceInboxCursorRow
  evidencePollJobs : List EvidencePollJobRow
  consumedClosures : List ClosureRow
  outbox : List OutboxRow
  ackHistory : List AckRow
  deriving DecidableEq

inductive PlayerLocalSealFaultPoint
  | afterHistory
  | afterHead
  | afterOutbox
  | afterClosure
  deriving DecidableEq

inductive PlayerLocalPruneFaultPoint
  | afterEvents
  | afterOutbox
  | afterCheckpoints
  | afterAnchor
  deriving DecidableEq

inductive PlayerLocalEvidenceInboxFaultPoint
  | afterHold
  | afterCursor
  deriving DecidableEq

inductive StoreError
  | sealFault (point : PlayerLocalSealFaultPoint)
  | pruneFault (point : PlayerLocalPruneFaultPoint)
  | evidenceInboxFault (point : PlayerLocalEvidenceInboxFaultPoint)
  | sealCasConflict
  | pruneCasConflict
  | constraint
  | corrupt (reason : Str)
  deriving DecidableEq

namespace PlayerLocalSqliteStore

/-- The primary, unique and foreign keys of the schema. -/
@[mk_iff]
structure Keyed (store : PlayerLocalSqliteStore) : Prop where
  events : (store.events.map fun row => (row.authorId, row.counter)).Nodup
  equivocations : (store.equivocations.map fun row => (row.authorId, row.counter, row.conflictingDigest)).Nodup
  accepted : ∀ row ∈ store.equivocations, (row.authorId, row.counter) ∈ store.events.map fun e => (e.authorId, e.counter)
  checkpoints : (store.checkpoints.map (·.epoch)).Nodup
  holds : (store.evidenceHolds.map (·.holdId)).Nodup
  held : ∀ row ∈ store.evidenceHolds, row.epoch ∈ store.checkpoints.map (·.epoch)
  cursors : (store.evidenceInboxCursors.map (·.sourceId)).Nodup
  jobs : (store.evidencePollJobs.map (·.sourceId)).Nodup
  closures : (store.consumedClosures.map (·.epoch)).Nodup
  closed : ∀ row ∈ store.consumedClosures, row.epoch ∈ store.checkpoints.map (·.epoch)
  outbox : (store.outbox.map fun row => (row.destinationId, row.epoch, row.checkpointDigest)).Nodup
  orders : (store.outbox.map (·.createdOrder)).Nodup
  sent : ∀ row ∈ store.outbox, row.epoch ∈ store.checkpoints.map (·.epoch)
  acks : (store.ackHistory.map fun row => (row.authorityId, row.epoch, row.checkpointDigest)).Nodup

instance (store : PlayerLocalSqliteStore) : Decidable store.Keyed := decidable_of_iff _ (keyed_iff store).symm

/-- A statement that would break a key throws. -/
def statement (next : PlayerLocalSqliteStore) : Except StoreError PlayerLocalSqliteStore := do
  require next.Keyed .constraint
  .ok next

theorem statement_ok : statement next = .ok store ↔ next.Keyed ∧ next = store := by
  unfold statement
  rw [require_bind, Except.ok.injEq]

theorem statement_bind : (statement next >>= f) = .ok answer ↔ next.Keyed ∧ f next = .ok answer := by
  simp [bind_ok, statement_ok]

section
variable (urlProtocol : Str → Option Str) (configuration : PlayerLocalStoreConfiguration)
  (store : PlayerLocalSqliteStore) (sourceId : Str) (nowMs through : Int)
  (completion : PlayerLocalEvidencePollJobCompletion) (row : EvidencePollJobRow)

def boundary (store : PlayerLocalSqliteStore) : AuditBoundary := store.config.boundary

def setRevision (config : ConfigurationRow) (storageRevision : Int) : ConfigurationRow := { config with storageRevision }

def incrementRevision : PlayerLocalSqliteStore :=
  { store with config := setRevision store.config (store.config.storageRevision + 1) }

def insertEvent (row : EventRow) : PlayerLocalSqliteStore :=
  { store with events := store.events ++ [row] }

def insertEquivocation (row : EquivocationRow) : PlayerLocalSqliteStore :=
  { store with equivocations := store.equivocations ++ [row] }

def insertCheckpoint (row : CheckpointRow) : PlayerLocalSqliteStore :=
  { store with checkpoints := store.checkpoints ++ [row] }

def insertClosure (row : ClosureRow) : PlayerLocalSqliteStore :=
  { store with consumedClosures := store.consumedClosures ++ [row] }

def insertOutbox (row : OutboxRow) : PlayerLocalSqliteStore :=
  { store with outbox := store.outbox ++ [row] }

def insertAck (row : AckRow) : PlayerLocalSqliteStore :=
  { store with ackHistory := store.ackHistory ++ [row] }

def insertHold (row : EvidenceHoldRow) : PlayerLocalSqliteStore :=
  { store with evidenceHolds := store.evidenceHolds ++ [row] }

def insertCursor (row : EvidenceInboxCursorRow) : PlayerLocalSqliteStore :=
  { store with evidenceInboxCursors := store.evidenceInboxCursors ++ [row] }

def insertPollJob : PlayerLocalSqliteStore :=
  { store with evidencePollJobs := store.evidencePollJobs ++ [row] }

def setHead (head : HeadRow) : PlayerLocalSqliteStore := { store with head }

def setRetentionAnchor (retentionAnchor : HeadRow) : PlayerLocalSqliteStore :=
  { store with retentionAnchor }

def setOutbox (outbox : List OutboxRow) : PlayerLocalSqliteStore := { store with outbox }

def setHolds (evidenceHolds : List EvidenceHoldRow) : PlayerLocalSqliteStore :=
  { store with evidenceHolds }

def setCursors (evidenceInboxCursors : List EvidenceInboxCursorRow) : PlayerLocalSqliteStore :=
  { store with evidenceInboxCursors }

def setPollJobs (evidencePollJobs : List EvidencePollJobRow) : PlayerLocalSqliteStore :=
  { store with evidencePollJobs }

def setOutboxState (state : CheckpointOutboxState) (row : OutboxRow) : OutboxRow := { row with state }

def setHoldState (state : PlayerLocalEvidenceHoldState) (row : EvidenceHoldRow) : EvidenceHoldRow := { row with state }

def setPollState (state : PlayerLocalEvidencePollJobState) (row : EvidencePollJobRow) : EvidencePollJobRow :=
  { row with state }

def eventFromRow (boundary : AuditBoundary) (row : EventRow) : PlayerLocalAuditEvent := ⟨row, boundary⟩

def conflictingEvent (boundary : AuditBoundary) (row : EquivocationRow) : PlayerLocalAuditEvent :=
  ⟨⟨row.authorId, row.counter, row.epoch, row.conflictingDigest, row.canonicalEvent⟩, boundary⟩

def acceptedEvents : Map Str PlayerLocalAuditEvent :=
  (store.events.map (eventFromRow store.boundary)).foldl
    (fun accepted event => accepted.set (eventKey event.authorId event.counter) event) Map.empty

def equivocationFromRow (row : EquivocationRow) : Except StoreError PlayerLocalEventEquivocation := do
  let accepted ← given (store.acceptedEvents.get (eventKey row.authorId row.counter)) (.corrupt "orphan equivocation row")
  .ok ⟨accepted, conflictingEvent store.boundary row⟩

/-- The image of the tables, once the equivocations have been read. The rows that the code orders by a text are in the order
of their table. -/
def imageWith (equivocations : List PlayerLocalEventEquivocation) : PlayerLocalAuditImage where
  boundary := store.boundary
  genesisDigest := store.config.genesisDigest
  outboxCapacity := store.config.outboxCapacity
  events := store.events.map (eventFromRow store.boundary)
  equivocations := equivocations
  checkpoints := (sortOn (·.epoch) store.checkpoints).map fun row => ⟨row, store.boundary⟩
  head := ⟨store.head, store.boundary⟩
  retentionAnchor := ⟨store.retentionAnchor, store.boundary⟩
  evidenceHolds := store.evidenceHolds.map fun row => ⟨row, store.boundary⟩
  evidenceInboxCursors := store.evidenceInboxCursors.map fun row => ⟨row, store.boundary⟩
  evidencePollJobs := store.evidencePollJobs.map fun row => ⟨row, store.boundary⟩
  consumedClosures := (sortOn (·.epoch) store.consumedClosures).map fun row => ⟨row, store.boundary⟩
  outbox := (sortOn (·.createdOrder) store.outbox).map fun row => ⟨row, store.boundary⟩
  ackHistory := store.ackHistory.map fun row => ⟨row, store.boundary⟩
  nextCreatedOrder := store.config.nextCreatedOrder
  storageRevision := store.config.storageRevision

def image : Except StoreError PlayerLocalAuditImage := do
  let equivocations ← store.equivocations.mapM store.equivocationFromRow
  .ok (store.imageWith equivocations)

def activeOutboxCount : Nat := store.outbox.countP fun row => row.state ≠ .acknowledged

inductive OpenFailure
  | invalidConfiguration
  | configurationConflict
  | corrupt (reason : Str)
  deriving DecidableEq

def create : PlayerLocalSqliteStore where
  config := ⟨configuration.stored, 0, 0⟩
  head := ⟨-1, configuration.stored.genesisDigest⟩
  retentionAnchor := ⟨-1, configuration.stored.genesisDigest⟩
  events := []
  equivocations := []
  checkpoints := []
  evidenceHolds := []
  evidenceInboxCursors := []
  evidencePollJobs := []
  consumedClosures := []
  outbox := []
  ackHistory := []

def configurationAccepted : Bool :=
  playerLocalBoundaryValid configuration.boundary && decide (0 < configuration.genesisDigest.length) &&
  isNonNegativeInteger configuration.outboxCapacity

def assertValidImage : Except OpenFailure Unit :=
  match store.image with
  | .error (.corrupt reason) => .error (.corrupt reason)
  | .error _ => .error (.corrupt "player-local SQLite image violates its contract")
  | .ok image =>
    match playerLocalAuditImageError image urlProtocol with
    | none => .ok ()
    | some reason => .error (.corrupt reason)

/-- `PlayerLocalSqliteStore.open`, of a new database or of one that holds tables. -/
def openStore (existing : Option PlayerLocalSqliteStore) : Except OpenFailure PlayerLocalSqliteStore := do
  require (configurationAccepted configuration = true) .invalidConfiguration
  let store := existing.getD (create configuration)
  require (existing = none ∨ store.config.toPlayerLocalStoreConfiguration = configuration) .configurationConflict
  assertValidImage urlProtocol store
  .ok store

inductive PlayerLocalEventAdmission
  | stored
  | duplicate
  | equivocation
  | refused (reason : Str)
  deriving DecidableEq

def eventAt (authorId : Str) (counter : Int) : Option EventRow :=
  store.events.find? fun row => row.authorId = authorId ∧ row.counter = counter

def knownConflict (authorId : Str) (counter : Int) (digest : Str) : Option EquivocationRow :=
  store.equivocations.find? fun row => row.authorId = authorId ∧ row.counter = counter ∧ row.conflictingDigest = digest

def equivocationRow (event : EventRow) : EquivocationRow :=
  ⟨event.authorId, event.counter, event.epoch, event.eventDigest, event.canonicalEvent⟩

def admitEvent (event : PlayerLocalAuditEvent) :
    Except StoreError (PlayerLocalEventAdmission × PlayerLocalSqliteStore) :=
  let bound := event.toEventRow.stored
  if !playerLocalEventValid store.boundary event then .ok (.refused "invalid_event", store)
  else if event.epoch ≤ store.retentionAnchor.epoch then .ok (.refused "pruned_epoch", store)
  else match store.eventAt bound.authorId bound.counter with
  | none => do
    let store ← statement (store.insertEvent bound)
    .ok (.stored, store.incrementRevision)
  | some accepted =>
    if accepted.eventDigest = event.eventDigest then
      .ok (if accepted.epoch = event.epoch ∧ accepted.canonicalEvent = event.canonicalEvent then .duplicate
        else .refused "digest_collision", store)
    else match store.knownConflict bound.authorId bound.counter bound.eventDigest with
    | some known =>
      .ok (if known.epoch = event.epoch ∧ known.canonicalEvent = event.canonicalEvent then .equivocation
        else .refused "digest_collision", store)
    | none => do
      let store ← statement (store.insertEquivocation (equivocationRow bound))
      .ok (.equivocation, store.incrementRevision)

inductive PlayerLocalSealCommitResult
  | committed
  | concurrentWrite
  | refused (reason : Str)
  deriving DecidableEq

def outboxPresent (checkpoint : CheckpointRow) (destination : Str) : Bool :=
  store.outbox.any fun row => decide (row.destinationId = destination ∧ row.epoch = checkpoint.epoch ∧
    row.checkpointDigest = checkpoint.checkpointDigest ∧ row.canonicalEnvelope = checkpoint.canonicalEnvelope)

def sealSnapshot (checkpoint : CheckpointRow) (destinations : List Str) : CheckpointSealStorageSnapshot :=
  let known := store.checkpoints.find? fun row => row.epoch = checkpoint.epoch
  let closureConsumed := store.consumedClosures.any fun row => row.epoch = checkpoint.epoch
  let allOutboxPresent := decide (destinations ≠ []) && destinations.all fun destination =>
    store.outboxPresent checkpoint.stored (sqlText destination)
  let knownDigestMatches := known.any fun row => row.checkpointDigest = checkpoint.checkpointDigest
  { boundary := store.boundary
    currentEpoch := store.head.epoch
    currentDigest := store.head.checkpointDigest
    incomingEpochKnown := known.isSome
    knownDigestMatches
    knownSealComplete := knownDigestMatches && closureConsumed && allOutboxPresent
    closureConsumed
    outboxEntryCount := store.activeOutboxCount
    outboxCapacity := store.config.outboxCapacity
    nextCreatedOrder := store.config.nextCreatedOrder }

def writeSetValid (writeSet : PlayerLocalSealWriteSet) : Bool :=
  playerLocalSealWriteSetValid store.config.toPlayerLocalStoreConfiguration writeSet

def inject {point : Type} [DecidableEq point] (requested : Option point) (current : point) (fault : point → StoreError) :
    Except StoreError Unit :=
  require (requested ≠ some current) (fault current)

def insertPending (entry : PlayerLocalCheckpointOutboxRecord) : Except StoreError PlayerLocalSqliteStore :=
  statement (store.insertOutbox (setOutboxState .pending entry.toOutboxRow.stored))

def finishSeal (nextCreatedOrder : Int) : PlayerLocalSqliteStore :=
  { store with config :=
    { store.config with nextCreatedOrder := nextCreatedOrder, storageRevision := store.config.storageRevision + 1 } }

/-- The statements of `commitSeal`, once the write set has passed. -/
def writeSeal (writeSet : PlayerLocalSealWriteSet)
    (faultPoint : Option PlayerLocalSealFaultPoint) : Except StoreError PlayerLocalSqliteStore := do
  let snapshot := writeSet.expectedSnapshot
  let store ← statement (store.insertCheckpoint writeSet.checkpoint.toCheckpointRow.stored)
  inject faultPoint .afterHistory .sealFault
  require (store.head = HeadRow.stored ⟨snapshot.currentEpoch, snapshot.currentDigest⟩) .sealCasConflict
  let store := store.setHead writeSet.nextHead.toHeadRow.stored
  inject faultPoint .afterHead .sealFault
  let store ← writeSet.outboxEntries.foldlM insertPending store
  inject faultPoint .afterOutbox .sealFault
  let store ← statement (store.insertClosure writeSet.consumedClosure.toClosureRow.stored)
  inject faultPoint .afterClosure .sealFault
  require (store.config.storageRevision = writeSet.expectedRevision ∧
    store.config.nextCreatedOrder = snapshot.nextCreatedOrder) .sealCasConflict
  .ok (store.finishSeal writeSet.nextCreatedOrder)

def commitSeal (writeSet : PlayerLocalSealWriteSet) (faultPoint : Option PlayerLocalSealFaultPoint) :
    Except StoreError (PlayerLocalSealCommitResult × PlayerLocalSqliteStore) :=
  if store.config.storageRevision ≠ writeSet.expectedRevision then .ok (.concurrentWrite, store)
  else if store.sealSnapshot writeSet.checkpoint.toCheckpointRow (writeSet.outboxEntries.map (·.destinationId)) ≠
    writeSet.expectedSnapshot then .ok (.concurrentWrite, store)
  else if !store.writeSetValid writeSet then .ok (.refused "invalid_write_set", store)
  else match store.writeSeal writeSet faultPoint with
  | .ok next => .ok (.committed, next)
  | .error .sealCasConflict => .ok (.concurrentWrite, store)
  | .error error => .error error

def outboxAt (createdOrder : Int) : Option OutboxRow :=
  store.outbox.find? fun row => row.createdOrder = createdOrder

def claimableState : CheckpointOutboxState → Bool
  | .pending => true
  | .inFlight leaseExpiresAtMs => decide (leaseExpiresAtMs ≤ nowMs)
  | .acknowledged => false

def claimOutbox (createdOrder nowMs leaseDurationMs : Int) :
    Except StoreError (Option PlayerLocalCheckpointOutboxRecord × PlayerLocalSqliteStore) :=
  if !isNonNegativeInteger createdOrder || !isNonNegativeInteger nowMs || !isSafeInteger leaseDurationMs ||
    decide (leaseDurationMs ≤ 0) then .ok (none, store)
  else
    let leaseExpiresAt := nowMs + leaseDurationMs
    if !isSafeInteger leaseExpiresAt || decide (leaseExpiresAt < nowMs) then .ok (none, store)
    else match store.outboxAt createdOrder with
    | none => .ok (none, store)
    | some row =>
      if !claimableState nowMs row.state then .ok (none, store)
      else
        let updated := updateWhere (fun row => decide (row.createdOrder = createdOrder) && claimableState nowMs row.state)
          (setOutboxState (.inFlight leaseExpiresAt)) store.outbox
        if updated.2 ≠ 1 then .ok (none, store)
        else do
          let next ← statement (store.setOutbox updated.1)
          .ok (some ⟨setOutboxState (.inFlight leaseExpiresAt) row, store.boundary⟩, next.incrementRevision)

def isInFlight : CheckpointOutboxState → Bool
  | .inFlight _ => true
  | _ => false

def releaseOutbox (createdOrder : Int) : Except StoreError (Bool × PlayerLocalSqliteStore) :=
  if !isNonNegativeInteger createdOrder then .ok (false, store)
  else
    let updated := updateWhere (fun row => decide (row.createdOrder = createdOrder) && isInFlight row.state)
      (setOutboxState .pending) store.outbox
    if updated.2 ≠ 1 then .ok (false, store)
    else do
      let next ← statement (store.setOutbox updated.1)
      .ok (true, next.incrementRevision)

inductive PlayerLocalOutboxAckResult
  | updated
  | noChange
  | refused (reason : Str)
  deriving DecidableEq

def ackValid (boundary : AuditBoundary) (evidence : CheckpointAckEvidence) : Bool :=
  samePlayerLocalBoundary boundary evidence.boundary && decide (0 < evidence.authorityId.length) &&
  isNonNegativeInteger evidence.epoch && decide (0 < evidence.checkpointDigest.length)

def outboxFor (ack : AckRow) : Option OutboxRow :=
  store.outbox.find? fun row =>
    row.destinationId = ack.authorityId ∧ row.epoch = ack.epoch ∧ row.checkpointDigest = ack.checkpointDigest

def acknowledgeOutbox (evidence : CheckpointAckEvidence) :
    Except StoreError (PlayerLocalOutboxAckResult × PlayerLocalSqliteStore) :=
  if !ackValid store.boundary evidence then .ok (.refused "invalid_ack", store)
  else match store.outboxFor evidence.toAckRow.stored with
  | none => .ok (.refused "ack_mismatch", store)
  | some row =>
    if row.state = .acknowledged then .ok (.noChange, store)
    else do
      let store ← statement (store.insertAck evidence.toAckRow.stored)
      let updated := updateWhere (fun other => decide (other.createdOrder = row.createdOrder ∧ other.state ≠ .acknowledged))
        (setOutboxState .acknowledged) store.outbox
      require (updated.2 = 1) .sealCasConflict
      let next ← statement (store.setOutbox updated.1)
      .ok (.updated, next.incrementRevision)

inductive PlayerLocalEvidenceHoldAdmission
  | stored
  | duplicate
  | refused (reason : Str)
  deriving DecidableEq

inductive PlayerLocalEvidenceHoldResolutionResult
  | resolved
  | noChange
  | refused (reason : Str)
  deriving DecidableEq

def evidenceHoldRow (holdId : Str) : Option EvidenceHoldRow :=
  store.evidenceHolds.find? fun row => row.holdId = sqlText holdId

def sameEvidenceHoldIdentity (row hold : EvidenceHoldRow) : Bool :=
  decide (row.epoch = hold.epoch) && decide (row.checkpointDigest = hold.checkpointDigest) && decide (row.kind = hold.kind) &&
  decide (row.referenceDigest = hold.referenceDigest)

def checkpointAt (epoch : Int) : Option CheckpointRow :=
  store.checkpoints.find? fun row => row.epoch = epoch

def placeEvidenceHold (hold : PlayerLocalEvidenceHold) :
    Except StoreError (PlayerLocalEvidenceHoldAdmission × PlayerLocalSqliteStore) :=
  if !playerLocalEvidenceHoldValid store.boundary hold || decide (hold.state ≠ .active) then
    .ok (.refused "invalid_hold", store)
  else match store.evidenceHoldRow hold.holdId with
  | some existing =>
    .ok (if sameEvidenceHoldIdentity existing hold.toEvidenceHoldRow then .duplicate else .refused "hold_conflict", store)
  | none =>
    if hold.epoch ≤ store.retentionAnchor.epoch then .ok (.refused "pruned_epoch", store)
    else if (store.checkpointAt hold.epoch).all fun row => row.checkpointDigest ≠ hold.checkpointDigest then
      .ok (.refused "checkpoint_mismatch", store)
    else do
      let next ← statement (store.insertHold (setHoldState .active hold.toEvidenceHoldRow.stored))
      .ok (.stored, next.incrementRevision)

def resolveHold (resolution : PlayerLocalEvidenceHoldResolution) : List EvidenceHoldRow × Nat :=
  updateWhere (fun row => decide (row.holdId = sqlText resolution.holdId ∧ row.state = .active))
    (setHoldState (.resolved resolution.decision (sqlText resolution.resolutionDigest))) store.evidenceHolds

def resolveEvidenceHold (resolution : PlayerLocalEvidenceHoldResolution) :
    Except StoreError (PlayerLocalEvidenceHoldResolutionResult × PlayerLocalSqliteStore) :=
  if !playerLocalEvidenceHoldResolutionValid store.boundary resolution then .ok (.refused "invalid_resolution", store)
  else match store.evidenceHoldRow resolution.holdId with
  | none => .ok (.refused "hold_missing", store)
  | some existing =>
    if existing.epoch ≠ resolution.epoch ∨ existing.checkpointDigest ≠ resolution.checkpointDigest ∨
      existing.referenceDigest ≠ resolution.referenceDigest then .ok (.refused "hold_mismatch", store)
    else match existing.state with
    | .resolved decision resolutionDigest =>
      .ok (if decision = resolution.decision ∧ resolutionDigest = resolution.resolutionDigest then .noChange
        else .refused "resolution_conflict", store)
    | .active => do
      require ((store.resolveHold resolution).2 = 1) .pruneCasConflict
      let next ← statement (store.setHolds (store.resolveHold resolution).1)
      .ok (.resolved, next.incrementRevision)

inductive PlayerLocalEvidenceInboxApplyResult
  | applied
  | concurrentWrite
  | refused (reason : Str)
  deriving DecidableEq

def applyInboxOperation : PlayerLocalEvidenceInboxOperation → Except StoreError PlayerLocalSqliteStore
  | .place hold =>
    match store.evidenceHoldRow hold.holdId with
    | some _ => .ok store
    | none => statement (store.insertHold (setHoldState .active hold.toEvidenceHoldRow.stored))
  | .resolve resolution => do
    let existing ← given (store.evidenceHoldRow resolution.holdId) (.corrupt "player-local SQLite image violates its contract")
    if existing.state = .active then
      require ((store.resolveHold resolution).2 = 1) .pruneCasConflict
      statement (store.setHolds (store.resolveHold resolution).1)
    else .ok store

def isCursor (expected row : EvidenceInboxCursorRow) : Bool :=
  decide (row.sourceId = expected.sourceId ∧ row.sequence = expected.sequence ∧ row.messageDigest = expected.messageDigest)

def moveCursor (next row : EvidenceInboxCursorRow) : EvidenceInboxCursorRow :=
  { row with sequence := next.sequence, messageDigest := next.messageDigest }

/-- The statement that moves the cursor: `INSERT OR IGNORE` of the first one, `UPDATE` of the others. -/
def writeCursor (expected next : EvidenceInboxCursorRow) : Except StoreError PlayerLocalSqliteStore :=
  if expected.sequence = -1 then do
    require (next.sourceId ∉ store.evidenceInboxCursors.map (·.sourceId)) .pruneCasConflict
    statement (store.insertCursor next)
  else do
    let updated := updateWhere (isCursor expected) (moveCursor next) store.evidenceInboxCursors
    require (updated.2 = 1) .pruneCasConflict
    statement (store.setCursors updated.1)

def applyEvidenceInbox (writeSet : PlayerLocalEvidenceInboxWriteSet)
    (faultPoint : Option PlayerLocalEvidenceInboxFaultPoint) :
    Except StoreError (PlayerLocalEvidenceInboxApplyResult × PlayerLocalSqliteStore) := do
  let current ← store.image
  if current.storageRevision ≠ writeSet.expectedRevision then .ok (.concurrentWrite, store)
  else if !playerLocalEvidenceInboxWriteSetValid current writeSet then .ok (.refused "invalid_write_set", store)
  else
    let store ← store.applyInboxOperation writeSet.operation
    inject faultPoint .afterHold .evidenceInboxFault
    let store ← store.writeCursor writeSet.expectedCursor.toEvidenceInboxCursorRow.stored
      writeSet.nextCursor.toEvidenceInboxCursorRow.stored
    inject faultPoint .afterCursor .evidenceInboxFault
    .ok (.applied, store.incrementRevision)

inductive PlayerLocalEvidencePollJobAdmission
  | stored
  | duplicate
  | refused (reason : Str)
  deriving DecidableEq

inductive TerminalPollState
  | expired
  | escalated
  deriving DecidableEq

inductive PlayerLocalEvidencePollJobClaimResult
  | claimed (job : PlayerLocalEvidencePollJob)
  | notDue
  | notFound
  | terminal (state : TerminalPollState)
  | refused (reason : Str)
  deriving DecidableEq

inductive PlayerLocalEvidencePollJobCompletionResult
  | updated
  | concurrentWrite
  | refused (reason : Str)
  deriving DecidableEq

inductive PlayerLocalEvidencePollJobEscalationResult
  | updated
  | noChange
  | notFound
  | refused (reason : Str)
  deriving DecidableEq

def evidencePollJobRow : Option EvidencePollJobRow :=
  store.evidencePollJobs.find? fun row => row.sourceId = sqlText sourceId

def updatePollJob (change : EvidencePollJobRow → EvidencePollJobRow) : Except StoreError PlayerLocalSqliteStore := do
  let next ← statement
    (store.setPollJobs (updateWhere (fun row => decide (row.sourceId = sqlText sourceId)) change store.evidencePollJobs).1)
  .ok next.incrementRevision

def scheduleEvidencePollJob (draft : PlayerLocalEvidencePollJobDraft) :
    Except StoreError (PlayerLocalEvidencePollJobAdmission × PlayerLocalSqliteStore) :=
  if !playerLocalEvidencePollJobDraftValid urlProtocol store.boundary draft then .ok (.refused "invalid_job", store)
  else match store.evidencePollJobRow draft.sourceId with
  | some existing =>
    .ok (if samePlayerLocalEvidencePollJobDraft ⟨existing, store.boundary⟩ draft then .duplicate
      else .refused "source_conflict", store)
  | none => do
    let next ← statement (store.insertPollJob ⟨draft.toPollSchedule.stored, 0, 0, .scheduled⟩)
    .ok (.stored, next.incrementRevision)

def claimPollJob (attemptCount leaseExpiresAt : Int) (row : EvidencePollJobRow) : EvidencePollJobRow :=
  { row with attemptCount, state := .inFlight leaseExpiresAt }

def pollDue : Bool :=
  match row.state with
  | .scheduled => decide (row.nextPollAtMs ≤ nowMs)
  | .inFlight leaseExpiresAtMs => decide (leaseExpiresAtMs ≤ nowMs)
  | _ => true

def terminalState : PlayerLocalEvidencePollJobState → Option TerminalPollState
  | .expired _ => some .expired
  | .escalated _ _ => some .escalated
  | _ => none

def claimEvidencePollJob (leaseDurationMs : Int) :
    Except StoreError (PlayerLocalEvidencePollJobClaimResult × PlayerLocalSqliteStore) :=
  if !boundedText sourceId 256 || !isNonNegativeInteger nowMs || !isSafeInteger leaseDurationMs ||
    decide (leaseDurationMs ≤ 0) then .ok (.refused "invalid_claim", store)
  else
    let requestedLeaseExpiry := nowMs + leaseDurationMs
    if !isSafeInteger requestedLeaseExpiry || decide (requestedLeaseExpiry ≤ nowMs) then
      .ok (.refused "invalid_claim", store)
    else match store.evidencePollJobRow sourceId with
    | none => .ok (.notFound, store)
    | some row =>
      match terminalState row.state with
      | some state => .ok (.terminal state, store)
      | none =>
        if row.deadlineAtMs ≤ nowMs then do
          let next ← store.updatePollJob sourceId (setPollState (.expired nowMs))
          .ok (.terminal .expired, next)
        else if !pollDue nowMs row then .ok (.notDue, store)
        else if !isSafeInteger (row.attemptCount + 1) then .ok (.refused "attempt_overflow", store)
        else do
          let leaseExpiresAt := min requestedLeaseExpiry row.deadlineAtMs
          let next ← store.updatePollJob sourceId (claimPollJob (row.attemptCount + 1) leaseExpiresAt)
          .ok (.claimed ⟨claimPollJob (row.attemptCount + 1) leaseExpiresAt row, store.boundary⟩, next)

def completionValid : Bool :=
  boundedText completion.sourceId 256 && isNonNegativeInteger completion.expectedAttemptCount &&
  decide (completion.expectedAttemptCount ≠ 0) && isNonNegativeInteger completion.expectedLeaseExpiresAtMs &&
  isNonNegativeInteger completion.completedAtMs && isNonNegativeInteger completion.nextPollAtMs &&
  isNonNegativeInteger completion.failures

def completionAllowed : Bool :=
  decide (completion.completedAtMs ≤ completion.expectedLeaseExpiresAtMs) &&
  decide (completion.completedAtMs < row.deadlineAtMs) && decide (completion.completedAtMs ≤ completion.nextPollAtMs) &&
  decide (completion.nextPollAtMs ≤ row.deadlineAtMs) &&
  decide (completion.failures = 0 ∨ completion.failures = row.failures + 1) && isSafeInteger (row.failures + 1)

def completePollJob : EvidencePollJobRow :=
  { row with nextPollAtMs := completion.nextPollAtMs, failures := completion.failures, state := .scheduled }

def completeEvidencePollJob :
    Except StoreError (PlayerLocalEvidencePollJobCompletionResult × PlayerLocalSqliteStore) :=
  if !completionValid completion then .ok (.refused "invalid_completion", store)
  else match store.evidencePollJobRow completion.sourceId with
  | none => .ok (.refused "job_not_found", store)
  | some row =>
    if row.state ≠ .inFlight completion.expectedLeaseExpiresAtMs ∨ row.attemptCount ≠ completion.expectedAttemptCount then
      .ok (.concurrentWrite, store)
    else if !completionAllowed completion row then .ok (.refused "invalid_completion", store)
    else do
      let next ← store.updatePollJob completion.sourceId (completePollJob completion)
      .ok (.updated, next)

def escalateEvidencePollJob (reasonDigest : Str) :
    Except StoreError (PlayerLocalEvidencePollJobEscalationResult × PlayerLocalSqliteStore) :=
  if !boundedText sourceId 256 || !isNonNegativeInteger nowMs || !boundedText reasonDigest 4096 then
    .ok (.refused "invalid_escalation", store)
  else match store.evidencePollJobRow sourceId with
  | none => .ok (.notFound, store)
  | some row =>
    match row.state with
    | .escalated _ known =>
      .ok (if known = reasonDigest then .noChange else .refused "escalation_conflict", store)
    | _ => do
      let next ← store.updatePollJob sourceId (setPollState (.escalated nowMs (sqlText reasonDigest)))
      .ok (.updated, next)

inductive PlayerLocalPruneResult
  | pruned (prunedThroughEpoch : Int)
  | noChange
  | concurrentWrite
  | refused (reason : Str)
  deriving DecidableEq

def deleteEquivocations : PlayerLocalSqliteStore :=
  { store with equivocations := store.equivocations.filter fun row => through < row.epoch }

def deleteEvents : PlayerLocalSqliteStore :=
  { store with events := store.events.filter fun row => through < row.epoch }

def deleteAcks : PlayerLocalSqliteStore :=
  { store with ackHistory := store.ackHistory.filter fun row => through < row.epoch }

def deleteOutbox : PlayerLocalSqliteStore :=
  { store with outbox := store.outbox.filter fun row => through < row.epoch }

def deleteClosures : PlayerLocalSqliteStore :=
  { store with consumedClosures := store.consumedClosures.filter fun row => through < row.epoch }

def deleteResolvedHolds : PlayerLocalSqliteStore :=
  { store with evidenceHolds := store.evidenceHolds.filter fun row => through < row.epoch ∨ row.state = .active }

def deleteCheckpoints : PlayerLocalSqliteStore :=
  { store with checkpoints := store.checkpoints.filter fun row => through < row.epoch }

/-- The statements of `pruneEvidence`, once the write set has passed. -/
def writePrune (writeSet : PlayerLocalPruneWriteSet)
    (faultPoint : Option PlayerLocalPruneFaultPoint) : Except StoreError PlayerLocalSqliteStore := do
  let through := writeSet.nextAnchor.epoch
  let store ← statement (store.deleteEquivocations through)
  let store ← statement (store.deleteEvents through)
  inject faultPoint .afterEvents .pruneFault
  let store ← statement (store.deleteAcks through)
  let store ← statement (store.deleteOutbox through)
  inject faultPoint .afterOutbox .pruneFault
  let store ← statement (store.deleteClosures through)
  let store ← statement (store.deleteResolvedHolds through)
  let store ← statement (store.deleteCheckpoints through)
  inject faultPoint .afterCheckpoints .pruneFault
  require (store.retentionAnchor = writeSet.expectedAnchor.toHeadRow.stored) .pruneCasConflict
  let store := store.setRetentionAnchor writeSet.nextAnchor.toHeadRow.stored
  inject faultPoint .afterAnchor .pruneFault
  .ok store.incrementRevision

def pruneEvidence (writeSet : PlayerLocalPruneWriteSet) (faultPoint : Option PlayerLocalPruneFaultPoint) :
    Except StoreError (PlayerLocalPruneResult × PlayerLocalSqliteStore) := do
  let current ← store.image
  if current.storageRevision ≠ writeSet.expectedRevision then .ok (.concurrentWrite, store)
  else if !playerLocalPruneWriteSetValid current writeSet then .ok (.refused "invalid_write_set", store)
  else match store.writePrune writeSet faultPoint with
  | .ok next => .ok (.pruned writeSet.nextAnchor.epoch, next)
  | .error .pruneCasConflict => .ok (.concurrentWrite, store)
  | .error error => .error error

end

end PlayerLocalSqliteStore

end ConvergeAudit.PlayerStore
