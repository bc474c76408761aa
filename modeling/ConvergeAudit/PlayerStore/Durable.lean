import ConvergeAudit.PlayerStore.Sqlite
import ConvergeAudit.Lib.NumberedChain

/-!
What `playerLocalAuditImageError` asks of an image, said of the tables. The keys that the validator joins with the
unit 0 stand for their parts because no digest at the end of one holds that unit.
-/

namespace ConvergeAudit.PlayerStore

open Moon Js Lib.Fallible Lib.NumberedChain PlayerLocalSqliteStore List CheckpointRow List.Nodup

theorem eventKey_inj (same : eventKey authorId counter = eventKey authorId' counter') :
    authorId = authorId' ∧ counter = counter' := by
  obtain ⟨authors, counters⟩ := nulJoin_inj nul_not_mem_ofInt nul_not_mem_ofInt same
  exact ⟨authors, Str.ofInt_injective counters⟩

abbrev Links := Chain epoch checkpointDigest previousCheckpoint

abbrev Chained (anchor : HeadRow) (checkpoints : List CheckpointRow) (head : HeadRow) : Prop :=
  Chain epoch checkpointDigest previousCheckpoint
    (anchor.epoch, anchor.checkpointDigest) checkpoints (head.epoch, head.checkpointDigest)

structure Conflicts (boundary : AuditBoundary) (anchorEpoch : Int) (events : List EventRow) (row : EquivocationRow) :
    Prop where
  valid : playerLocalEventValid boundary (conflictingEvent boundary row) = true
  retained : anchorEpoch < row.epoch
  plain : (0 : UInt16) ∉ row.conflictingDigest.units
  differs : ∀ event ∈ events, event.authorId = row.authorId → event.counter = row.counter →
    event.eventDigest ≠ row.conflictingDigest

structure Carries (checkpoints : List CheckpointRow) (nextCreatedOrder : Int) (row : OutboxRow) : Prop where
  addressed : 0 < row.destinationId.length
  order : 0 ≤ row.createdOrder
  below : row.createdOrder < nextCreatedOrder
  state : outboxStateValid row.state = true
  checkpoint : ∃ checkpoint ∈ checkpoints, checkpoint.epoch = row.epoch ∧
    checkpoint.checkpointDigest = row.checkpointDigest ∧ checkpoint.canonicalEnvelope = row.canonicalEnvelope

def Acknowledges (ack : AckRow) (row : OutboxRow) : Prop :=
  ack.authorityId = row.destinationId ∧ ack.epoch = row.epoch ∧ ack.checkpointDigest = row.checkpointDigest

structure AnchorSound (genesisDigest : Str) (anchor : HeadRow) : Prop where
  epoch : -1 ≤ anchor.epoch ∧ anchor.epoch ≤ maxSafeInteger
  present : 0 < anchor.checkpointDigest.length
  genesis : anchor.epoch = -1 → anchor.checkpointDigest = genesisDigest

structure Durable (urlProtocol : Str → Option Str) (store : PlayerLocalSqliteStore) : Prop where
  keyed : store.Keyed
  configured : configurationAccepted store.config.toPlayerLocalStoreConfiguration = true
  revision : 0 ≤ store.config.storageRevision
  order : isNonNegativeInteger store.config.nextCreatedOrder = true
  room : (store.activeOutboxCount : Int) ≤ store.config.outboxCapacity
  anchor : AnchorSound store.config.genesisDigest store.retentionAnchor
  events : ∀ row ∈ store.events, playerLocalEventValid store.boundary (eventFromRow store.boundary row) = true ∧
    store.retentionAnchor.epoch < row.epoch
  conflicts : ∀ row ∈ store.equivocations, Conflicts store.boundary store.retentionAnchor.epoch store.events row
  chain : Chained store.retentionAnchor store.checkpoints store.head
  checkpoints : ∀ row ∈ store.checkpoints, playerLocalCheckpointValid store.boundary ⟨row, store.boundary⟩ = true ∧
    (0 : UInt16) ∉ row.checkpointDigest.units
  closures : store.consumedClosures.map (·.epoch) = store.checkpoints.map (·.epoch)
  closed : ∀ row ∈ store.consumedClosures, playerLocalClosureValid store.boundary ⟨row, store.boundary⟩ = true
  holds : ∀ row ∈ store.evidenceHolds, playerLocalEvidenceHoldValid store.boundary ⟨row, store.boundary⟩ = true ∧
    ∃ checkpoint ∈ store.checkpoints, checkpoint.epoch = row.epoch ∧ checkpoint.checkpointDigest = row.checkpointDigest
  cursors : ∀ row ∈ store.evidenceInboxCursors, boundedText row.sourceId 256 = true ∧
    isNonNegativeInteger row.sequence = true ∧ boundedText row.messageDigest 4096 = true
  jobs : ∀ row ∈ store.evidencePollJobs,
    playerLocalEvidencePollJobValid urlProtocol store.boundary ⟨row, store.boundary⟩ = true
  outbox : ∀ row ∈ store.outbox, Carries store.checkpoints store.config.nextCreatedOrder row
  covered : ∀ checkpoint ∈ store.checkpoints, ∃ row ∈ store.outbox, row.epoch = checkpoint.epoch
  acks : ∀ ack ∈ store.ackHistory, ∃ row ∈ store.outbox, Acknowledges ack row ∧ row.state = .acknowledged
  acknowledged : ∀ row ∈ store.outbox, row.state = .acknowledged → ∃ ack ∈ store.ackHistory, Acknowledges ack row

section Accepted

variable {store : PlayerLocalSqliteStore} (durable : Durable urlProtocol store)
include durable

theorem Durable.sorted_checkpoints : sortOn (·.epoch) store.checkpoints = store.checkpoints :=
  sortOn_eq_self (durable.chain.pairwise.imp Int.le_of_lt)

theorem Durable.eventKeys_nodup :
    ((store.events.map (eventFromRow store.boundary)).map fun event => eventKey event.authorId event.counter).Nodup := by
  rw [map_map]
  refine map_on ?_ (of_map _ durable.keyed.events)
  intro first here second there same
  obtain ⟨authors, counters⟩ := eventKey_inj same
  exact inj_on_of_nodup_map durable.keyed.events here there (Prod.ext authors counters)

theorem Durable.get_acceptedEvents (member : row ∈ store.events) :
    store.acceptedEvents.get (eventKey row.authorId row.counter) = some (eventFromRow store.boundary row) :=
  Map.get_foldl_assign (fun event : PlayerLocalAuditEvent => eventKey event.authorId event.counter) id Map.empty
    durable.eventKeys_nodup (mem_map_of_mem member)

/-- An equivocation of the image pairs a row with the accepted event of its slot. -/
def Pairs (store : PlayerLocalSqliteStore) (row : EquivocationRow) (evidence : PlayerLocalEventEquivocation) : Prop :=
  ∃ event ∈ store.events, event.authorId = row.authorId ∧ event.counter = row.counter ∧
    evidence = ⟨eventFromRow store.boundary event, conflictingEvent store.boundary row⟩

theorem Durable.equivocationFromRow_ok (row : EquivocationRow) (member : row ∈ store.equivocations) :
    ∃ evidence, store.equivocationFromRow row = .ok evidence ∧ Pairs store row evidence := by
  obtain ⟨event, found, slot⟩ := mem_map.mp (durable.keyed.accepted row member)
  obtain ⟨author, counter⟩ := Prod.mk.inj slot
  refine ⟨_, ?_, event, found, author, counter, rfl⟩
  have read := durable.get_acceptedEvents found
  rw [author, counter] at read
  exact given_bind.mpr ⟨_, read, rfl⟩

theorem Durable.image_ok :
    ∃ equivocations, store.image = .ok (store.imageWith equivocations) ∧
      List.Forall₂ (Pairs store) store.equivocations equivocations := by
  have read : ∃ equivocations, store.equivocations.mapM store.equivocationFromRow = .ok equivocations ∧
      List.Forall₂ (Pairs store) store.equivocations equivocations := by
    have each := durable.equivocationFromRow_ok
    generalize store.equivocations = rows at each
    induction rows with
    | nil => exact ⟨[], rfl, .nil⟩
    | cons row rest ih =>
      obtain ⟨evidence, first, pairs⟩ := each row mem_cons_self
      obtain ⟨others, later, all⟩ := ih fun other member => each other (mem_cons_of_mem _ member)
      exact ⟨evidence :: others, mapM_ok.mpr (.cons first (mapM_ok.mp later)), .cons pairs all⟩
  obtain ⟨equivocations, done, pairs⟩ := read
  exact ⟨equivocations, bind_ok.mpr ⟨_, done, rfl⟩, pairs⟩

theorem Durable.of_image {image : PlayerLocalAuditImage} (shown : store.image = .ok image) :
    ∃ equivocations, image = store.imageWith equivocations ∧
      List.Forall₂ (Pairs store) store.equivocations equivocations := by
  obtain ⟨equivocations, done, pairs⟩ := durable.image_ok
  exact ⟨equivocations, (Except.ok.inj (done.symm.trans shown)).symm, pairs⟩

variable {equivocations : List PlayerLocalEventEquivocation}

theorem Durable.configurationValid (below : store.config.storageRevision ≤ maxSafeInteger) :
    configurationValid (store.imageWith equivocations) = true := by
  have accepted := durable.configured
  unfold configurationAccepted at accepted
  simp only [Bool.and_eq_true, decide_eq_true_eq] at accepted
  obtain ⟨⟨boundary, genesis⟩, capacity⟩ := accepted
  have count : ((store.imageWith equivocations).outbox.filter fun entry => entry.state ≠ .acknowledged).length =
      store.activeOutboxCount := by
    rw [← countP_eq_length_filter, imageWith, countP_map]
    exact sortOn_perm.countP_eq _
  unfold PlayerStore.configurationValid
  simp only [Bool.and_eq_true, decide_eq_true_eq, count]
  exact ⟨⟨⟨⟨⟨boundary, genesis⟩, capacity⟩, isNonNegativeInteger_iff.mpr ⟨durable.revision, below⟩⟩, durable.order⟩,
    durable.room⟩

theorem Durable.retentionAnchorValid : retentionAnchorValid (store.imageWith equivocations) = true := by
  obtain ⟨⟨low, high⟩, present, genesis⟩ := durable.anchor
  have safe : isSafeInteger store.retentionAnchor.epoch = true := by
    refine isSafeInteger_iff.mpr ⟨?_, high⟩
    unfold maxSafeInteger
    omega
  unfold PlayerStore.retentionAnchorValid
  simp only [Bool.and_eq_true, decide_eq_true_eq, samePlayerLocalBoundary_iff]
  exact ⟨⟨⟨⟨⟨rfl, safe⟩, low⟩, durable.chain.bounds.1⟩, present⟩, genesis⟩

variable (equivocations) in
theorem Durable.eventKeysOf :
    ∃ keys, eventKeysOf (store.imageWith equivocations) = some keys ∧
      ∀ row ∈ store.events, keys.contains (eventKey row.authorId row.counter) = true := by
  have collected := (collectDistinct_isSome_iff (fun event : PlayerLocalAuditEvent => eventKey event.authorId event.counter)
    (fun _ => true) (imageEventValid (store.imageWith equivocations)) Map.empty
    (store.imageWith equivocations).events).mpr ⟨?_, durable.eventKeys_nodup, fun _ _ => rfl⟩
  · obtain ⟨keys, read⟩ := Option.isSome_iff_exists.mp collected
    refine ⟨keys, read, fun row member => ?_⟩
    have found := get_collectDistinct read (eventKey row.authorId row.counter)
    have present : ((store.imageWith equivocations).events.find? fun event =>
        eventKey event.authorId event.counter = eventKey row.authorId row.counter).isSome = true :=
      find?_isSome.mpr ⟨eventFromRow store.boundary row, mem_map_of_mem member, by simp [eventFromRow]⟩
    obtain ⟨event, here⟩ := Option.isSome_iff_exists.mp present
    rw [Map.contains, found, here]
    rfl
  · intro event member
    obtain ⟨row, found, rfl⟩ := mem_map.mp member
    obtain ⟨valid, retained⟩ := durable.events row found
    exact Bool.and_eq_true_iff.mpr ⟨valid, decide_eq_true retained⟩

theorem Durable.samePlayerLocalHead :
    samePlayerLocalHead (store.imageWith equivocations).head
      (if 0 < (store.imageWith equivocations).checkpoints.length then
        ⟨⟨store.head.epoch + 1 - 1, store.head.checkpointDigest⟩, store.boundary⟩
      else (store.imageWith equivocations).retentionAnchor) = true := by
  rw [samePlayerLocalHead_iff]
  split
  · simp [imageWith]
  · rename_i empty
    rcases durable.chain.last_eq with ⟨_, same⟩ | ⟨row, member, _⟩
    · obtain ⟨epoch, digest⟩ := Prod.mk.inj same
      have heads := HeadRow.ext epoch digest
      simp only [imageWith, heads]
    · exact absurd (by simpa [imageWith] using length_pos_of_mem (mem_sortOn.mpr member)) empty

omit durable in
theorem foldl_max_lt {key : α → Int} {items : List α} (below : start < bound)
    (each : ∀ item ∈ items, key item < bound) :
    items.foldl (fun greatest item => max greatest (key item)) start < bound := by
  induction items generalizing start with
  | nil => exact below
  | cons item rest ih =>
    exact ih (max_lt below (each item mem_cons_self)) fun other member => each other (mem_cons_of_mem _ member)

theorem Durable.outboxCovers : outboxCovers (store.imageWith equivocations) = true := by
  have orderSafe := isNonNegativeInteger_iff.mp durable.order
  unfold PlayerStore.outboxCovers maxCreatedOrder
  simp only [Bool.and_eq_true, all_eq_true, any_eq_true, decide_eq_true_eq]
  constructor
  · intro checkpoint member
    obtain ⟨row, found, rfl⟩ := mem_map.mp member
    obtain ⟨entry, sent, epoch⟩ := durable.covered row (mem_sortOn.mp found)
    exact ⟨⟨entry, store.boundary⟩, mem_map_of_mem (mem_sortOn.mpr sent), epoch⟩
  · refine foldl_max_lt ?_ ?_
    · have next : (store.imageWith equivocations).nextCreatedOrder = store.config.nextCreatedOrder := rfl
      omega
    · intro entry member
      obtain ⟨row, found, rfl⟩ := mem_map.mp member
      exact (durable.outbox row (mem_sortOn.mp found)).below

end Accepted

end ConvergeAudit.PlayerStore
