import ConvergeAudit.PlayerStore.Durable

/-!
One lemma says what each operation can write; the invariant of the store, and what an operation leaves in place,
follow from it.
-/

namespace ConvergeAudit.PlayerStore

open Moon Js Lib.Fallible Lib.Table Lib.NumberedChain PlayerLocalSqliteStore List

def SameEntry (row other : OutboxRow) : Prop := setOutboxState other.state row = other

theorem SameEntry.refl (row : OutboxRow) : SameEntry row row := rfl

theorem SameEntry.trans (first : SameEntry a b) (second : SameEntry b c) : SameEntry a c := by
  rw [← second, ← first]
  rfl

/-- What every operation but pruning leaves in place: the configuration, the anchor, the checkpoints, the events and the
outbox rows. -/
structure Kept (store next : PlayerLocalSqliteStore) : Prop where
  configuration : next.config.toPlayerLocalStoreConfiguration = store.config.toPlayerLocalStoreConfiguration
  anchor : next.retentionAnchor = store.retentionAnchor
  checkpoints : store.checkpoints ⊆ next.checkpoints
  events : store.events ⊆ next.events
  outbox : ∀ row ∈ store.outbox, ∃ other ∈ next.outbox, SameEntry row other

theorem Kept.refl (store : PlayerLocalSqliteStore) : Kept store store :=
  ⟨rfl, rfl, List.Subset.refl _, List.Subset.refl _, fun row member => ⟨row, member, SameEntry.refl row⟩⟩

theorem Kept.trans (first : Kept a b) (second : Kept b c) : Kept a c := by
  refine ⟨second.configuration.trans first.configuration, second.anchor.trans first.anchor,
    List.Subset.trans first.checkpoints second.checkpoints, List.Subset.trans first.events second.events, ?_⟩
  intro row member
  obtain ⟨other, found, same⟩ := first.outbox row member
  obtain ⟨last, kept, again⟩ := second.outbox other found
  exact ⟨last, kept, same.trans again⟩

theorem Kept.of_tables {next : PlayerLocalSqliteStore}
    (configuration : next.config.toPlayerLocalStoreConfiguration = store.config.toPlayerLocalStoreConfiguration)
    (anchor : next.retentionAnchor = store.retentionAnchor) (checkpoints : next.checkpoints = store.checkpoints)
    (events : next.events = store.events) (outbox : next.outbox = store.outbox) : Kept store next :=
  ⟨configuration, anchor, checkpoints ▸ List.Subset.refl _, events ▸ List.Subset.refl _,
    fun row member => ⟨row, outbox ▸ member, SameEntry.refl row⟩⟩

variable {boundary : AuditBoundary}

section Steps

variable {store next : PlayerLocalSqliteStore} {ack : AckRow}

theorem Keyed.incrementRevision (keyed : store.Keyed) : store.incrementRevision.Keyed := { keyed with }

theorem Durable.incrementRevision (durable : Durable urlProtocol store) : Durable urlProtocol store.incrementRevision :=
  { durable with
    keyed := Keyed.incrementRevision durable.keyed
    revision := by
      have before := durable.revision
      change 0 ≤ store.config.storageRevision + 1
      omega }

theorem unchanged (done : (.ok (early, store) : Except StoreError _) = .ok (answer, next)) : next = store :=
  (Prod.mk.inj (Except.ok.inj done)).2.symm

theorem Durable.early (durable : Durable urlProtocol store)
    (done : (.ok (reply, store) : Except StoreError _) = .ok (answer, next)) :
    Durable urlProtocol next ∧ Kept store next := by
  obtain rfl := unchanged done
  exact ⟨durable, Kept.refl _⟩

inductive Admitted (store : PlayerLocalSqliteStore) (event : PlayerLocalAuditEvent) :
    PlayerLocalEventAdmission → PlayerLocalSqliteStore → Prop
  | refused (reason : Str) : Admitted store event (.refused reason) store
  | duplicate {row : EventRow} (retained : store.retentionAnchor.epoch < event.epoch) (member : row ∈ store.events)
      (slot : row.authorId = event.authorId ∧ row.counter = event.counter) (same : row.eventDigest = event.eventDigest) :
      Admitted store event .duplicate store
  | known : Admitted store event .equivocation store
  | stored (valid : playerLocalEventValid store.boundary event = true)
      (retained : store.retentionAnchor.epoch < event.epoch)
      (absent : ∀ row ∈ store.events, ¬(row.authorId = event.authorId ∧ row.counter = event.counter))
      (keyed : (store.insertEvent event.toEventRow).Keyed) :
      Admitted store event .stored (store.insertEvent event.toEventRow).incrementRevision
  | conflict {row : EventRow} (valid : playerLocalEventValid store.boundary event = true)
      (retained : store.retentionAnchor.epoch < event.epoch) (member : row ∈ store.events)
      (slot : row.authorId = event.authorId ∧ row.counter = event.counter) (differs : row.eventDigest ≠ event.eventDigest)
      (keyed : (store.insertEquivocation (equivocationRow event.toEventRow)).Keyed) :
      Admitted store event .equivocation (store.insertEquivocation (equivocationRow event.toEventRow)).incrementRevision

theorem admitEvent_cases (kept : event.toEventRow.stored = event.toEventRow)
    (done : store.admitEvent event = .ok (answer, next)) : Admitted store event answer next := by
  unfold admitEvent at done
  rw [kept] at done
  dsimp only at done
  split at done
  · cases done
    exact .refused _
  rename_i valid
  rw [Bool.not_not_eq] at valid
  split at done
  · cases done
    exact .refused _
  rename_i retained
  rw [not_le] at retained
  split at done
  · rename_i free
    obtain ⟨keyed, done⟩ := statement_bind.mp done
    cases done
    exact .stored valid retained (find_none free) keyed
  rename_i accepted found
  obtain ⟨member, slot⟩ := find_some found
  split at done
  · rename_i same
    cases done
    split
    · exact .duplicate retained member slot same
    · exact .refused _
  rename_i differs
  split at done
  · cases done
    split
    · exact .known
    · exact .refused _
  · obtain ⟨keyed, done⟩ := statement_bind.mp done
    cases done
    exact .conflict valid retained member slot differs keyed

theorem eventFromRow_of_valid (valid : playerLocalEventValid boundary event = true) :
    eventFromRow boundary event.toEventRow = event := by
  unfold playerLocalEventValid at valid
  simp only [Bool.and_eq_true, samePlayerLocalBoundary_iff] at valid
  obtain ⟨⟨⟨⟨⟨rfl, _⟩, _⟩, _⟩, _⟩, _⟩ := valid
  rfl

theorem Admitted.durable (admitted : Admitted store event answer next) (durable : Durable urlProtocol store)
    (plain : (0 : UInt16) ∉ event.eventDigest.units) : Durable urlProtocol next := by
  cases admitted with
  | refused reason => exact durable
  | duplicate => exact durable
  | known => exact durable
  | stored valid retained absent keyed =>
    refine Durable.incrementRevision { durable with keyed := keyed, events := ?_, conflicts := ?_ }
    · refine Lib.forall_mem_concat durable.events ?_
      refine ⟨?_, retained⟩
      have record := eventFromRow_of_valid valid
      exact record.symm ▸ valid
    · intro row member
      obtain ⟨validRow, retainedRow, plainRow, differs⟩ := durable.conflicts row member
      refine ⟨validRow, retainedRow, plainRow, fun other found author counter => ?_⟩
      rcases mem_append.mp found with old | new
      · exact differs other old author counter
      · -- the slot of a conflict is that of a stored event
        obtain rfl := mem_singleton.mp new
        obtain ⟨accepted, stored, slot⟩ := mem_map.mp (durable.keyed.accepted row member)
        obtain ⟨sameAuthor, sameCounter⟩ := Prod.mk.inj slot
        exact absurd ⟨sameAuthor.trans author.symm, sameCounter.trans counter.symm⟩ (absent accepted stored)
  | @conflict accepted valid retained member slot differs keyed =>
    refine Durable.incrementRevision { durable with keyed := keyed, conflicts := ?_ }
    refine Lib.forall_mem_concat durable.conflicts ?_
    refine ⟨?_, retained, plain, fun other stored author counter => ?_⟩
    · have record := eventFromRow_of_valid valid
      exact record.symm ▸ valid
    · have same : other = accepted := by
        refine inj_on_of_nodup_map durable.keyed.events stored member ?_
        exact Prod.ext (author.trans slot.1.symm) (counter.trans slot.2.symm)
      exact same ▸ differs

theorem Admitted.kept (admitted : Admitted store event answer next) : Kept store next := by
  cases admitted with
  | refused reason => exact Kept.refl store
  | duplicate => exact Kept.refl store
  | known => exact Kept.refl store
  | stored =>
    exact ⟨rfl, rfl, List.Subset.refl _, subset_append_left _ _, fun row member => ⟨row, member, SameEntry.refl row⟩⟩
  | conflict => exact .of_tables rfl rfl rfl rfl rfl

def pendingRows (entries : List PlayerLocalCheckpointOutboxRecord) : List OutboxRow :=
  entries.map fun entry => setOutboxState .pending entry.toOutboxRow

theorem insertPendings_ok (kept : ∀ entry ∈ entries, entry.toOutboxRow.stored = entry.toOutboxRow)
    (done : entries.foldlM insertPending store = .ok next) : next = store.setOutbox (store.outbox ++ pendingRows entries) := by
  induction entries generalizing store with
  | nil =>
    cases done
    simp [pendingRows, setOutbox]
  | cons entry rest ih =>
    obtain ⟨middle, first, rest_⟩ := foldlM_cons_ok.mp done
    rw [insertPending, kept entry mem_cons_self] at first
    obtain ⟨_, rfl⟩ := statement_ok.mp first
    rw [ih (fun other member => kept other (mem_cons_of_mem _ member)) rest_]
    simp [pendingRows, setOutbox, insertOutbox]

def sealed (store : PlayerLocalSqliteStore) (writeSet : PlayerLocalSealWriteSet) : PlayerLocalSqliteStore :=
  (((store.insertCheckpoint writeSet.checkpoint.toCheckpointRow).setHead writeSet.nextHead.toHeadRow).setOutbox
    (store.outbox ++ pendingRows writeSet.outboxEntries)).insertClosure writeSet.consumedClosure.toClosureRow
  |>.finishSeal writeSet.nextCreatedOrder

/-- SQLite keeps the texts of the write set. -/
abbrev PlayerLocalSealWriteSet.Kept (writeSet : PlayerLocalSealWriteSet) : Prop :=
  writeSet.checkpoint.toCheckpointRow.stored = writeSet.checkpoint.toCheckpointRow ∧
    writeSet.nextHead.toHeadRow.stored = writeSet.nextHead.toHeadRow ∧
    (∀ entry ∈ writeSet.outboxEntries, entry.toOutboxRow.stored = entry.toOutboxRow) ∧
    writeSet.consumedClosure.toClosureRow.stored = writeSet.consumedClosure.toClosureRow

theorem writeSeal_ok (kept : writeSet.Kept) (done : store.writeSeal writeSet faultPoint = .ok next) :
    next = sealed store writeSet ∧ next.Keyed := by
  obtain ⟨checkpoint, head, entries, closure⟩ := kept
  unfold writeSeal at done
  rw [checkpoint, head, closure] at done
  obtain ⟨_, done⟩ := statement_bind.mp done
  obtain ⟨_, _, done⟩ := bind_ok.mp done
  obtain ⟨_, _, done⟩ := bind_ok.mp done
  obtain ⟨_, _, done⟩ := bind_ok.mp done
  obtain ⟨sent, queued, done⟩ := bind_ok.mp done
  obtain rfl := insertPendings_ok entries queued
  obtain ⟨_, _, done⟩ := bind_ok.mp done
  obtain ⟨keyed, done⟩ := statement_bind.mp done
  obtain ⟨_, _, done⟩ := bind_ok.mp done
  obtain ⟨_, _, done⟩ := bind_ok.mp done
  cases done
  exact ⟨rfl, { keyed with }⟩

theorem commitSeal_cases (kept : writeSet.Kept) (done : store.commitSeal writeSet faultPoint = .ok (answer, next)) :
    next = store ∨ next = sealed store writeSet ∧ next.Keyed ∧ store.writeSetValid writeSet = true ∧
      store.sealSnapshot writeSet.checkpoint.toCheckpointRow (writeSet.outboxEntries.map (·.destinationId)) =
        writeSet.expectedSnapshot := by
  unfold commitSeal at done
  split at done
  · exact Or.inl (unchanged done)
  split at done
  · exact Or.inl (unchanged done)
  rename_i snapshot
  rw [not_not] at snapshot
  split at done
  · exact Or.inl (unchanged done)
  rename_i valid
  rw [Bool.not_not_eq] at valid
  split at done
  · rename_i written wrote
    cases done
    obtain ⟨same, keyed⟩ := writeSeal_ok kept wrote
    exact Or.inr ⟨same, keyed, valid, snapshot⟩
  · exact Or.inl (unchanged done)
  · cases done

theorem sealEntriesValid_mem (valid : sealEntriesValid boundary checkpoint destinations createdOrder entries = true) :
    ∀ entry ∈ entries, 0 < entry.destinationId.length ∧ entry.epoch = checkpoint.epoch ∧
      entry.checkpointDigest = checkpoint.checkpointDigest ∧ entry.canonicalEnvelope = checkpoint.canonicalEnvelope ∧
      createdOrder ≤ entry.createdOrder ∧ entry.createdOrder < createdOrder + entries.length := by
  induction entries generalizing destinations createdOrder with
  | nil => simp
  | cons entry rest ih =>
    unfold sealEntriesValid sealEntryValid at valid
    simp only [Bool.and_eq_true, decide_eq_true_eq] at valid
    obtain ⟨⟨⟨⟨⟨⟨⟨⟨_, addressed⟩, epoch⟩, digest⟩, envelope⟩, order⟩, _⟩, _⟩, later⟩ := valid
    intro other member
    rw [length_cons]
    rcases mem_cons.mp member with rfl | found
    · exact ⟨addressed, epoch, digest, envelope, by omega, by omega⟩
    · obtain ⟨addressed, epoch, digest, envelope, above, below⟩ := ih later other found
      exact ⟨addressed, epoch, digest, envelope, by omega, by omega⟩

structure SealPlan (store : PlayerLocalSqliteStore) (writeSet : PlayerLocalSealWriteSet) : Prop where
  checkpoint : playerLocalCheckpointValid store.boundary writeSet.checkpoint = true
  closure : playerLocalClosureValid store.boundary writeSet.consumedClosure = true
  epoch : writeSet.checkpoint.epoch = store.head.epoch + 1
  parent : writeSet.checkpoint.previousCheckpoint = store.head.checkpointDigest
  closureEpoch : writeSet.consumedClosure.epoch = writeSet.checkpoint.epoch
  head : writeSet.nextHead = ⟨⟨writeSet.checkpoint.epoch, writeSet.checkpoint.checkpointDigest⟩, store.boundary⟩
  sends : writeSet.outboxEntries ≠ []
  room : (store.activeOutboxCount : Int) + writeSet.outboxEntries.length ≤ store.config.outboxCapacity
  order : writeSet.nextCreatedOrder = store.config.nextCreatedOrder + writeSet.outboxEntries.length
  safe : isSafeInteger writeSet.nextCreatedOrder = true
  entries : sealEntriesValid store.boundary writeSet.checkpoint [] store.config.nextCreatedOrder writeSet.outboxEntries = true

theorem sealPlan_of_valid (valid : store.writeSetValid writeSet = true)
    (snapshot : store.sealSnapshot writeSet.checkpoint.toCheckpointRow (writeSet.outboxEntries.map (·.destinationId)) =
      writeSet.expectedSnapshot) : SealPlan store writeSet := by
  unfold writeSetValid playerLocalSealWriteSetValid at valid
  simp only [← snapshot, Bool.and_eq_true, decide_eq_true_eq, samePlayerLocalHead_iff] at valid
  obtain ⟨⟨⟨⟨⟨⟨⟨⟨⟨⟨⟨⟨_, checkpoint⟩, closure⟩, epoch⟩, parent⟩, closureEpoch⟩, head⟩, sends⟩, count⟩, room⟩, order⟩, safe⟩,
    entries⟩ := valid
  refine ⟨checkpoint, closure, epoch, parent, closureEpoch, head, sends, ?_, order, safe, entries⟩
  rw [count] at room
  exact room

theorem draft_of_valid (valid : playerLocalCheckpointValid boundary checkpoint = true) :
    ⟨checkpoint.toCheckpointRow, boundary⟩ = checkpoint := by
  unfold playerLocalCheckpointValid at valid
  simp only [Bool.and_eq_true, samePlayerLocalBoundary_iff] at valid
  obtain ⟨⟨⟨⟨rfl, _⟩, _⟩, _⟩, _⟩ := valid
  rfl

theorem closure_of_valid {closure : EpochClosureEvidence} (valid : playerLocalClosureValid boundary closure = true) :
    ⟨closure.toClosureRow, boundary⟩ = closure := by
  unfold playerLocalClosureValid at valid
  simp only [Bool.and_eq_true, samePlayerLocalBoundary_iff] at valid
  obtain ⟨⟨⟨⟨rfl, _⟩, _⟩, _⟩, _⟩ := valid
  rfl

theorem Carries.mono {checkpoints : List CheckpointRow} (carries : Carries checkpoints nextCreatedOrder row)
    (within : checkpoints ⊆ more) (grows : nextCreatedOrder ≤ later) : Carries more later row := by
  obtain ⟨addressed, order, below, state, checkpoint, stored, same⟩ := carries
  exact ⟨addressed, order, by omega, state, checkpoint, within stored, same⟩

theorem SealPlan.durable (plan : SealPlan store writeSet) (durable : Durable urlProtocol store)
    (keyed : (sealed store writeSet).Keyed) (plain : (0 : UInt16) ∉ writeSet.checkpoint.checkpointDigest.units) :
    Durable urlProtocol (sealed store writeSet) := by
  have orderSafe := isNonNegativeInteger_iff.mp durable.order
  have grows : store.config.nextCreatedOrder ≤ writeSet.nextCreatedOrder := by
    have order := plan.order
    omega
  have entries := sealEntriesValid_mem plan.entries
  refine { durable with
    keyed := keyed, revision := ?_, order := ?_, room := ?_, chain := ?_, checkpoints := ?_, closures := ?_, closed := ?_
    holds := ?_, outbox := ?_, covered := ?_, acks := ?_, acknowledged := ?_ }
  · have before := durable.revision
    change 0 ≤ store.config.storageRevision + 1
    omega
  · exact isNonNegativeInteger_iff.mpr ⟨by change 0 ≤ writeSet.nextCreatedOrder; omega, (isSafeInteger_iff.mp plan.safe).2⟩
  · have count : (sealed store writeSet).activeOutboxCount = store.activeOutboxCount + writeSet.outboxEntries.length := by
      have pending : (pendingRows writeSet.outboxEntries).countP (fun row => row.state ≠ .acknowledged) =
          writeSet.outboxEntries.length := by
        rw [pendingRows, countP_map, countP_eq_length]
        intro entry _
        simp [setOutboxState]
      change (store.outbox ++ pendingRows writeSet.outboxEntries).countP (fun row => row.state ≠ .acknowledged) = _
      rw [countP_append, pending]
      rfl
    rw [count]
    exact plan.room
  · have head : (sealed store writeSet).head = ⟨writeSet.checkpoint.epoch, writeSet.checkpoint.checkpointDigest⟩ :=
      congrArg CheckpointSealHead.toHeadRow plan.head
    rw [head]
    exact durable.chain.snoc plan.epoch plan.parent
  · refine Lib.forall_mem_concat durable.checkpoints ?_
    refine ⟨?_, plain⟩
    have record := draft_of_valid plan.checkpoint
    exact record.symm ▸ plan.checkpoint
  · change (store.consumedClosures ++ [_]).map _ = (store.checkpoints ++ [_]).map _
    rw [map_append, map_append, durable.closures, map_singleton, map_singleton]
    exact congrArg (fun epoch => store.checkpoints.map (·.epoch) ++ [epoch]) plan.closureEpoch
  · refine Lib.forall_mem_concat durable.closed ?_
    have record := closure_of_valid plan.closure
    exact record.symm ▸ plan.closure
  · intro row member
    obtain ⟨valid, checkpoint, stored, same⟩ := durable.holds row member
    exact ⟨valid, checkpoint, mem_append_left _ stored, same⟩
  · intro row member
    rcases mem_append.mp member with old | new
    · exact (durable.outbox row old).mono (subset_append_left _ _) grows
    · obtain ⟨entry, found, rfl⟩ := mem_map.mp new
      obtain ⟨addressed, epoch, digest, envelope, above, below⟩ := entries entry found
      refine ⟨addressed, ?_, ?_, rfl, writeSet.checkpoint.toCheckpointRow, ?_, epoch.symm, digest.symm, envelope.symm⟩
      · change 0 ≤ entry.createdOrder
        omega
      · have order := plan.order
        change entry.createdOrder < writeSet.nextCreatedOrder
        omega
      · exact mem_append_right _ (mem_singleton_self _)
  · intro checkpoint member
    rcases mem_append.mp member with old | new
    · obtain ⟨row, sent, same⟩ := durable.covered checkpoint old
      exact ⟨row, mem_append_left _ sent, same⟩
    · obtain rfl := mem_singleton.mp new
      obtain ⟨entry, found⟩ := exists_mem_of_ne_nil _ plan.sends
      exact ⟨_, mem_append_right _ (mem_map_of_mem found), (entries entry found).2.1⟩
  · intro ack member
    obtain ⟨row, sent, same⟩ := durable.acks ack member
    exact ⟨row, mem_append_left _ sent, same⟩
  · intro row member acknowledged
    rcases mem_append.mp member with old | new
    · exact durable.acknowledged row old acknowledged
    · obtain ⟨entry, _, rfl⟩ := mem_map.mp new
      cases acknowledged

theorem sealed_kept : Kept store (sealed store writeSet) :=
  ⟨rfl, rfl, subset_append_left _ _, List.Subset.refl _,
    fun row member => ⟨row, mem_append_left _ member, SameEntry.refl row⟩⟩

def moved (selected : OutboxRow → Bool) (state : CheckpointOutboxState) (rows : List OutboxRow) : List OutboxRow :=
  (updateWhere selected (setOutboxState state) rows).1

section Moved

variable {selected : OutboxRow → Bool} {state : CheckpointOutboxState}

theorem mem_moved : other ∈ moved selected state rows ↔
    (other ∈ rows ∧ selected other = false) ∨ ∃ row ∈ rows, selected row = true ∧ setOutboxState state row = other :=
  mem_updateWhere

variable (selected state) in
theorem moved_of_mem (member : row ∈ rows) : ∃ other ∈ moved selected state rows, SameEntry row other := by
  cases here : selected row with
  | false => exact ⟨row, mem_moved.mpr (Or.inl ⟨member, here⟩), SameEntry.refl row⟩
  | true => exact ⟨_, mem_moved.mpr (Or.inr ⟨row, member, here, rfl⟩), rfl⟩

theorem Carries.moved {checkpoints : List CheckpointRow}
    (each : ∀ row ∈ rows, Carries checkpoints nextCreatedOrder row) (valid : outboxStateValid state = true) :
    ∀ row ∈ moved selected state rows, Carries checkpoints nextCreatedOrder row := by
  intro other member
  rcases mem_moved.mp member with ⟨old, _⟩ | ⟨row, found, _, rfl⟩
  · exact each other old
  · obtain ⟨addressed, order, below, _, checkpoint⟩ := each row found
    exact ⟨addressed, order, below, valid, checkpoint⟩

theorem countP_moved_le (selected : OutboxRow → Bool) (state : CheckpointOutboxState) (rows : List OutboxRow)
    (keeps : ∀ row ∈ rows, selected row = true → row.state ≠ .acknowledged) :
    (moved selected state rows).countP (fun row => row.state ≠ .acknowledged) ≤
      rows.countP fun row => row.state ≠ .acknowledged := by
  unfold PlayerStore.moved updateWhere
  rw [countP_map]
  refine countP_mono_left fun row member active => ?_
  by_cases here : selected row = true
  · exact decide_eq_true (keeps row member here)
  · simpa [here] using active

end Moved

theorem moved_kept : Kept store (store.setOutbox (moved selected state store.outbox)).incrementRevision :=
  ⟨rfl, rfl, List.Subset.refl _, List.Subset.refl _, fun _ member => moved_of_mem _ _ member⟩

/-- Claiming and releasing: rows that are not acknowledged change their state to another such state. -/
structure Leased (store next : PlayerLocalSqliteStore) (selected : OutboxRow → Bool) (state : CheckpointOutboxState) :
    Prop where
  active : ∀ row, selected row = true → row.state ≠ .acknowledged
  remains : state ≠ .acknowledged
  valid : outboxStateValid state = true
  keyed : (store.setOutbox (moved selected state store.outbox)).Keyed
  next : next = (store.setOutbox (moved selected state store.outbox)).incrementRevision

theorem Leased.durable (leased : Leased store next selected state) (durable : Durable urlProtocol store) :
    Durable urlProtocol next := by
  obtain ⟨active, remains, valid, keyed, rfl⟩ := leased
  refine Durable.incrementRevision { durable with
    keyed := keyed, room := ?_, outbox := Carries.moved durable.outbox valid, covered := ?_, acks := ?_, acknowledged := ?_ }
  · have fewer := countP_moved_le selected state store.outbox fun row _ => active row
    have room := durable.room
    unfold activeOutboxCount at *
    change ((moved selected state store.outbox).countP _ : Int) ≤ store.config.outboxCapacity
    omega
  · intro checkpoint member
    obtain ⟨row, sent, epoch⟩ := durable.covered checkpoint member
    obtain ⟨other, found, same⟩ := moved_of_mem selected state sent
    exact ⟨other, found, by rw [← same]; exact epoch⟩
  · intro ack member
    obtain ⟨row, sent, matches_, acknowledged⟩ := durable.acks ack member
    refine ⟨row, mem_moved.mpr (Or.inl ⟨sent, ?_⟩), matches_, acknowledged⟩
    by_contra chosen
    exact active row (by simpa using chosen) acknowledged
  · intro row member acknowledged
    rcases mem_moved.mp member with ⟨old, _⟩ | ⟨_, _, _, rfl⟩
    · exact durable.acknowledged row old acknowledged
    · exact absurd acknowledged remains

theorem claimOutbox_cases (done : store.claimOutbox createdOrder nowMs leaseDurationMs = .ok (answer, next)) :
    next = store ∨ ∃ selected state, Leased store next selected state := by
  unfold claimOutbox at done
  split at done
  · exact Or.inl (unchanged done)
  rename_i shaped
  simp only [Bool.or_eq_true, Bool.not_eq_true', decide_eq_true_eq, not_or, Bool.not_eq_false] at shaped
  obtain ⟨⟨⟨_, now⟩, _⟩, positive⟩ := shaped
  dsimp only at done
  split at done
  · exact Or.inl (unchanged done)
  rename_i expiry
  simp only [Bool.or_eq_true, Bool.not_eq_true', decide_eq_true_eq, not_or, Bool.not_eq_false] at expiry
  iterate 3
    split at done
    · exact Or.inl (unchanged done)
  · obtain ⟨keyed, done⟩ := statement_bind.mp done
    cases done
    refine Or.inr ⟨_, _, ?_, by simp, ?_, keyed, rfl⟩
    · intro row chosen acknowledged
      rw [Bool.and_eq_true, acknowledged] at chosen
      cases chosen.2
    · have nonneg := (isNonNegativeInteger_iff.mp now).1
      exact isNonNegativeInteger_iff.mpr ⟨by omega, (isSafeInteger_iff.mp expiry.1).2⟩

theorem releaseOutbox_cases (done : store.releaseOutbox createdOrder = .ok (answer, next)) :
    next = store ∨ ∃ selected state, Leased store next selected state := by
  unfold releaseOutbox at done
  split at done
  · exact Or.inl (unchanged done)
  dsimp only at done
  split at done
  · exact Or.inl (unchanged done)
  · obtain ⟨keyed, done⟩ := statement_bind.mp done
    cases done
    refine Or.inr ⟨_, _, ?_, by simp, rfl, keyed, rfl⟩
    intro row chosen acknowledged
    rw [Bool.and_eq_true, acknowledged] at chosen
    cases chosen.2

def closes (row other : OutboxRow) : Bool := decide (other.createdOrder = row.createdOrder ∧ other.state ≠ .acknowledged)

def acked (store : PlayerLocalSqliteStore) (ack : AckRow) (row : OutboxRow) : PlayerLocalSqliteStore :=
  (store.insertAck ack).setOutbox (moved (closes row) .acknowledged store.outbox)

theorem acknowledgeOutbox_cases (done : store.acknowledgeOutbox evidence = .ok (answer, next)) :
    next = store ∨ ∃ ack, ∃ row ∈ store.outbox, Acknowledges ack row ∧ row.state ≠ .acknowledged ∧
      (acked store ack row).Keyed ∧ next = (acked store ack row).incrementRevision := by
  unfold acknowledgeOutbox at done
  split at done
  · exact Or.inl (unchanged done)
  split at done
  · exact Or.inl (unchanged done)
  rename_i row found
  obtain ⟨member, destination, epoch, digest⟩ := find_some found
  split at done
  · exact Or.inl (unchanged done)
  rename_i active
  obtain ⟨_, done⟩ := statement_bind.mp done
  obtain ⟨_, _, done⟩ := bind_ok.mp done
  obtain ⟨keyed, done⟩ := statement_bind.mp done
  cases done
  exact Or.inr ⟨_, row, member, ⟨destination.symm, epoch.symm, digest.symm⟩, active, keyed, rfl⟩

theorem Durable.acked (durable : Durable urlProtocol store) (member : row ∈ store.outbox)
    (matches_ : Acknowledges ack row) (active : row.state ≠ .acknowledged) (keyed : (acked store ack row).Keyed) :
    Durable urlProtocol (acked store ack row) := by
  have chosen : closes row row = true := decide_eq_true ⟨rfl, active⟩
  refine { durable with
    keyed := keyed, room := ?_, outbox := Carries.moved durable.outbox rfl, covered := ?_, acks := ?_, acknowledged := ?_ }
  · have fewer := countP_moved_le (closes row) .acknowledged store.outbox fun other _ here =>
      (of_decide_eq_true here).2
    have room := durable.room
    unfold activeOutboxCount at *
    change ((moved (closes row) .acknowledged store.outbox).countP _ : Int) ≤ store.config.outboxCapacity
    omega
  · intro checkpoint member
    obtain ⟨entry, sent, epoch⟩ := durable.covered checkpoint member
    obtain ⟨other, found, same⟩ := moved_of_mem (closes row) .acknowledged sent
    exact ⟨other, found, by rw [← same]; exact epoch⟩
  · intro other found
    rcases mem_append.mp found with old | new
    · obtain ⟨entry, sent, same, acknowledged⟩ := durable.acks other old
      refine ⟨entry, mem_moved.mpr (Or.inl ⟨sent, ?_⟩), same, acknowledged⟩
      simp [closes, acknowledged]
    · obtain rfl := mem_singleton.mp new
      exact ⟨_, mem_moved.mpr (Or.inr ⟨row, member, chosen, rfl⟩), matches_, rfl⟩
  · intro entry found acknowledged
    rcases mem_moved.mp found with ⟨old, _⟩ | ⟨other, sent, here, rfl⟩
    · obtain ⟨other, known, same⟩ := durable.acknowledged entry old acknowledged
      exact ⟨other, mem_append_left _ known, same⟩
    · have same : other = row := inj_on_of_nodup_map durable.keyed.orders sent member (of_decide_eq_true here).1
      subst same
      exact ⟨ack, mem_append_right _ (mem_singleton_self _), matches_⟩

theorem acked_kept : Kept store (acked store ack row).incrementRevision :=
  ⟨rfl, rfl, List.Subset.refl _, List.Subset.refl _, fun _ member => moved_of_mem _ _ member⟩

end Steps

end ConvergeAudit.PlayerStore
