import ConvergeAudit.PlayerStore.Operations

/-!
The operations on evidence keep the invariant of the store. Pruning removes whole epochs behind the anchor, and only
epochs that no row still needs.
-/

namespace ConvergeAudit.PlayerStore

open Moon Js Lib.Fallible Lib.Table Lib.NumberedChain PlayerLocalSqliteStore List

variable {boundary : AuditBoundary} {equivocations : List PlayerLocalEventEquivocation}

section Steps

variable {store next : PlayerLocalSqliteStore}

theorem hold_of_valid (valid : playerLocalEvidenceHoldValid boundary hold = true) :
    ⟨hold.toEvidenceHoldRow, boundary⟩ = hold := by
  unfold playerLocalEvidenceHoldValid at valid
  simp only [Bool.and_eq_true, samePlayerLocalBoundary_iff] at valid
  obtain ⟨⟨⟨⟨⟨rfl, _⟩, _⟩, _⟩, _⟩, _⟩ := valid
  rfl

structure Placeable (store : PlayerLocalSqliteStore) (hold : PlayerLocalEvidenceHold) : Prop where
  valid : playerLocalEvidenceHoldValid store.boundary hold = true
  active : hold.state = .active
  checkpoint : ∃ checkpoint ∈ store.checkpoints, checkpoint.epoch = hold.epoch ∧
    checkpoint.checkpointDigest = hold.checkpointDigest

theorem Placeable.durable (placeable : Placeable store hold) (durable : Durable urlProtocol store)
    (keyed : (store.insertHold (setHoldState .active hold.toEvidenceHoldRow)).Keyed) :
    Durable urlProtocol (store.insertHold (setHoldState .active hold.toEvidenceHoldRow)) := by
  refine { durable with keyed := keyed, holds := ?_ }
  refine Lib.forall_mem_concat durable.holds ?_
  have same : setHoldState .active hold.toEvidenceHoldRow = hold.toEvidenceHoldRow := by
    rw [← placeable.active]
    rfl
  rw [same]
  refine ⟨?_, placeable.checkpoint⟩
  have record := hold_of_valid placeable.valid
  exact record.symm ▸ placeable.valid

theorem placeEvidenceHold_cases (kept : hold.toEvidenceHoldRow.stored = hold.toEvidenceHoldRow)
    (done : store.placeEvidenceHold hold = .ok (answer, next)) :
    next = store ∨ Placeable store hold ∧ (store.insertHold (setHoldState .active hold.toEvidenceHoldRow)).Keyed ∧
      next = (store.insertHold (setHoldState .active hold.toEvidenceHoldRow)).incrementRevision := by
  unfold placeEvidenceHold at done
  rw [kept] at done
  split at done
  · exact Or.inl (unchanged done)
  rename_i shaped
  simp only [Bool.or_eq_true, Bool.not_eq_true', decide_eq_true_eq, not_or, Bool.not_eq_false, not_not] at shaped
  iterate 3
    split at done
    · exact Or.inl (unchanged done)
  rename_i known
  obtain ⟨keyed, done⟩ := statement_bind.mp done
  cases done
  refine Or.inr ⟨⟨shaped.1, shaped.2, ?_⟩, keyed, rfl⟩
  cases found : store.checkpointAt hold.epoch with
  | none => simp [found] at known
  | some checkpoint =>
    obtain ⟨member, epoch⟩ := find_some found
    exact ⟨checkpoint, member, epoch, by simpa [found] using known⟩

theorem Durable.resolveHold (durable : Durable urlProtocol store)
    (kept : sqlText resolution.resolutionDigest = resolution.resolutionDigest)
    (valid : playerLocalEvidenceHoldResolutionValid store.boundary resolution = true)
    (keyed : (store.setHolds (store.resolveHold resolution).1).Keyed) :
    Durable urlProtocol (store.setHolds (store.resolveHold resolution).1) := by
  unfold playerLocalEvidenceHoldResolutionValid at valid
  simp only [Bool.and_eq_true, decide_eq_true_eq] at valid
  refine { durable with keyed := keyed, holds := ?_ }
  intro row member
  rcases mem_updateWhere.mp member with ⟨old, _⟩ | ⟨other, found, _, rfl⟩
  · exact durable.holds row old
  · obtain ⟨validRow, checkpoint⟩ := durable.holds other found
    refine ⟨?_, checkpoint⟩
    unfold playerLocalEvidenceHoldValid at validRow ⊢
    simp only [Bool.and_eq_true] at validRow ⊢
    exact ⟨validRow.1, decide_eq_true (kept.symm ▸ valid.2)⟩

theorem resolveEvidenceHold_cases (done : store.resolveEvidenceHold resolution = .ok (answer, next)) :
    next = store ∨ playerLocalEvidenceHoldResolutionValid store.boundary resolution = true ∧
      (store.setHolds (store.resolveHold resolution).1).Keyed ∧
      next = (store.setHolds (store.resolveHold resolution).1).incrementRevision := by
  unfold resolveEvidenceHold at done
  split at done
  · exact Or.inl (unchanged done)
  rename_i valid
  rw [Bool.not_not_eq] at valid
  iterate 3
    split at done
    · exact Or.inl (unchanged done)
  · obtain ⟨_, _, done⟩ := bind_ok.mp done
    obtain ⟨keyed, done⟩ := statement_bind.mp done
    cases done
    exact Or.inr ⟨valid, keyed, rfl⟩

theorem placeable_of_inbox
    (valid : inboxOperationValid (store.imageWith equivocations) messageId (.place hold) = true) :
    Placeable store hold := by
  unfold inboxOperationValid at valid
  simp only [Bool.and_eq_true, decide_eq_true_eq] at valid
  obtain ⟨⟨⟨⟨_, shaped⟩, active⟩, known⟩, _⟩ := valid
  refine ⟨shaped, active, ?_⟩
  cases found : (store.imageWith equivocations).checkpoints.find? fun checkpoint => checkpoint.epoch = hold.epoch with
  | none => simp [found] at known
  | some checkpoint =>
    obtain ⟨member, epoch⟩ := find_some found
    obtain ⟨row, stored, rfl⟩ := mem_map.mp member
    exact ⟨row, mem_sortOn.mp stored, epoch, by simpa [found] using known⟩

/-- SQLite keeps the texts that the operation writes. -/
def PlayerLocalEvidenceInboxOperation.kept : PlayerLocalEvidenceInboxOperation → Bool
  | .place hold => decide (hold.toEvidenceHoldRow.stored = hold.toEvidenceHoldRow)
  | .resolve resolution => decide (sqlText resolution.resolutionDigest = resolution.resolutionDigest)

section
variable (durable : Durable urlProtocol store)
include durable

theorem applyInboxOperation_durable (kept : operation.kept)
    (valid : inboxOperationValid (store.imageWith equivocations) messageId operation = true)
    (done : store.applyInboxOperation operation = .ok next) : Durable urlProtocol next ∧ Kept store next := by
  cases operation with
  | place hold =>
    simp only [applyInboxOperation, of_decide_eq_true kept] at done
    split at done
    · cases done
      exact ⟨durable, Kept.refl _⟩
    · obtain ⟨keyed, rfl⟩ := statement_ok.mp done
      exact ⟨(placeable_of_inbox valid).durable durable keyed, .of_tables rfl rfl rfl rfl rfl⟩
  | resolve resolution =>
    obtain ⟨existing, _, done⟩ := bind_ok.mp done
    unfold inboxOperationValid at valid
    simp only [Bool.and_eq_true] at valid
    split at done
    · obtain ⟨_, _, done⟩ := bind_ok.mp done
      obtain ⟨keyed, rfl⟩ := statement_ok.mp done
      exact ⟨durable.resolveHold (of_decide_eq_true kept) valid.1.2 keyed, .of_tables rfl rfl rfl rfl rfl⟩
    · cases done
      exact ⟨durable, Kept.refl _⟩

theorem writeCursor_durable (source : boundedText following.sourceId 256 = true)
    (sequence : isNonNegativeInteger following.sequence = true)
    (digest : boundedText following.messageDigest 4096 = true)
    (done : store.writeCursor expected following = .ok next) : Durable urlProtocol next ∧ Kept store next := by
  unfold writeCursor at done
  split at done
  · obtain ⟨_, _, done⟩ := bind_ok.mp done
    obtain ⟨keyed, rfl⟩ := statement_ok.mp done
    refine ⟨{ durable with keyed := keyed, cursors := ?_ }, .of_tables rfl rfl rfl rfl rfl⟩
    exact Lib.forall_mem_concat durable.cursors ⟨source, sequence, digest⟩
  · obtain ⟨_, _, done⟩ := bind_ok.mp done
    obtain ⟨keyed, rfl⟩ := statement_ok.mp done
    refine ⟨{ durable with keyed := keyed, cursors := ?_ }, .of_tables rfl rfl rfl rfl rfl⟩
    intro row member
    rcases mem_updateWhere.mp member with ⟨old, _⟩ | ⟨other, found, _, rfl⟩
    · exact durable.cursors row old
    · exact ⟨(durable.cursors other found).1, sequence, digest⟩

theorem applyEvidenceInbox_durable (kept : writeSet.operation.kept)
    (keptCursor : writeSet.nextCursor.toEvidenceInboxCursorRow.stored = writeSet.nextCursor.toEvidenceInboxCursorRow)
    (done : store.applyEvidenceInbox writeSet faultPoint = .ok (answer, next)) :
    Durable urlProtocol next ∧ Kept store next := by
  unfold applyEvidenceInbox at done
  rw [keptCursor] at done
  obtain ⟨current, shown, done⟩ := bind_ok.mp done
  obtain ⟨equivocations, rfl, _⟩ := durable.of_image shown
  iterate 2
    split at done
    · exact durable.early done
  rename_i valid
  rw [Bool.not_not_eq] at valid
  obtain ⟨cursors, operation⟩ := Bool.and_eq_true_iff.mp valid
  unfold inboxCursorsValid at cursors
  simp only [Bool.and_eq_true, decide_eq_true_eq] at cursors
  obtain ⟨⟨⟨⟨⟨⟨⟨⟨⟨⟨⟨⟨⟨⟨⟨⟨⟨_, _⟩, _⟩, _⟩, named⟩, short⟩, source⟩, _⟩, _⟩, sequence⟩, _⟩, _⟩, _⟩, present⟩, bounded⟩, _⟩, _⟩,
    _⟩ := cursors
  obtain ⟨held, applied, done⟩ := bind_ok.mp done
  obtain ⟨durableHeld, keptHeld⟩ := applyInboxOperation_durable durable kept operation applied
  obtain ⟨_, _, done⟩ := bind_ok.mp done
  obtain ⟨moved, wrote, done⟩ := bind_ok.mp done
  obtain ⟨_, _, done⟩ := bind_ok.mp done
  cases done
  obtain ⟨durableMoved, keptMoved⟩ := writeCursor_durable durableHeld
    (decide_eq_true ⟨source ▸ named, source ▸ short⟩) sequence (decide_eq_true ⟨present, bounded⟩) wrote
  refine ⟨durableMoved.incrementRevision, ?_⟩
  exact (keptHeld.trans keptMoved).trans (.of_tables rfl rfl rfl rfl rfl)

theorem updatePollJob_durable
    (valid : ∀ row ∈ store.evidencePollJobs, row.sourceId = sqlText sourceId →
      playerLocalEvidencePollJobValid urlProtocol store.boundary ⟨change row, store.boundary⟩ = true)
    (done : (store.updatePollJob sourceId change >>= fun written => .ok (reply, written)) = .ok (answer, next)) :
    Durable urlProtocol next ∧ Kept store next := by
  obtain ⟨_, wrote, done⟩ := bind_ok.mp done
  obtain ⟨keyed, wrote⟩ := statement_bind.mp wrote
  cases wrote
  cases done
  refine ⟨Durable.incrementRevision { durable with keyed := keyed, jobs := ?_ }, .of_tables rfl rfl rfl rfl rfl⟩
  intro row member
  rcases mem_updateWhere.mp member with ⟨old, _⟩ | ⟨other, found, here, rfl⟩
  · exact durable.jobs row old
  · exact valid other found (of_decide_eq_true here)

end

theorem job_of_valid (valid : playerLocalEvidencePollJobDraftValid urlProtocol boundary draft = true) :
    ⟨draft.toPollSchedule, boundary⟩ = draft := by
  unfold playerLocalEvidencePollJobDraftValid at valid
  simp only [Bool.and_eq_true, samePlayerLocalBoundary_iff] at valid
  obtain ⟨⟨⟨⟨⟨⟨⟨⟨rfl, _⟩, _⟩, _⟩, _⟩, _⟩, _⟩, _⟩, _⟩ := valid
  rfl

structure JobFacts (urlProtocol : Str → Option Str) (boundary : AuditBoundary) (row : EvidencePollJobRow) : Prop where
  draft : playerLocalEvidencePollJobDraftValid urlProtocol boundary ⟨row.toPollSchedule, boundary⟩ = true
  failures : isNonNegativeInteger row.failures = true
  attempts : isNonNegativeInteger row.attemptCount = true
  state : pollStateValid row = true

theorem jobFacts_iff :
    playerLocalEvidencePollJobValid urlProtocol boundary ⟨row, boundary⟩ = true ↔ JobFacts urlProtocol boundary row := by
  unfold playerLocalEvidencePollJobValid
  simp only [Bool.and_eq_true]
  constructor
  · rintro ⟨⟨⟨draft, failures⟩, attempts⟩, state⟩
    exact ⟨draft, failures, attempts, state⟩
  · rintro ⟨draft, failures, attempts, state⟩
    exact ⟨⟨⟨draft, failures⟩, attempts⟩, state⟩

theorem JobFacts.deadline (facts : JobFacts urlProtocol boundary row) :
    isNonNegativeInteger row.deadlineAtMs = true := by
  have draft := facts.draft
  unfold playerLocalEvidencePollJobDraftValid at draft
  simp only [Bool.and_eq_true] at draft
  exact draft.1.1.2

section
variable (durable : Durable urlProtocol store)
include durable

theorem scheduleEvidencePollJob_durable (kept : draft.toPollSchedule.stored = draft.toPollSchedule)
    (done : store.scheduleEvidencePollJob urlProtocol draft = .ok (answer, next)) :
    Durable urlProtocol next ∧ Kept store next := by
  unfold scheduleEvidencePollJob at done
  rw [kept] at done
  split at done
  · exact durable.early done
  rename_i valid
  rw [Bool.not_not_eq] at valid
  split at done
  · exact durable.early done
  obtain ⟨keyed, done⟩ := statement_bind.mp done
  cases done
  refine ⟨Durable.incrementRevision { durable with keyed := keyed, jobs := ?_ }, .of_tables rfl rfl rfl rfl rfl⟩
  refine Lib.forall_mem_concat durable.jobs ?_
  have record := job_of_valid valid
  exact jobFacts_iff.mpr ⟨record.symm ▸ valid, rfl, rfl, rfl⟩

theorem claimEvidencePollJob_durable
    (done : store.claimEvidencePollJob sourceId nowMs leaseDurationMs = .ok (answer, next)) :
    Durable urlProtocol next ∧ Kept store next := by
  unfold claimEvidencePollJob at done
  split at done
  · exact durable.early done
  rename_i shaped
  simp only [Bool.or_eq_true, Bool.not_eq_true', decide_eq_true_eq, not_or, Bool.not_eq_false] at shaped
  obtain ⟨⟨⟨_, now⟩, _⟩, _⟩ := shaped
  dsimp only at done
  split at done
  · exact durable.early done
  rename_i expiry
  split at done
  · exact durable.early done
  rename_i row found
  obtain ⟨member, named⟩ := find_some found
  -- the source has one job, the one that was read
  have only : ∀ other ∈ store.evidencePollJobs, other.sourceId = sqlText sourceId → other = row := by
    intro other here same
    exact inj_on_of_nodup_map durable.keyed.jobs here member (same.trans named.symm)
  have facts := jobFacts_iff.mp (durable.jobs row member)
  split at done
  · exact durable.early done
  split at done
  · rename_i late
    refine updatePollJob_durable durable (fun other here same => ?_) done
    obtain rfl := only other here same
    refine jobFacts_iff.mpr ⟨facts.draft, facts.failures, facts.attempts, ?_⟩
    exact Bool.and_eq_true_iff.mpr ⟨now, decide_eq_true late⟩
  iterate 2
    split at done
    · exact durable.early done
  rename_i attempts
  rw [Bool.not_not_eq] at attempts
  refine updatePollJob_durable durable (fun other here same => ?_) done
  obtain rfl := only other here same
  have before := isNonNegativeInteger_iff.mp facts.attempts
  have deadline := isNonNegativeInteger_iff.mp facts.deadline
  have started := isNonNegativeInteger_iff.mp now
  have safe := isSafeInteger_iff.mp attempts
  refine jobFacts_iff.mpr ⟨facts.draft, facts.failures, isNonNegativeInteger_iff.mpr ⟨?_, safe.2⟩, ?_⟩
  · change 0 ≤ other.attemptCount + 1
    omega
  · change (decide (0 < other.attemptCount + 1) &&
      isNonNegativeInteger (min (nowMs + leaseDurationMs) other.deadlineAtMs) &&
      decide (min (nowMs + leaseDurationMs) other.deadlineAtMs ≤ other.deadlineAtMs)) = true
    simp only [Bool.and_eq_true, decide_eq_true_eq, isNonNegativeInteger_iff]
    refine ⟨⟨by omega, by omega, by omega⟩, by omega⟩

theorem completeEvidencePollJob_durable (done : store.completeEvidencePollJob completion = .ok (answer, next)) :
    Durable urlProtocol next ∧ Kept store next := by
  unfold completeEvidencePollJob at done
  split at done
  · exact durable.early done
  rename_i shaped
  rw [Bool.not_not_eq] at shaped
  unfold completionValid at shaped
  simp only [Bool.and_eq_true] at shaped
  split at done
  · exact durable.early done
  rename_i row found
  obtain ⟨member, named⟩ := find_some found
  iterate 2
    split at done
    · exact durable.early done
  rename_i allowed
  rw [Bool.not_not_eq] at allowed
  unfold completionAllowed at allowed
  simp only [Bool.and_eq_true, decide_eq_true_eq] at allowed
  refine updatePollJob_durable durable (fun other here same => ?_) done
  obtain rfl := inj_on_of_nodup_map durable.keyed.jobs here member (same.trans named.symm)
  have facts := jobFacts_iff.mp (durable.jobs other member)
  refine jobFacts_iff.mpr ⟨?_, shaped.2, facts.attempts, rfl⟩
  have draft := facts.draft
  unfold playerLocalEvidencePollJobDraftValid at draft ⊢
  simp only [Bool.and_eq_true] at draft ⊢
  exact ⟨⟨draft.1.1, shaped.1.2⟩, decide_eq_true allowed.1.1.2⟩

theorem escalateEvidencePollJob_durable (kept : sqlText reasonDigest = reasonDigest)
    (done : store.escalateEvidencePollJob sourceId nowMs reasonDigest = .ok (answer, next)) :
    Durable urlProtocol next ∧ Kept store next := by
  unfold escalateEvidencePollJob at done
  rw [kept] at done
  split at done
  · exact durable.early done
  rename_i shaped
  simp only [Bool.or_eq_true, Bool.not_eq_true', not_or, Bool.not_eq_false] at shaped
  obtain ⟨⟨_, now⟩, reason⟩ := shaped
  unfold boundedText at reason
  rw [decide_eq_true_eq] at reason
  iterate 2
    split at done
    · exact durable.early done
  refine updatePollJob_durable durable (fun other here _ => ?_) done
  have facts := jobFacts_iff.mp (durable.jobs other here)
  refine jobFacts_iff.mpr ⟨facts.draft, facts.failures, facts.attempts, ?_⟩
  change (isNonNegativeInteger nowMs && decide (0 < reasonDigest.length) && decide (reasonDigest.length ≤ 4096)) = true
  simp only [Bool.and_eq_true, decide_eq_true_eq]
  exact ⟨⟨now, reason.1⟩, reason.2⟩

end

structure Unneeded (store : PlayerLocalSqliteStore) (epoch : Int) : Prop where
  acknowledged : ∀ row ∈ store.outbox, row.epoch = epoch → row.state = .acknowledged
  unheld : ∀ row ∈ store.evidenceHolds, row.epoch = epoch → row.state ≠ .active
  conflicting : ∀ row ∈ store.equivocations, row.epoch ≠ epoch
  accepted : ∀ row ∈ store.equivocations, ∀ event ∈ store.events, event.authorId = row.authorId →
    event.counter = row.counter → event.epoch ≠ epoch

def prunedStore (store : PlayerLocalSqliteStore) (anchor : HeadRow) : PlayerLocalSqliteStore :=
  { store with
    retentionAnchor := anchor
    events := store.events.filter fun row => anchor.epoch < row.epoch
    equivocations := store.equivocations.filter fun row => anchor.epoch < row.epoch
    checkpoints := store.checkpoints.filter fun row => anchor.epoch < row.epoch
    evidenceHolds := store.evidenceHolds.filter fun row => anchor.epoch < row.epoch ∨ row.state = .active
    consumedClosures := store.consumedClosures.filter fun row => anchor.epoch < row.epoch
    outbox := store.outbox.filter fun row => anchor.epoch < row.epoch
    ackHistory := store.ackHistory.filter fun row => anchor.epoch < row.epoch }

theorem writePrune_ok (kept : writeSet.nextAnchor.toHeadRow.stored = writeSet.nextAnchor.toHeadRow)
    (done : store.writePrune writeSet faultPoint = .ok next) :
    next = (prunedStore store writeSet.nextAnchor.toHeadRow).incrementRevision ∧
      (prunedStore store writeSet.nextAnchor.toHeadRow).Keyed := by
  simp only [writePrune, kept, bind_ok, statement_ok] at done
  obtain ⟨_, ⟨_, rfl⟩, _, ⟨_, rfl⟩, _, _, _, ⟨_, rfl⟩, _, ⟨_, rfl⟩, _, _, _, ⟨_, rfl⟩, _, ⟨_, rfl⟩, _, ⟨keyed, rfl⟩, _, _, _, _,
    _, _, ⟨⟩⟩ := done
  exact ⟨rfl, { keyed with }⟩

/-- The loop of the check walks a chain up to a position that it names, and checks every checkpoint on the way. -/
theorem pruneLoop_ok {image : PlayerLocalAuditImage}
    (chain : Links start rows last)
    (done : pruneLoop image writeSet start.2 (start.1 + 1) (rows.map fun row => ⟨row, boundary⟩) =
      some (digest, epoch + 1)) :
    ∃ early late, rows = early ++ late ∧ Links start early (epoch, digest) ∧ Links (epoch, digest) late last ∧
      ∀ row ∈ early, ∃ parent number, prunable image writeSet parent number ⟨row, boundary⟩ = true := by
  induction chain with
  | nil position =>
    obtain ⟨digests, epochs⟩ := Prod.mk.inj (Option.some.inj done)
    obtain rfl : position = (epoch, digest) := Prod.ext (by dsimp only; omega) digests
    exact ⟨[], [], rfl, .nil _, .nil _, by simp⟩
  | @cons start last row rest next linked tail ih =>
    rw [map_cons, pruneLoop] at done
    split at done
    · obtain ⟨digests, epochs⟩ := Prod.mk.inj (Option.some.inj done)
      obtain rfl : start = (epoch, digest) := Prod.ext (by dsimp only; omega) digests
      exact ⟨[], row :: rest, rfl, .nil _, .cons next linked tail, by simp⟩
    split at done
    · cases done
    rename_i allowed
    rw [Bool.not_not_eq] at allowed
    rw [← next] at done
    obtain ⟨early, late, rfl, front, back, each⟩ := ih done
    refine ⟨row :: early, late, rfl, .cons next linked front, back, ?_⟩
    intro other member
    rcases mem_cons.mp member with rfl | later
    · exact ⟨_, _, allowed⟩
    · exact each other later

theorem Durable.unneeded (durable : Durable urlProtocol store)
    (pairs : List.Forall₂ (Pairs store) store.equivocations equivocations) (member : row ∈ store.checkpoints)
    (allowed : prunable (store.imageWith equivocations) writeSet parent number ⟨row, store.boundary⟩ = true) :
    Unneeded store row.epoch := by
  unfold prunable at allowed
  simp only [Bool.and_eq_true, Bool.not_eq_true', decide_eq_true_eq, all_eq_true, contains_eq_mem,
    decide_eq_false_iff_not] at allowed
  obtain ⟨⟨⟨⟨_, unprotected⟩, unequivocal⟩, _⟩, acknowledged⟩ := allowed
  -- both events of an equivocation are in its image
  have shown : ∀ conflict ∈ store.equivocations, conflict.epoch ≠ row.epoch ∧ ∃ event ∈ store.events,
      event.authorId = conflict.authorId ∧ event.counter = conflict.counter ∧ event.epoch ≠ row.epoch := by
    intro conflict found
    obtain ⟨evidence, here, event, stored, author, counter, rfl⟩ := exists_of_forall₂ (List.Forall₂.flip pairs) found
    have absent : row.epoch ∉ [event.epoch, conflict.epoch] := fun inside =>
      unequivocal (mem_flatMap.mpr ⟨_, here, inside⟩)
    simp only [mem_cons, not_mem_nil, or_false, not_or] at absent
    exact ⟨Ne.symm absent.2, event, stored, author, counter, Ne.symm absent.1⟩
  refine ⟨?_, ?_, fun conflict found => (shown conflict found).1, ?_⟩
  · intro entry sent epoch
    obtain ⟨checkpoint, stored, sameEpoch, sameDigest, _⟩ := (durable.outbox entry sent).checkpoint
    obtain rfl := durable.chain.eq_of_number stored member (sameEpoch.trans epoch)
    refine acknowledged ⟨entry, store.boundary⟩ (mem_filter.mpr ⟨?_, ?_⟩)
    · exact mem_map_of_mem (mem_sortOn.mpr sent)
    · exact decide_eq_true ⟨epoch, sameDigest.symm⟩
  · intro hold found epoch active
    refine unprotected (mem_append_right _ (mem_map.mpr ⟨⟨hold, store.boundary⟩, ?_, epoch⟩))
    exact mem_filter.mpr ⟨mem_map_of_mem found, decide_eq_true active⟩
  · intro conflict found event stored author counter epoch
    obtain ⟨_, accepted, known, sameAuthor, sameCounter, other⟩ := shown conflict found
    have same : event = accepted := by
      refine inj_on_of_nodup_map durable.keyed.events stored known ?_
      exact Prod.ext (author.trans sameAuthor.symm) (counter.trans sameCounter.symm)
    exact other (same ▸ epoch)

structure Pruned (store next : PlayerLocalSqliteStore) (anchor : HeadRow) (early late : List CheckpointRow) : Prop where
  split : store.checkpoints = early ++ late
  front : Chained store.retentionAnchor early anchor
  back : Chained anchor late store.head
  advances : store.retentionAnchor.epoch < anchor.epoch
  unneeded : ∀ row ∈ early, Unneeded store row.epoch
  keyed : (prunedStore store anchor).Keyed
  next : next = (prunedStore store anchor).incrementRevision

theorem pruneEvidence_cases (durable : Durable urlProtocol store)
    (kept : writeSet.nextAnchor.toHeadRow.stored = writeSet.nextAnchor.toHeadRow)
    (done : store.pruneEvidence writeSet faultPoint = .ok (answer, next)) :
    next = store ∨ answer = .pruned writeSet.nextAnchor.epoch ∧
      ∃ early late, Pruned store next writeSet.nextAnchor.toHeadRow early late := by
  obtain ⟨current, shown, done⟩ := bind_ok.mp done
  obtain ⟨equivocations, rfl, pairs⟩ := durable.of_image shown
  split at done
  · exact Or.inl (unchanged done)
  split at done
  · exact Or.inl (unchanged done)
  rename_i valid
  rw [Bool.not_not_eq] at valid
  split at done
  · rename_i written wrote
    cases done
    obtain ⟨same, keyed⟩ := writePrune_ok kept wrote
    unfold playerLocalPruneWriteSetValid samePlayerLocalRetentionAnchor at valid
    simp only [Bool.and_eq_true, decide_eq_true_eq, samePlayerLocalHead_iff] at valid
    obtain ⟨⟨⟨⟨⟨⟨⟨⟨⟨⟨_, _⟩, anchor⟩, _⟩, _⟩, _⟩, advances⟩, _⟩, _⟩, _⟩, walked⟩ := valid
    have checkpoints : (store.imageWith equivocations).checkpoints =
        store.checkpoints.map fun row => ⟨row, store.boundary⟩ := by
      simp only [imageWith, durable.sorted_checkpoints]
    rw [checkpoints] at walked
    obtain ⟨early, late, split, front, back, each⟩ := pruneLoop_ok durable.chain walked
    refine Or.inr ⟨rfl, early, late, split, front, back, ?_, fun row member => ?_, keyed, same⟩
    · rw [anchor] at advances
      exact advances
    · obtain ⟨_, _, allowed⟩ := each row member
      exact durable.unneeded pairs (split ▸ mem_append_left _ member) allowed
  · exact Or.inl (unchanged done)
  · cases done

theorem Pruned.durable (pruned : Pruned store next anchor early late) (durable : Durable urlProtocol store) :
    Durable urlProtocol next := by
  obtain ⟨split, front, back, advances, unneeded, keyed, rfl⟩ := pruned
  have later : store.checkpoints.filter (fun row => anchor.epoch < row.epoch) = late := by
    rw [split]
    exact front.filter_late back
  -- the anchor is a checkpoint of the chain
  obtain ⟨last, member, same⟩ : ∃ row ∈ early, (anchor.epoch, anchor.checkpointDigest) = (row.epoch, row.checkpointDigest) := by
    rcases front.last_eq with ⟨_, same⟩ | found
    · have epoch := (Prod.mk.inj same).1
      omega
    · exact found
  obtain ⟨epoch, digest⟩ := Prod.mk.inj same
  have valid := (durable.checkpoints last (split ▸ mem_append_left _ member)).1
  unfold playerLocalCheckpointValid at valid
  simp only [Bool.and_eq_true, decide_eq_true_eq] at valid
  obtain ⟨⟨⟨⟨_, safe⟩, _⟩, present⟩, _⟩ := valid
  have bounds := isNonNegativeInteger_iff.mp safe
  refine Durable.incrementRevision { durable with
    keyed := keyed, room := ?_, anchor := ?_, events := ?_, conflicts := ?_, chain := ?_, checkpoints := ?_, closures := ?_
    closed := ?_, holds := ?_, outbox := ?_, covered := ?_, acks := ?_, acknowledged := ?_ }
  · have fewer := (filter_sublist (p := fun row : OutboxRow => decide (anchor.epoch < row.epoch))
      (l := store.outbox)).countP_le (p := fun row => decide (row.state ≠ .acknowledged))
    have room := durable.room
    exact le_trans (Int.ofNat_le.mpr fewer) room
  · refine ⟨⟨?_, ?_⟩, ?_, fun genesis => ?_⟩
    · change -1 ≤ anchor.epoch
      rw [epoch]
      exact le_trans (by decide) bounds.1
    · change anchor.epoch ≤ maxSafeInteger
      exact epoch ▸ bounds.2
    · change 0 < anchor.checkpointDigest.length
      exact digest ▸ present
    · have negative : anchor.epoch = -1 := genesis
      omega
  · intro row member
    obtain ⟨old, retained⟩ := mem_filter.mp member
    exact ⟨(durable.events row old).1, of_decide_eq_true retained⟩
  · intro row member
    obtain ⟨old, retained⟩ := mem_filter.mp member
    obtain ⟨validRow, _, plain, differs⟩ := durable.conflicts row old
    exact ⟨validRow, of_decide_eq_true retained, plain, fun event stored => differs event (mem_filter.mp stored).1⟩
  · change Chained anchor (store.checkpoints.filter fun row => anchor.epoch < row.epoch) store.head
    rw [later]
    exact back
  · exact fun row member => durable.checkpoints row (mem_filter.mp member).1
  · have epochs := congrArg (fun numbers => numbers.filter fun number => decide (anchor.epoch < number)) durable.closures
    rw [filter_map, filter_map] at epochs
    exact epochs
  · exact fun row member => durable.closed row (mem_filter.mp member).1
  · intro row member
    obtain ⟨validRow, checkpoint, stored, sameEpoch, sameDigest⟩ := durable.holds row (mem_filter.mp member).1
    obtain ⟨other, kept, epoch⟩ := mem_map.mp (keyed.held row member)
    have same := durable.chain.eq_of_number stored (mem_filter.mp kept).1 (sameEpoch.trans epoch.symm)
    exact ⟨validRow, checkpoint, same ▸ kept, sameEpoch, sameDigest⟩
  · intro row member
    obtain ⟨old, retained⟩ := mem_filter.mp member
    obtain ⟨addressed, order, below, state, checkpoint, stored, sameEpoch, rest⟩ := durable.outbox row old
    refine ⟨addressed, order, below, state, checkpoint, mem_filter.mpr ⟨stored, ?_⟩, sameEpoch, rest⟩
    rw [sameEpoch]
    exact retained
  · intro checkpoint member
    obtain ⟨old, retained⟩ := mem_filter.mp member
    obtain ⟨row, sent, same⟩ := durable.covered checkpoint old
    refine ⟨row, mem_filter.mpr ⟨sent, ?_⟩, same⟩
    rw [same]
    exact retained
  · intro ack member
    obtain ⟨old, retained⟩ := mem_filter.mp member
    obtain ⟨row, sent, same, acknowledged⟩ := durable.acks ack old
    refine ⟨row, mem_filter.mpr ⟨sent, ?_⟩, same, acknowledged⟩
    rw [← same.2.1]
    exact retained
  · intro row member acknowledged
    obtain ⟨old, retained⟩ := mem_filter.mp member
    obtain ⟨ack, known, same⟩ := durable.acknowledged row old acknowledged
    refine ⟨ack, mem_filter.mpr ⟨known, ?_⟩, same⟩
    rw [same.2.1]
    exact retained

end Steps

end ConvergeAudit.PlayerStore
