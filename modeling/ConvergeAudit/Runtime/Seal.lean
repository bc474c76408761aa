import ConvergeAudit.Runtime.Outbox
import ConvergeAudit.Audit.Head
import ConvergeAudit.Moon.Sort
import Mathlib.Algebra.Order.Ring.Int

/-!
`audit/runtime/seal.mbt`: the write set of a seal is prepared from a snapshot of the storage, without touching it.
`none` stands for `abort`.
-/

namespace ConvergeAudit.Runtime
open Moon Audit List

structure CheckpointSealStorageSnapshot where
  boundary : AuditBoundary
  currentEpoch : ℤ
  currentDigest : AuditDigest
  incomingEpochKnown : Bool
  knownDigestMatches : Bool
  knownSealComplete : Bool
  closureConsumed : Bool
  outboxEntryCount : ℤ
  outboxCapacity : ℤ
  nextCreatedOrder : ℤ
  deriving DecidableEq

structure CheckpointSealDraft where
  boundary : AuditBoundary
  epoch : ℤ
  previousCheckpoint : AuditDigest
  checkpointDigest : AuditDigest
  canonicalEnvelope : Str
  deriving DecidableEq

structure CheckpointSealHead where
  boundary : AuditBoundary
  epoch : ℤ
  checkpointDigest : AuditDigest
  deriving DecidableEq

inductive CheckpointSealConflictReason where
  | sealSameEpochFork
  | sealParentFork
  | sealIncompleteKnownCommit
  deriving DecidableEq

inductive CheckpointSealRefusal where
  | sealInvalidStorageSnapshot
  | sealInvalidCheckpointDraft
  | sealBoundaryMismatch
  | sealClosureEpochMismatch
  | sealClosureAlreadyConsumed
  | sealEpochGap
  | sealStaleEpoch
  | sealDestinationsEmpty
  | sealDestinationEmpty
  | sealDestinationDuplicate
  | sealOutboxCapacityExceeded
  | sealCreatedOrderOverflow
  deriving DecidableEq

structure AtomicCheckpointSealPlan where
  expectedSnapshotValue : CheckpointSealStorageSnapshot
  checkpointValue : CheckpointSealDraft
  nextHeadValue : CheckpointSealHead
  outboxEntriesValue : List CheckpointOutboxEntry
  consumedClosureEpochValue : ℤ
  nextOutboxEntryCountValue : ℤ
  nextCreatedOrderValue : ℤ
  deriving DecidableEq

inductive AtomicCheckpointSealResult where
  | atomicCheckpointSealPrepared (plan : AtomicCheckpointSealPlan)
  | checkpointSealAlreadyCommitted
  | checkpointSealConflict (reason : CheckpointSealConflictReason)
  | checkpointSealRefused (reason : CheckpointSealRefusal)

def sealSnapshotValid (snapshot : CheckpointSealStorageSnapshot) : Bool :=
  boundaryValid snapshot.boundary && snapshot.currentEpoch ≥ -1 && snapshot.currentDigest.text != Str.empty &&
    snapshot.outboxEntryCount ≥ 0 && snapshot.outboxCapacity ≥ 0 &&
    snapshot.outboxEntryCount ≤ snapshot.outboxCapacity && snapshot.nextCreatedOrder ≥ 0 &&
    (!snapshot.knownDigestMatches || snapshot.incomingEpochKnown) &&
    (!snapshot.knownSealComplete || (snapshot.knownDigestMatches && snapshot.closureConsumed))

def sealDraftValid (draft : CheckpointSealDraft) : Bool :=
  boundaryValid draft.boundary && draft.epoch ≥ 0 && draft.previousCheckpoint.text != Str.empty &&
    draft.checkpointDigest.text != Str.empty && draft.canonicalEnvelope != Str.empty

def scanSealDestinations (previous : Option Str) : List Str → Option CheckpointSealRefusal
  | [] => none
  | destination :: rest =>
    if destination = Str.empty then some .sealDestinationEmpty
    else if previous = some destination then some .sealDestinationDuplicate
    else scanSealDestinations (some destination) rest

def classifySealDestinations [StrOrder] (destinations : List Str) : Option CheckpointSealRefusal :=
  if destinations.length = 0 then some .sealDestinationsEmpty
  else scanSealDestinations none (sortBy (fun left right => compare right left) destinations)

def makeSealOutboxEntries (snapshot : CheckpointSealStorageSnapshot) (draft : CheckpointSealDraft) (index : ℤ) :
    List Str → Option (List CheckpointOutboxEntry)
  | [] => some []
  | destination :: rest =>
    match openCheckpointOutboxEntry draft.boundary destination draft.epoch draft.checkpointDigest
        draft.canonicalEnvelope (snapshot.nextCreatedOrder + index) with
    | .ok entry => (makeSealOutboxEntries snapshot draft (index + 1) rest).map (entry :: ·)
    | .error _ => none

def runtimeAtomicSealAdvanceAllowed (boundaryMatches closureEpochMatches closureAvailable exactNext parentMatches
    destinationsValid capacityAvailable createdOrderAvailable : Bool) : Bool :=
  boundaryMatches && closureEpochMatches && closureAvailable && exactNext && parentMatches && destinationsValid &&
    capacityAvailable && createdOrderAvailable

def prepareAtomicCheckpointSeal [StrOrder] (snapshot : CheckpointSealStorageSnapshot) (draft : CheckpointSealDraft)
    (closure : TrustedEpochClosure) (destinations : List Str) : Option AtomicCheckpointSealResult :=
  if !sealSnapshotValid snapshot then some (.checkpointSealRefused .sealInvalidStorageSnapshot)
  else if !sealDraftValid draft then some (.checkpointSealRefused .sealInvalidCheckpointDraft)
  else if snapshot.boundary ≠ draft.boundary ∨ closure.evidenceValue.boundary ≠ draft.boundary then
    some (.checkpointSealRefused .sealBoundaryMismatch)
  else if closure.evidenceValue.epoch ≠ draft.epoch then some (.checkpointSealRefused .sealClosureEpochMismatch)
  else match classifySealDestinations destinations with
  | some reason => some (.checkpointSealRefused reason)
  | none =>
    match classifyCheckpointHead true snapshot.incomingEpochKnown snapshot.knownDigestMatches snapshot.currentEpoch
        draft.epoch (draft.previousCheckpoint == snapshot.currentDigest) with
    | .duplicate =>
      if snapshot.knownSealComplete then some .checkpointSealAlreadyCommitted
      else some (.checkpointSealConflict .sealIncompleteKnownCommit)
    | .sameEpochFork => some (.checkpointSealConflict .sealSameEpochFork)
    | .parentFork => some (.checkpointSealConflict .sealParentFork)
    | .gap => some (.checkpointSealRefused .sealEpochGap)
    | .stale => some (.checkpointSealRefused .sealStaleEpoch)
    | .boundaryMismatch => some (.checkpointSealRefused .sealBoundaryMismatch)
    | .advance =>
      let boundaryMatches := snapshot.boundary == draft.boundary && closure.evidenceValue.boundary == draft.boundary
      let closureEpochMatches := closure.evidenceValue.epoch == draft.epoch
      let closureAvailable := !snapshot.closureConsumed
      let exactNext := draft.epoch > snapshot.currentEpoch && draft.epoch - 1 == snapshot.currentEpoch
      let parentMatches := draft.previousCheckpoint == snapshot.currentDigest
      if !closureAvailable then some (.checkpointSealRefused .sealClosureAlreadyConsumed)
      else
        let destinationCount : ℤ := destinations.length
        let remainingCapacity := snapshot.outboxCapacity - snapshot.outboxEntryCount
        let capacityAvailable : Bool := destinationCount ≤ remainingCapacity
        if !capacityAvailable then some (.checkpointSealRefused .sealOutboxCapacityExceeded)
        else
          let nextCreatedOrder := snapshot.nextCreatedOrder + destinationCount
          let createdOrderAvailable : Bool := nextCreatedOrder ≥ snapshot.nextCreatedOrder
          if !createdOrderAvailable then some (.checkpointSealRefused .sealCreatedOrderOverflow)
          else if !runtimeAtomicSealAdvanceAllowed boundaryMatches closureEpochMatches closureAvailable exactNext
              parentMatches true capacityAvailable createdOrderAvailable then none
          else (makeSealOutboxEntries snapshot draft 0 destinations).map fun outboxEntries =>
            .atomicCheckpointSealPrepared
              { expectedSnapshotValue := snapshot
                checkpointValue := draft
                nextHeadValue :=
                  { boundary := draft.boundary, epoch := draft.epoch, checkpointDigest := draft.checkpointDigest }
                outboxEntriesValue := outboxEntries
                consumedClosureEpochValue := closure.evidenceValue.epoch
                nextOutboxEntryCountValue := snapshot.outboxEntryCount + destinationCount
                nextCreatedOrderValue := nextCreatedOrder }

/-- Named and not repeated. -/
structure ValidDestinations (destinations : List Str) : Prop where
  nonempty : destinations ≠ []
  named : Str.empty ∉ destinations
  nodup : destinations.Nodup

theorem scanSealDestinations_eq_none_iff :
    scanSealDestinations previous destinations = none ↔
      Str.empty ∉ destinations ∧ (previous.toList ++ destinations).IsChain (· ≠ ·) := by
  induction destinations generalizing previous with
  | nil => cases previous <;> simp [scanSealDestinations]
  | cons destination rest ih =>
    unfold scanSealDestinations
    by_cases empty : destination = Str.empty
    · simp [empty]
    rw [if_neg empty]
    cases previous with
    | none =>
      rw [if_neg (by simp), ih]
      simp [Ne.symm empty]
    | some before =>
      by_cases repeated : before = destination
      · simp [repeated]
      · rw [if_neg (by simpa using repeated), ih]
        simp [Ne.symm empty, repeated]

theorem sealDraftValid_iff :
    sealDraftValid draft = true ↔
      boundaryValid draft.boundary = true ∧ 0 ≤ draft.epoch ∧ draft.previousCheckpoint.text ≠ Str.empty ∧
        draft.checkpointDigest.text ≠ Str.empty ∧ draft.canonicalEnvelope ≠ Str.empty := by
  simp [sealDraftValid, and_assoc]

theorem sealSnapshotValid_order (valid : sealSnapshotValid snapshot = true) : 0 ≤ snapshot.nextCreatedOrder := by
  simp only [sealSnapshotValid, Bool.and_eq_true, decide_eq_true_eq] at valid
  omega

def sealEntry (draft : CheckpointSealDraft) (createdOrder : ℤ) (destination : Str) : CheckpointOutboxEntry :=
  ⟨draft.boundary, destination, draft.epoch, draft.checkpointDigest, draft.canonicalEnvelope, createdOrder,
    .outboxPending⟩

def sealEntries (draft : CheckpointSealDraft) (createdOrder : ℤ) : List Str → List CheckpointOutboxEntry
  | [] => []
  | destination :: rest => sealEntry draft createdOrder destination :: sealEntries draft (createdOrder + 1) rest

theorem makeSealOutboxEntries_eq (draftValid : sealDraftValid draft = true) (order : 0 ≤ snapshot.nextCreatedOrder)
    (named : Str.empty ∉ destinations) (position : 0 ≤ index) :
    makeSealOutboxEntries snapshot draft index destinations =
      some (sealEntries draft (snapshot.nextCreatedOrder + index) destinations) := by
  obtain ⟨boundary, epoch, _, digest, envelope⟩ := sealDraftValid_iff.mp draftValid
  induction destinations generalizing index with
  | nil => rfl
  | cons destination rest ih =>
    rw [mem_cons, not_or] at named
    have opened : openCheckpointOutboxEntry draft.boundary destination draft.epoch draft.checkpointDigest
        draft.canonicalEnvelope (snapshot.nextCreatedOrder + index) =
          .ok (sealEntry draft (snapshot.nextCreatedOrder + index) destination) := by
      unfold openCheckpointOutboxEntry
      rw [if_neg (by simp [boundary]), if_neg (Ne.symm named.1), if_neg (by omega), if_neg digest, if_neg envelope,
        if_neg (by omega), sealEntry]
    have later : makeSealOutboxEntries snapshot draft (index + 1) rest =
        some (sealEntries draft (snapshot.nextCreatedOrder + (index + 1)) rest) := ih named.2 (by omega)
    rw [makeSealOutboxEntries, opened]
    dsimp only
    rw [later, Option.map_some, sealEntries, Int.add_assoc]

@[simp] theorem length_sealEntries : (sealEntries draft createdOrder destinations).length = destinations.length := by
  induction destinations generalizing createdOrder with
  | nil => rfl
  | cons destination rest ih => rw [sealEntries, length_cons, ih, length_cons]

theorem getElem?_sealEntries (draft : CheckpointSealDraft) (createdOrder : ℤ) (destinations : List Str) (index : ℕ) :
    (sealEntries draft createdOrder destinations)[index]? =
      (destinations[index]?).map (sealEntry draft (createdOrder + index)) := by
  induction destinations generalizing createdOrder index with
  | nil => simp [sealEntries]
  | cons destination rest ih =>
    cases index with
    | zero => simp [sealEntries]
    | succ index =>
      rw [sealEntries, getElem?_cons_succ, getElem?_cons_succ, ih]
      congr 2
      omega

section
variable [StrOrder] {closure : TrustedEpochClosure}

theorem classifySealDestinations_eq_none_iff :
    classifySealDestinations destinations = none ↔ ValidDestinations destinations := by
  have perm := sortBy_perm (fun left right : Str => compare right left) destinations
  have sorted := pairwise_sortBy_desc destinations
  -- equal destinations stand next to each other once they are sorted
  have adjacent : (sortBy (fun left right : Str => compare right left) destinations).IsChain (· ≠ ·) ↔
      destinations.Nodup := by
    rw [← perm.nodup_iff]
    constructor
    · intro distinct
      have strict : (sortBy (fun left right : Str => compare right left) destinations).IsChain (· > ·) := by
        rw [isChain_iff_getElem] at distinct ⊢
        intro index inside
        exact lt_of_le_of_ne (isChain_iff_getElem.mp sorted.isChain index inside) (distinct index inside).symm
      exact (isChain_iff_pairwise.mp strict).imp fun order => order.ne'
    · intro distinct
      exact List.Pairwise.isChain distinct
  unfold classifySealDestinations
  by_cases none : destinations.length = 0
  · rw [if_pos none]
    simp only [reduceCtorEq, false_iff]
    exact fun valid => valid.nonempty (length_eq_zero_iff.mp none)
  · rw [if_neg none, scanSealDestinations_eq_none_iff]
    simp only [Option.toList_none, nil_append, adjacent, perm.mem_iff]
    constructor
    · rintro ⟨named, distinct⟩
      exact ⟨fun nothing => none (by simp [nothing]), named, distinct⟩
    · rintro ⟨_, named, distinct⟩
      exact ⟨named, distinct⟩

/-- The facts under which a seal is prepared. -/
structure SealAdmits (snapshot : CheckpointSealStorageSnapshot) (draft : CheckpointSealDraft)
    (closure : TrustedEpochClosure) (destinations : List Str) : Prop where
  draft_valid : sealDraftValid draft = true
  boundary : snapshot.boundary = draft.boundary
  closure_epoch : closure.evidenceValue.epoch = draft.epoch
  destinations_valid : ValidDestinations destinations
  unknown : snapshot.incomingEpochKnown = false
  next : draft.epoch = snapshot.currentEpoch + 1
  parent : draft.previousCheckpoint = snapshot.currentDigest
  available : snapshot.closureConsumed = false
  room : snapshot.outboxEntryCount + destinations.length ≤ snapshot.outboxCapacity

def sealPlan (snapshot : CheckpointSealStorageSnapshot) (draft : CheckpointSealDraft) (destinations : List Str) :
    AtomicCheckpointSealPlan where
  expectedSnapshotValue := snapshot
  checkpointValue := draft
  nextHeadValue := { boundary := draft.boundary, epoch := draft.epoch, checkpointDigest := draft.checkpointDigest }
  outboxEntriesValue := sealEntries draft snapshot.nextCreatedOrder destinations
  consumedClosureEpochValue := draft.epoch
  nextOutboxEntryCountValue := snapshot.outboxEntryCount + destinations.length
  nextCreatedOrderValue := snapshot.nextCreatedOrder + destinations.length

/-- Preparation answers from the head's classification once the inputs have been checked. -/
structure SealInputs (snapshot : CheckpointSealStorageSnapshot) (draft : CheckpointSealDraft)
    (closure : TrustedEpochClosure) (destinations : List Str) : Prop where
  snapshot_valid : sealSnapshotValid snapshot = true
  draft_valid : sealDraftValid draft = true
  boundary : snapshot.boundary = draft.boundary
  closure_boundary : closure.evidenceValue.boundary = draft.boundary
  closure_epoch : closure.evidenceValue.epoch = draft.epoch
  destinations_valid : ValidDestinations destinations

theorem prepareAtomicCheckpointSeal_refused (bad : ¬ SealInputs snapshot draft closure destinations) :
    ∃ reason, prepareAtomicCheckpointSeal snapshot draft closure destinations =
      some (.checkpointSealRefused reason) := by
  unfold prepareAtomicCheckpointSeal
  iterate 5
    split
    · exact ⟨_, rfl⟩
  rename_i snapshotValid draftValid boundaries closureEpoch _ destinationsValid
  push Not at boundaries closureEpoch
  exact absurd ⟨by simpa using snapshotValid, by simpa using draftValid, boundaries.1, boundaries.2, closureEpoch,
    classifySealDestinations_eq_none_iff.mp destinationsValid⟩ bad

def sealDecision (snapshot : CheckpointSealStorageSnapshot) (draft : CheckpointSealDraft) (destinations : List Str) :
    AtomicCheckpointSealResult :=
  match classifyCheckpointHead true snapshot.incomingEpochKnown snapshot.knownDigestMatches snapshot.currentEpoch
      draft.epoch (draft.previousCheckpoint == snapshot.currentDigest) with
  | .duplicate =>
    if snapshot.knownSealComplete then .checkpointSealAlreadyCommitted
    else .checkpointSealConflict .sealIncompleteKnownCommit
  | .sameEpochFork => .checkpointSealConflict .sealSameEpochFork
  | .parentFork => .checkpointSealConflict .sealParentFork
  | .gap => .checkpointSealRefused .sealEpochGap
  | .stale => .checkpointSealRefused .sealStaleEpoch
  | .boundaryMismatch => .checkpointSealRefused .sealBoundaryMismatch
  | .advance =>
    if snapshot.closureConsumed then .checkpointSealRefused .sealClosureAlreadyConsumed
    else if snapshot.outboxEntryCount + destinations.length ≤ snapshot.outboxCapacity then
      .atomicCheckpointSealPrepared (sealPlan snapshot draft destinations)
    else .checkpointSealRefused .sealOutboxCapacityExceeded

/-- Checked inputs are never aborted: neither an entry nor the last gate can fail. -/
theorem SealInputs.prepare_eq (inputs : SealInputs snapshot draft closure destinations) :
    prepareAtomicCheckpointSeal snapshot draft closure destinations =
      some (sealDecision snapshot draft destinations) := by
  obtain ⟨snapshotValid, draftValid, boundary, closureBoundary, closureEpoch, destinationsValid⟩ := inputs
  have classified := classifySealDestinations_eq_none_iff.mpr destinationsValid
  have entries := makeSealOutboxEntries_eq draftValid (sealSnapshotValid_order snapshotValid) destinationsValid.named
    (le_refl 0)
  unfold prepareAtomicCheckpointSeal sealDecision
  rw [if_neg (by simp [snapshotValid]), if_neg (by simp [draftValid]), if_neg (by simp [boundary, closureBoundary]),
    if_neg (by simp [closureEpoch]), classified]
  dsimp only
  split
  case h_7 decision =>
    obtain ⟨_, _, exactNext, parent⟩ := classifyCheckpointHead_advance_iff.mp decision
    by_cases consumed : snapshot.closureConsumed = true
    · simp [consumed]
    by_cases room : snapshot.outboxEntryCount + destinations.length ≤ snapshot.outboxCapacity
    · have capacity : ((destinations.length : ℤ) ≤ snapshot.outboxCapacity - snapshot.outboxEntryCount) := by omega
      have above : snapshot.currentEpoch < draft.epoch := by omega
      have before : draft.epoch - 1 = snapshot.currentEpoch := by omega
      have parentSame : draft.previousCheckpoint = snapshot.currentDigest := by simpa using parent
      simp [consumed, room, capacity, runtimeAtomicSealAdvanceAllowed, boundary, closureBoundary, closureEpoch, above,
        before, parentSame, entries, sealPlan]
    · have full : ¬ ((destinations.length : ℤ) ≤ snapshot.outboxCapacity - snapshot.outboxEntryCount) := by omega
      simp [consumed, room, full]
  case h_1 => split <;> rfl
  all_goals rfl

theorem prepareAtomicCheckpointSeal_prepared
    (prepared : prepareAtomicCheckpointSeal snapshot draft closure destinations =
      some (.atomicCheckpointSealPrepared plan)) :
    SealAdmits snapshot draft closure destinations ∧ plan = sealPlan snapshot draft destinations := by
  by_cases inputs : SealInputs snapshot draft closure destinations
  · rw [inputs.prepare_eq, Option.some_inj] at prepared
    unfold sealDecision at prepared
    split at prepared
    case h_7 decision =>
      obtain ⟨_, unknown, exactNext, parent⟩ := classifyCheckpointHead_advance_iff.mp decision
      split at prepared
      · cases prepared
      rename_i consumed
      split at prepared
      · rename_i room
        injection prepared with same
        exact ⟨⟨inputs.draft_valid, inputs.boundary, inputs.closure_epoch, inputs.destinations_valid, unknown, exactNext,
          by simpa using parent, by simpa using consumed, room⟩, same.symm⟩
      · cases prepared
    case h_1 => split at prepared <;> cases prepared
    all_goals cases prepared
  · obtain ⟨reason, refused⟩ := prepareAtomicCheckpointSeal_refused inputs
    rw [refused] at prepared
    cases prepared

end

end ConvergeAudit.Runtime
