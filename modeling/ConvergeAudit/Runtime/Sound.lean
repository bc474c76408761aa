import ConvergeAudit.Runtime.Image
import ConvergeAudit.Lib.Table

/-!
What the validators of an image require, said of the store itself. A store is restored from its own image exactly if
it is sound.
-/

namespace ConvergeAudit.Runtime
open Moon List PlayerLocalAuditStore

/-- A chain of checkpoints over its anchor, with the epoch and digest of its last link. -/
inductive Linked (boundary : AuditBoundary) (anchor : PlayerLocalRetentionAnchor) :
    List CheckpointSealDraft → ℤ → AuditDigest → Prop
  | anchored : Linked boundary anchor [] anchor.epoch anchor.checkpointDigest
  | link {checkpoints : List CheckpointSealDraft} {epoch : ℤ} {digest : AuditDigest} {checkpoint : CheckpointSealDraft}
      (before : Linked boundary anchor checkpoints epoch digest) (sameBoundary : checkpoint.boundary = boundary)
      (next : checkpoint.epoch = epoch + 1) (parent : checkpoint.previousCheckpoint = digest)
      (digested : checkpoint.checkpointDigest.text ≠ Str.empty) (enveloped : checkpoint.canonicalEnvelope ≠ Str.empty) :
      Linked boundary anchor (checkpoints ++ [checkpoint]) checkpoint.epoch checkpoint.checkpointDigest

/-- The author has used one counter for two digests. -/
structure Equivocates (boundary : AuditBoundary) (anchorEpoch : ℤ) (events : List PlayerLocalAuditEvent)
    (evidence : PlayerLocalEventEquivocation) : Prop where
  accepted : evidence.accepted ∈ events
  admissible : playerLocalEventRefusal boundary evidence.conflicting = none
  retained : anchorEpoch < evidence.conflicting.epoch
  author : evidence.conflicting.authorId = evidence.accepted.authorId
  counter : evidence.conflicting.counter = evidence.accepted.counter
  digest : evidence.conflicting.eventDigest ≠ evidence.accepted.eventDigest

structure EventsSound (boundary : AuditBoundary) (anchorEpoch : ℤ) (events : List PlayerLocalAuditEvent)
    (equivocations : List PlayerLocalEventEquivocation) : Prop where
  admissible : ∀ event ∈ events, playerLocalEventRefusal boundary event = none
  retained : ∀ event ∈ events, anchorEpoch < event.epoch
  keys_nodup : (events.map eventKey).Nodup
  equivocates : ∀ evidence ∈ equivocations, Equivocates boundary anchorEpoch events evidence
  conflicts_nodup : (equivocations.map conflictKey).Nodup

/-- The entry carries a checkpoint of the chain. -/
structure Carries (boundary : AuditBoundary) (checkpoints : List CheckpointSealDraft) (entry : CheckpointOutboxEntry) :
    Prop where
  valid : localOutboxRecordValid (localOutboxRecord entry) = true
  boundary : entry.boundaryValue = boundary
  checkpoint : ∃ checkpoint, checkpointForEpoch checkpoints entry.epochValue = some checkpoint ∧
    checkpoint.checkpointDigest = entry.checkpointDigestValue ∧
    checkpoint.canonicalEnvelope = entry.canonicalEnvelopeValue

@[mk_iff]
structure OutboxSound (boundary : AuditBoundary) (checkpoints : List CheckpointSealDraft)
    (capacity nextCreatedOrder : ℤ) (outbox : List CheckpointOutboxEntry) : Prop where
  carries : ∀ entry ∈ outbox, Carries boundary checkpoints entry
  capacity : activeLocalOutboxCount outbox ≤ capacity
  order_nonneg : 0 ≤ nextCreatedOrder
  orders_nodup : (outbox.map CheckpointOutboxEntry.createdOrderValue).Nodup
  orders_below : ∀ entry ∈ outbox, entry.createdOrderValue < nextCreatedOrder
  sent : ∀ checkpoint ∈ checkpoints, ∃ entry ∈ outbox, entry.epochValue = checkpoint.epoch

@[mk_iff]
structure AcksSound (outbox : List CheckpointOutboxEntry) (ackHistory : List CheckpointAckEvidence) : Prop where
  closes : ∀ evidence ∈ ackHistory, ∃ entry ∈ outbox,
    Acknowledges evidence entry ∧ entry.stateValue = .outboxAcknowledgedState
  keys_nodup : (ackHistory.map localAckKey).Nodup
  closed : ∀ entry ∈ outbox, entry.stateValue = .outboxAcknowledgedState →
    ∃ evidence ∈ ackHistory, Acknowledges evidence entry

structure HoldsSound (boundary : AuditBoundary) (checkpoints : List CheckpointSealDraft)
    (holds : List PlayerLocalEvidenceHold) : Prop where
  valid : ∀ hold ∈ holds, evidenceHoldValid boundary checkpoints hold = true
  ids_nodup : (holds.map PlayerLocalEvidenceHold.holdId).Nodup

structure Sound (store : PlayerLocalAuditStore) : Prop where
  boundary_valid : boundaryValid store.boundaryValue = true
  genesis_present : store.genesisDigestValue.text ≠ Str.empty
  capacity_nonneg : 0 ≤ store.outboxCapacityValue
  revision_nonneg : 0 ≤ store.storageRevisionValue
  anchor_boundary : store.retentionAnchorValue.boundary = store.boundaryValue
  anchor_epoch : -1 ≤ store.retentionAnchorValue.epoch
  anchor_present : store.retentionAnchorValue.checkpointDigest.text ≠ Str.empty
  anchor_genesis : store.retentionAnchorValue.epoch = -1 →
    store.retentionAnchorValue.checkpointDigest = store.genesisDigestValue
  events : EventsSound store.boundaryValue store.retentionAnchorValue.epoch store.eventsValue store.equivocationsValue
  chain : Linked store.boundaryValue store.retentionAnchorValue store.checkpointsValue store.headValue.epoch
    store.headValue.checkpointDigest
  head_boundary : store.headValue.boundary = store.boundaryValue
  consumed : ∀ checkpoint ∈ store.checkpointsValue, checkpoint.epoch ∈ store.consumedClosureEpochsValue
  holds : HoldsSound store.boundaryValue store.checkpointsValue store.evidenceHoldsValue
  cursors : allDistinct (·.sourceId) (evidenceInboxCursorValid store.boundaryValue) store.evidenceInboxCursorsValue = true
  jobs : allDistinct (·.sourceId) (evidencePollJobValid store.boundaryValue) store.evidencePollJobsValue = true
  outbox : OutboxSound store.boundaryValue store.checkpointsValue store.outboxCapacityValue store.nextCreatedOrderValue
    store.outboxValue
  acks : AcksSound store.outboxValue store.ackHistoryValue

theorem localEventKey_inj (same : localEventKey authorId counter = localEventKey authorId' counter') :
    authorId = authorId' ∧ counter = counter' := by
  have parts : field authorId ++ (lit ":" ++ Str.ofInt counter) = field authorId' ++ (lit ":" ++ Str.ofInt counter') := by
    simpa [localEventKey, field, appendField, Str.append_assoc] using same
  obtain ⟨authors, rest⟩ := field_append_inj parts
  exact ⟨authors, Str.ofInt_injective (Str.append_left_cancel rest)⟩

theorem slot_inj (same : field name ++ (lit ":" ++ (Str.ofInt number ++ (lit ":" ++ text))) =
      field name' ++ (lit ":" ++ (Str.ofInt number' ++ (lit ":" ++ text')))) :
    name = name' ∧ number = number' ∧ text = text' := by
  obtain ⟨names, rest⟩ := field_append_inj same
  obtain ⟨numbers, texts⟩ := ofInt_append_inj (Str.append_left_cancel rest)
  exact ⟨names, numbers, texts⟩

theorem conflictKey_inj (same : conflictKey evidence = conflictKey other) :
    eventKey evidence.accepted = eventKey other.accepted ∧
      evidence.conflicting.eventDigest = other.conflicting.eventDigest := by
  have written : ∀ evidence : PlayerLocalEventEquivocation, conflictKey evidence =
      field evidence.accepted.authorId ++ (lit ":" ++ (Str.ofInt evidence.accepted.counter ++
        (lit ":" ++ evidence.conflicting.eventDigest.text))) := by
    simp [conflictKey, eventKey, localEventKey, field, appendField, Str.append_assoc]
  rw [written, written] at same
  obtain ⟨authors, counters, digests⟩ := slot_inj same
  refine ⟨by rw [eventKey, eventKey, authors, counters], ?_⟩
  exact congrArg AuditDigest.mk digests

theorem localAckKey_inj (same : localAckKey evidence = localAckKey other) :
    evidence.authorityId = other.authorityId ∧ evidence.epoch = other.epoch ∧
      evidence.checkpointDigest = other.checkpointDigest := by
  have written : ∀ evidence : CheckpointAckEvidence, localAckKey evidence =
      field evidence.authorityId ++ (lit ":" ++ (Str.ofInt evidence.epoch ++
        (lit ":" ++ evidence.checkpointDigest.text))) := by
    simp [localAckKey, field, appendField, Str.append_assoc]
  rw [written, written] at same
  obtain ⟨authorities, epochs, digests⟩ := slot_inj same
  exact ⟨authorities, epochs, congrArg AuditDigest.mk digests⟩

/-- The last digest of a chain that starts after `parent`. -/
def lastDigest (parent : AuditDigest) (checkpoints : List CheckpointSealDraft) : AuditDigest :=
  match checkpoints.getLast? with
  | none => parent
  | some latest => latest.checkpointDigest

theorem lastDigest_cons : lastDigest parent (first :: rest) = lastDigest first.checkpointDigest rest := by
  unfold lastDigest
  cases rest with
  | nil => rfl
  | cons second rest => rw [getLast?_cons_cons, getLast?_cons]

@[simp] theorem lastDigest_concat :
    lastDigest parent (checkpoints ++ [checkpoint]) = checkpoint.checkpointDigest := by
  simp [lastDigest]

namespace Linked

section
variable (linked : Linked boundary anchor checkpoints epoch digest)
include linked

theorem epoch_eq : epoch = anchor.epoch + checkpoints.length := by
  induction linked with
  | anchored => simp
  | link before _ next _ _ _ ih =>
    rw [next, ih, length_append, length_singleton]
    omega

theorem digest_eq : digest = lastDigest anchor.checkpointDigest checkpoints := by
  cases linked with
  | anchored => rfl
  | link => rw [lastDigest_concat]

theorem digest_ne (present : anchor.checkpointDigest.text ≠ Str.empty) : digest.text ≠ Str.empty := by
  cases linked with
  | anchored => exact present
  | link _ _ _ _ digested _ => exact digested

theorem epoch_getElem? {index : ℕ} (found : checkpoints[index]? = some checkpoint) :
    checkpoint.epoch = anchor.epoch + 1 + index := by
  induction linked with
  | anchored => simp at found
  | @link checkpoints epoch digest last before _ next _ _ _ ih =>
    rcases Lib.getElem?_concat_iff.mp found with old | ⟨rfl, rfl⟩
    · exact ih old
    · rw [next, before.epoch_eq]
      omega

theorem epoch_le (member : checkpoint ∈ checkpoints) : checkpoint.epoch ≤ epoch := by
  obtain ⟨index, found⟩ := getElem?_of_mem member
  have bound := (List.getElem?_eq_some_iff.mp found).1
  rw [linked.epoch_getElem? found, linked.epoch_eq]
  omega

theorem epochs_nodup : (checkpoints.map (·.epoch)).Nodup := by
  induction linked with
  | anchored => exact nodup_nil
  | link before _ next _ _ _ ih =>
    refine Lib.nodup_map_concat ih fun known member same => ?_
    have := before.epoch_le member
    omega

theorem checkpointForEpoch_iff :
    checkpointForEpoch checkpoints target = some checkpoint ↔ checkpoint ∈ checkpoints ∧ checkpoint.epoch = target := by
  constructor
  · exact Lib.Table.find_some
  · rintro ⟨member, rfl⟩
    exact Lib.Table.find_of_nodup linked.epochs_nodup member

end

theorem of_concat (linked : Linked boundary anchor (checkpoints ++ [checkpoint]) epoch digest) :
    ∃ beforeEpoch beforeDigest, Linked boundary anchor checkpoints beforeEpoch beforeDigest ∧
      checkpoint.boundary = boundary ∧ checkpoint.epoch = beforeEpoch + 1 ∧
      checkpoint.previousCheckpoint = beforeDigest ∧ checkpoint.checkpointDigest.text ≠ Str.empty ∧
      checkpoint.canonicalEnvelope ≠ Str.empty ∧ epoch = checkpoint.epoch ∧ digest = checkpoint.checkpointDigest := by
  generalize whole : checkpoints ++ [checkpoint] = all at linked
  cases linked with
  | anchored => simp at whole
  | link before sameBoundary next parent digested enveloped =>
    obtain ⟨front, last⟩ := append_inj' whole rfl
    obtain rfl := List.cons.inj last |>.1
    subst front
    exact ⟨_, _, before, sameBoundary, next, parent, digested, enveloped, rfl, rfl⟩

end Linked

theorem checkpointChainLoop_cons :
    checkpointChainLoop image expectedEpoch expectedParent (checkpoint :: rest) =
      (chainLinkValid image expectedEpoch expectedParent checkpoint &&
        checkpointChainLoop image (expectedEpoch + 1) checkpoint.checkpointDigest rest) := by
  rw [checkpointChainLoop]
  cases chainLinkValid image expectedEpoch expectedParent checkpoint <;> simp

theorem checkpointChainLoop_concat :
    checkpointChainLoop image expectedEpoch expectedParent (checkpoints ++ [checkpoint]) =
      (checkpointChainLoop image expectedEpoch expectedParent checkpoints &&
        chainLinkValid image (expectedEpoch + checkpoints.length) (lastDigest expectedParent checkpoints)
          checkpoint) := by
  induction checkpoints generalizing expectedEpoch expectedParent with
  | nil => simp [checkpointChainLoop, lastDigest]
  | cons first rest ih =>
    rw [cons_append, checkpointChainLoop_cons, checkpointChainLoop_cons, ih, lastDigest_cons, Bool.and_assoc,
      length_cons, show expectedEpoch + ((rest.length + 1 : ℕ) : ℤ) = expectedEpoch + 1 + rest.length by omega]

/-- The loop accepts exactly the chains over the anchor whose closures were consumed. -/
theorem checkpointChainLoop_iff (image : PlayerLocalAuditImage) (checkpoints : List CheckpointSealDraft) :
    checkpointChainLoop image (image.retentionAnchor.epoch + 1) image.retentionAnchor.checkpointDigest checkpoints =
        true ↔
      Linked image.boundary image.retentionAnchor checkpoints (image.retentionAnchor.epoch + checkpoints.length)
          (lastDigest image.retentionAnchor.checkpointDigest checkpoints) ∧
        ∀ checkpoint ∈ checkpoints, checkpoint.epoch ∈ image.consumedClosureEpochs := by
  induction checkpoints using List.reverseRecOn with
  | nil =>
    simp only [checkpointChainLoop, length_nil, Int.natCast_zero, Int.add_zero, not_mem_nil, true_iff]
    exact ⟨.anchored, by simp⟩
  | append_singleton checkpoints checkpoint ih =>
    rw [checkpointChainLoop_concat, Bool.and_eq_true, ih, lastDigest_concat, length_append, length_singleton]
    simp only [chainLinkValid, Bool.not_eq_true', Bool.or_eq_false_iff, decide_eq_false_iff_not, ne_eq, not_not,
      Bool.not_eq_false', contains_iff_mem, and_assoc]
    constructor
    · rintro ⟨linked, consumed, sameBoundary, next, parent, digested, enveloped, closed⟩
      have link := Linked.link linked sameBoundary (by omega) parent digested enveloped
      have epochs : image.retentionAnchor.epoch + ((checkpoints.length + 1 : ℕ) : ℤ) = checkpoint.epoch := by omega
      rw [epochs]
      refine ⟨link, ?_⟩
      exact Lib.forall_mem_concat consumed closed
    · rintro ⟨linked, consumed⟩
      obtain ⟨beforeEpoch, beforeDigest, before, sameBoundary, next, parent, digested, enveloped, _, _⟩ :=
        linked.of_concat
      have epochs := before.epoch_eq
      have digests := before.digest_eq
      subst epochs digests
      exact ⟨before, fun other member => consumed other (by simp [member]), sameBoundary, by omega, parent, digested,
        enveloped, consumed checkpoint (by simp)⟩

theorem Linked.head_iff (linked : Linked boundary anchor checkpoints epoch digest)
    (anchorBoundary : anchor.boundary = boundary) (head : CheckpointSealHead) :
    (match checkpoints.getLast? with
      | none => head == ⟨anchor.boundary, anchor.epoch, anchor.checkpointDigest⟩
      | some latest => head == ⟨boundary, latest.epoch, latest.checkpointDigest⟩) = true ↔
      head = ⟨boundary, epoch, digest⟩ := by
  cases linked with
  | anchored => simp [anchorBoundary]
  | link => simp

variable (store : PlayerLocalAuditStore)

theorem localImageCheckpointChainValid_iff
    (anchorBoundary : store.retentionAnchorValue.boundary = store.boundaryValue) :
    localImageCheckpointChainValid store.durableImage = true ↔
      Linked store.boundaryValue store.retentionAnchorValue store.checkpointsValue store.headValue.epoch
          store.headValue.checkpointDigest ∧
        store.headValue.boundary = store.boundaryValue ∧
        ∀ checkpoint ∈ store.checkpointsValue, checkpoint.epoch ∈ store.consumedClosureEpochsValue := by
  have loop := checkpointChainLoop_iff store.durableImage store.checkpointsValue
  unfold localImageCheckpointChainValid
  rw [Bool.and_eq_true]
  constructor
  · rintro ⟨looped, heads⟩
    obtain ⟨linked, consumed⟩ := loop.mp looped
    have head : store.headValue = _ := (linked.head_iff anchorBoundary store.headValue).mp heads
    rw [head]
    exact ⟨linked, rfl, consumed⟩
  · rintro ⟨linked, headBoundary, consumed⟩
    have head : store.headValue =
        ⟨store.boundaryValue, store.headValue.epoch, store.headValue.checkpointDigest⟩ := by
      rw [← headBoundary]
    refine ⟨loop.mpr ⟨?_, consumed⟩, (linked.head_iff anchorBoundary store.headValue).mpr head⟩
    rw [linked.epoch_eq, linked.digest_eq] at linked
    exact linked

theorem boundary_of_admissible (admissible : playerLocalEventRefusal boundary event = none) :
    event.boundary = boundary := by
  unfold playerLocalEventRefusal at admissible
  simp (disch := simp) only [Lib.passes, not_not] at admissible
  exact admissible.2.1

theorem localImageEquivocationValid_iff
    (filled : ∀ key event, acceptedByKey.get key = some event ↔ event ∈ store.eventsValue ∧ eventKey event = key)
    (evidence : PlayerLocalEventEquivocation) :
    localImageEquivocationValid store.durableImage acceptedByKey evidence = true ↔
      Equivocates store.boundaryValue store.retentionAnchorValue.epoch store.eventsValue evidence := by
  unfold localImageEquivocationValid
  split
  · rename_i accepted found
    have member := ((filled _ _).mp found).1
    simp only [Bool.not_eq_true', Bool.or_eq_false_iff, decide_eq_false_iff_not, not_not, not_le,
      Option.isSome_eq_false_iff, Option.isNone_iff_eq_none, and_assoc]
    constructor
    · rintro ⟨rfl, _, author, counter, digest, retained, admissible⟩
      exact ⟨member, admissible, retained, author, counter, digest⟩
    · rintro ⟨present, admissible, retained, author, counter, digest⟩
      have same : accepted = evidence.accepted := by
        rw [(filled _ _).mpr ⟨present, rfl⟩, Option.some_inj] at found
        exact found.symm
      subst same
      exact ⟨rfl, boundary_of_admissible admissible, author, counter, digest, retained, admissible⟩
  · rename_i missing
    simp only [Bool.false_eq_true, false_iff]
    intro equivocates
    rw [(filled _ _).mpr ⟨equivocates.accepted, rfl⟩] at missing
    cases missing

theorem localImageEventsValid_iff :
    localImageEventsValid store.durableImage = true ↔
      EventsSound store.boundaryValue store.retentionAnchorValue.epoch store.eventsValue store.equivocationsValue := by
  have read := collectDistinct_isSome_iff eventKey id
    (fun event => !((playerLocalEventRefusal store.durableImage.boundary event).isSome ||
      event.epoch ≤ store.durableImage.retentionAnchor.epoch)) Map.empty store.durableImage.events
  simp only [Bool.not_eq_true', Bool.or_eq_false_iff, Option.isSome_eq_false_iff, Option.isNone_iff_eq_none,
    decide_eq_false_iff_not, not_le, imp_and, forall_and] at read
  unfold localImageEventsValid
  split
  · rename_i refused
    simp only [Bool.false_eq_true, false_iff]
    intro sound
    have collected := read.mpr ⟨⟨sound.admissible, sound.retained⟩, sound.keys_nodup, by simp [Map.contains]⟩
    rw [refused] at collected
    cases collected
  · rename_i acceptedByKey collected
    obtain ⟨⟨admissible, retained⟩, keysNodup, _⟩ := read.mp (by rw [collected]; rfl)
    have valid := localImageEquivocationValid_iff store fun key event => get_collectDistinct_iff collected key event
    rw [allDistinct_iff]
    constructor
    · rintro ⟨equivocations, conflictsNodup⟩
      exact ⟨admissible, retained, keysNodup, fun evidence member => (valid evidence).mp (equivocations evidence member),
        conflictsNodup⟩
    · intro sound
      exact ⟨fun evidence member => (valid evidence).mpr (sound.equivocates evidence member), sound.conflicts_nodup⟩

theorem outboxLoop_eq :
    outboxLoop image seenOrder checkpointHasOutbox maxCreatedOrder records =
      (collectDistinct (·.createdOrder) (fun _ => true) (outboxRowValid image) seenOrder records).map fun _ =>
        (records.foldl (fun has entry => has.set entry.epoch true) checkpointHasOutbox,
          records.foldl (fun most entry => if entry.createdOrder > most then entry.createdOrder else most)
            maxCreatedOrder) := by
  induction records generalizing seenOrder checkpointHasOutbox maxCreatedOrder with
  | nil => rfl
  | cons entry rest ih =>
    unfold outboxLoop collectDistinct
    split
    · rfl
    · rw [ih]
      rfl

theorem foldl_max_lt_iff {records : List PlayerLocalCheckpointOutboxRecord} {most bound : ℤ} :
    records.foldl (fun most entry => if entry.createdOrder > most then entry.createdOrder else most) most < bound ↔
      most < bound ∧ ∀ entry ∈ records, entry.createdOrder < bound := by
  induction records generalizing most with
  | nil => simp
  | cons entry rest ih =>
    rw [foldl_cons, ih]
    simp only [mem_cons, forall_eq_or_imp, ← and_assoc]
    refine and_congr_left' ?_
    split <;> omega

theorem activeLocalOutboxRecordCount_map :
    activeLocalOutboxRecordCount (entries.map localOutboxRecord) = activeLocalOutboxCount entries := by
  unfold activeLocalOutboxRecordCount activeLocalOutboxCount
  rw [foldl_map]
  rfl

theorem outboxRowValid_iff :
    outboxRowValid store.durableImage (localOutboxRecord entry) = true ↔
      Carries store.boundaryValue store.checkpointsValue entry := by
  unfold outboxRowValid
  rw [Bool.and_eq_true, Bool.and_eq_true, decide_eq_true_eq]
  constructor
  · rintro ⟨⟨valid, boundary⟩, carried⟩
    refine ⟨valid, boundary, ?_⟩
    split at carried
    · rename_i checkpoint found
      simp only [Bool.not_eq_true', Bool.or_eq_false_iff, decide_eq_false_iff_not, not_not] at carried
      exact ⟨checkpoint, found, carried⟩
    · cases carried
  · rintro ⟨valid, boundary, checkpoint, found, digest, envelope⟩
    refine ⟨⟨valid, boundary⟩, ?_⟩
    have known : checkpointForEpoch store.durableImage.checkpoints (localOutboxRecord entry).epoch = some checkpoint :=
      found
    rw [known]
    simp [localOutboxRecord, digest, envelope]

theorem outboxRows_iff :
    (collectDistinct (fun entry => entry.createdOrder) (fun _ => true) (outboxRowValid store.durableImage) Map.empty
      store.durableImage.outbox).isSome = true ↔
      (∀ entry ∈ store.outboxValue, Carries store.boundaryValue store.checkpointsValue entry) ∧
        (store.outboxValue.map CheckpointOutboxEntry.createdOrderValue).Nodup := by
  have orders : store.durableImage.outbox.map (fun entry => entry.createdOrder) =
      store.outboxValue.map CheckpointOutboxEntry.createdOrderValue := by
    simp [durableImage, Function.comp_def, localOutboxRecord]
  have rows : (∀ entry ∈ store.durableImage.outbox, outboxRowValid store.durableImage entry = true) ↔
      ∀ entry ∈ store.outboxValue, Carries store.boundaryValue store.checkpointsValue entry := by
    simp only [← outboxRowValid_iff]
    exact forall_mem_map
  rw [collectDistinct_isSome_iff, rows, orders]
  simp [Map.contains]

theorem outboxEpochs_iff :
    (store.checkpointsValue.all fun checkpoint =>
      (store.durableImage.outbox.foldl (fun has entry => has.set entry.epoch true) Map.empty).contains
        checkpoint.epoch) = true ↔
      ∀ checkpoint ∈ store.checkpointsValue, ∃ entry ∈ store.outboxValue, entry.epochValue = checkpoint.epoch := by
  rw [all_eq_true]
  refine forall₂_congr fun checkpoint _ => ?_
  have keyed := Map.contains_foldl_set true (store.durableImage.outbox.map (·.epoch)) Map.empty checkpoint.epoch
  rw [foldl_map] at keyed
  rw [keyed]
  simp [Map.contains, durableImage, localOutboxRecord]

theorem localImageOutboxValid_iff :
    localImageOutboxValid store.durableImage = true ↔
      OutboxSound store.boundaryValue store.checkpointsValue store.outboxCapacityValue store.nextCreatedOrderValue
        store.outboxValue := by
  have rows := outboxRows_iff store
  have epochs := outboxEpochs_iff store
  have counted : activeLocalOutboxRecordCount store.durableImage.outbox = activeLocalOutboxCount store.outboxValue :=
    activeLocalOutboxRecordCount_map
  unfold localImageOutboxValid
  rw [outboxLoop_eq, Lib.passes (by simp), outboxSound_iff, counted]
  simp only [Bool.or_eq_true, decide_eq_true_eq, not_or, not_lt]
  cases collected : collectDistinct (fun entry => entry.createdOrder) (fun _ => true)
      (outboxRowValid store.durableImage) Map.empty store.durableImage.outbox with
  | none =>
    rw [collected] at rows
    apply iff_of_false
    · rintro ⟨_, ⟨⟩⟩
    · rintro ⟨carries, _, _, distinct, _⟩
      cases rows.mpr ⟨carries, distinct⟩
  | some seen =>
    obtain ⟨carries, distinct⟩ := rows.mp (by rw [collected]; rfl)
    rw [Option.map_some]
    rw [Bool.and_eq_true, decide_eq_true_eq]
    constructor
    · rintro ⟨⟨capacity, nonneg⟩, sent, below⟩
      have each := (foldl_max_lt_iff.mp below).2
      exact ⟨carries, capacity, nonneg, distinct, fun _ member => each _ (mem_map_of_mem member), epochs.mp sent⟩
    · rintro ⟨_, capacity, nonneg, _, below, sent⟩
      exact ⟨⟨capacity, nonneg⟩, epochs.mpr sent, foldl_max_lt_iff.mpr ⟨Int.add_one_le_iff.mp nonneg, forall_mem_map.mpr below⟩⟩

theorem localAckMatchesOutbox_iff :
    localAckMatchesOutbox evidence (localOutboxRecord entry) = true ↔ Acknowledges evidence entry := by
  simp only [localAckMatchesOutbox, Bool.and_eq_true, Bool.or_eq_true, decide_eq_true_eq, acknowledges_iff, and_assoc]
  exact Iff.rfl

theorem localOutboxRecordValid_iff (entry : CheckpointOutboxEntry) :
    localOutboxRecordValid (localOutboxRecord entry) = true ↔
      boundaryValid entry.boundaryValue = true ∧ entry.destinationIdValue ≠ Str.empty ∧ 0 ≤ entry.epochValue ∧
        entry.checkpointDigestValue.text ≠ Str.empty ∧ entry.canonicalEnvelopeValue ≠ Str.empty ∧
        0 ≤ entry.createdOrderValue ∧ ∀ lease, entry.stateValue = .outboxInFlight lease → 0 ≤ lease := by
  unfold localOutboxRecordValid localOutboxRecord
  cases state : entry.stateValue <;> simp [and_assoc]

theorem acknowledgedEntries_iff :
    (store.durableImage.outbox.all fun entry =>
      decide (entry.state ≠ .outboxAcknowledgedState) ||
        store.durableImage.ackHistory.any fun evidence => localAckMatchesOutbox evidence entry) = true ↔
      ∀ entry ∈ store.outboxValue, entry.stateValue = .outboxAcknowledgedState →
        ∃ evidence ∈ store.ackHistoryValue, Acknowledges evidence entry := by
  rw [all_eq_true]
  refine forall_mem_map.trans (forall₂_congr fun entry _ => ?_)
  rw [Bool.or_eq_true, decide_eq_true_eq, any_eq_true]
  simp only [localAckMatchesOutbox_iff]
  exact imp_iff_not_or.symm

theorem localImageAckHistoryValid_iff
    (carried : ∀ entry ∈ store.outboxValue, Carries store.boundaryValue store.checkpointsValue entry) :
    localImageAckHistoryValid store.durableImage = true ↔ AcksSound store.outboxValue store.ackHistoryValue := by
  unfold localImageAckHistoryValid
  rw [Bool.and_eq_true, allDistinct_iff, acknowledgedEntries_iff, acksSound_iff, and_assoc]
  refine and_congr_left' (forall₂_congr fun evidence _ => ?_)
  rw [Bool.and_eq_true, any_eq_true]
  constructor
  · rintro ⟨_, record, member, both⟩
    obtain ⟨entry, present, rfl⟩ := mem_map.mp member
    rw [Bool.and_eq_true, localAckMatchesOutbox_iff, decide_eq_true_eq] at both
    exact ⟨entry, present, both⟩
  · rintro ⟨entry, member, acknowledges, state⟩
    have carries := carried entry member
    obtain ⟨boundary, destination, epoch, digest, _⟩ := (localOutboxRecordValid_iff entry).mp carries.valid
    refine ⟨?_, localOutboxRecord entry, mem_map.mpr ⟨entry, member, rfl⟩, ?_⟩
    · have sameBoundary : evidence.boundary = store.durableImage.boundary :=
        acknowledges.boundary.trans carries.boundary
      have validBoundary : boundaryValid store.durableImage.boundary = true := by
        rw [carries.boundary] at boundary
        exact boundary
      have notNegative : ¬ entry.epochValue < 0 := by omega
      simp [sameBoundary, validBoundary, acknowledges.authority, acknowledges.epoch, acknowledges.digest, destination,
        digest, notNegative]
    · rw [Bool.and_eq_true, localAckMatchesOutbox_iff, decide_eq_true_eq]
      exact ⟨acknowledges, state⟩

theorem localImageEvidenceHoldsValid_iff :
    localImageEvidenceHoldsValid store.durableImage = true ↔
      HoldsSound store.boundaryValue store.checkpointsValue store.evidenceHoldsValue := by
  unfold localImageEvidenceHoldsValid
  rw [allDistinct_iff]
  exact ⟨fun valid => ⟨valid.1, valid.2⟩, fun sound => ⟨sound.valid, sound.ids_nodup⟩⟩

theorem mapM_restoreLocalOutboxEntry {entries : List CheckpointOutboxEntry}
    (valid : ∀ entry ∈ entries, localOutboxRecordValid (localOutboxRecord entry) = true) :
    (entries.map localOutboxRecord).mapM restoreLocalOutboxEntry = some entries := by
  induction entries with
  | nil => rfl
  | cons entry rest ih =>
    rw [map_cons, mapM_cons, restoreLocalOutboxEntry, valid entry mem_cons_self,
      ih fun other member => valid other (mem_cons_of_mem _ member)]
    rfl

/-- The checks of `restore_player_local_audit_store` decide soundness. -/
theorem sound_iff :
    Sound store ↔
      boundaryValid store.boundaryValue = true ∧ store.genesisDigestValue.text ≠ Str.empty ∧
        0 ≤ store.outboxCapacityValue ∧ localImageInvalid store.durableImage = false := by
  unfold localImageInvalid
  simp only [Bool.or_eq_false_iff, Bool.and_eq_false_iff, decide_eq_false_iff_not, not_lt, not_not, Bool.not_eq_false',
    ← imp_iff_not_or, and_assoc]
  constructor
  · intro sound
    have above : store.retentionAnchorValue.epoch ≤ store.headValue.epoch := by
      rw [sound.chain.epoch_eq]
      omega
    exact ⟨sound.boundary_valid, sound.genesis_present, sound.capacity_nonneg, sound.revision_nonneg,
      sound.anchor_boundary, sound.anchor_epoch, above, sound.anchor_present, sound.anchor_genesis,
      (localImageEventsValid_iff store).mpr sound.events,
      (localImageCheckpointChainValid_iff store sound.anchor_boundary).mpr
        ⟨sound.chain, sound.head_boundary, sound.consumed⟩,
      (localImageEvidenceHoldsValid_iff store).mpr sound.holds, sound.cursors, sound.jobs,
      (localImageOutboxValid_iff store).mpr sound.outbox,
      (localImageAckHistoryValid_iff store sound.outbox.carries).mpr sound.acks⟩
  · rintro ⟨boundary, genesis, capacity, revision, anchorBoundary, anchorEpoch, _, anchorPresent, anchorGenesis, events,
      chain, holds, cursors, jobs, outbox, acks⟩
    obtain ⟨linked, headBoundary, consumed⟩ := (localImageCheckpointChainValid_iff store anchorBoundary).mp chain
    have outboxSound := (localImageOutboxValid_iff store).mp outbox
    exact ⟨boundary, genesis, capacity, revision, anchorBoundary, anchorEpoch, anchorPresent, anchorGenesis,
      (localImageEventsValid_iff store).mp events, linked, headBoundary, consumed,
      (localImageEvidenceHoldsValid_iff store).mp holds, cursors, jobs, outboxSound,
      (localImageAckHistoryValid_iff store outboxSound.carries).mp acks⟩

variable {store}

/-- A sound store is restored from its image as it was. -/
theorem Sound.restore_eq (sound : Sound store) :
    restorePlayerLocalAuditStore store.durableImage = .playerLocalAuditStoreReady store := by
  obtain ⟨boundary, genesis, capacity, valid⟩ := (sound_iff store).mp sound
  have rows : store.durableImage.outbox.mapM restoreLocalOutboxEntry = some store.outboxValue :=
    mapM_restoreLocalOutboxEntry fun entry member => (sound.outbox.carries entry member).valid
  have named : boundaryValid store.durableImage.boundary = true := boundary
  have present : ¬ store.durableImage.genesisDigest.text = Str.empty := genesis
  have room : ¬ store.durableImage.outboxCapacity < 0 := not_lt.mpr capacity
  unfold restorePlayerLocalAuditStore
  rw [named, valid, if_neg (by decide), if_neg present, if_neg room, if_neg (by decide), rows]
  rfl

/-- The store that has a given image, sound or not. -/
def PlayerLocalAuditStore.ofImage (image : PlayerLocalAuditImage) : PlayerLocalAuditStore :=
  storeOfImage image (image.outbox.map fun record => ⟨record.boundary, record.destinationId, record.epoch,
    record.checkpointDigest, record.canonicalEnvelope, record.createdOrder, record.state⟩)

theorem durableImage_ofImage : (ofImage image).durableImage = image := by
  have rows : (ofImage image).outboxValue.map localOutboxRecord = image.outbox := by
    rw [ofImage, storeOfImage, map_map]
    exact map_id _
  unfold durableImage
  rw [rows]
  rfl

theorem restore_eq_ready_iff (store : PlayerLocalAuditStore) :
    restorePlayerLocalAuditStore image = .playerLocalAuditStoreReady store ↔
      store.durableImage = image ∧ Sound store := by
  constructor
  · intro restored
    have sound : Sound (ofImage image) := by
      rw [sound_iff, durableImage_ofImage]
      unfold restorePlayerLocalAuditStore at restored
      simp (disch := simp) only [Lib.passes, Bool.not_eq_true, Bool.not_eq_false', not_lt] at restored
      obtain ⟨boundary, genesis, capacity, valid, _⟩ := restored
      exact ⟨boundary, genesis, capacity, valid⟩
    have same := sound.restore_eq
    rw [durableImage_ofImage, restored] at same
    injection same with same
    rw [same]
    exact ⟨durableImage_ofImage, sound⟩
  · rintro ⟨rfl, sound⟩
    exact sound.restore_eq

end ConvergeAudit.Runtime
