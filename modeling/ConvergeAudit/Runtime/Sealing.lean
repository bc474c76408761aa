import ConvergeAudit.Runtime.Runs

/-!
Seals are linearized by the storage revision: a plan commits only on the store it was prepared from, and the chain
grows one epoch at a time.
-/

namespace ConvergeAudit.Runtime
open Moon PlayerLocalAuditStore
open List hiding head after count

theorem Linked.previous_getElem? (linked : Linked boundary anchor checkpoints epoch digest)
    (found : checkpoints[index]? = some checkpoint) :
    checkpoint.previousCheckpoint = lastDigest anchor.checkpointDigest (checkpoints.take index) := by
  induction linked with
  | anchored => simp at found
  | @link checkpoints epoch digest last before _ _ parent _ _ ih =>
    rcases Lib.getElem?_concat_iff.mp found with old | ⟨rfl, rfl⟩
    · rw [take_append_of_le_length (le_of_lt (List.getElem?_eq_some_iff.mp old).1)]
      exact ih old
    · rw [take_left, parent, before.digest_eq]

structure ChainFromGenesis (store : PlayerLocalAuditStore) : Prop where
  epochs : ∀ (index : ℕ) (checkpoint : CheckpointSealDraft), store.checkpointsValue[index]? = some checkpoint →
    checkpoint.epoch = index
  first : ∀ checkpoint, store.checkpointsValue[0]? = some checkpoint →
    checkpoint.previousCheckpoint = store.genesisDigestValue
  parents : ∀ (index : ℕ) (before checkpoint : CheckpointSealDraft), store.checkpointsValue[index]? = some before →
    store.checkpointsValue[index + 1]? = some checkpoint → checkpoint.previousCheckpoint = before.checkpointDigest
  head : store.headValue = match store.checkpointsValue.getLast? with
    | none => ⟨store.boundaryValue, -1, store.genesisDigestValue⟩
    | some last => ⟨last.boundary, last.epoch, last.checkpointDigest⟩

theorem Linked.boundary_of_mem (linked : Linked boundary anchor checkpoints epoch digest) :
    ∀ checkpoint ∈ checkpoints, checkpoint.boundary = boundary := by
  induction linked with
  | anchored => simp
  | link _ sameBoundary _ _ _ _ ih => exact Lib.forall_mem_concat ih sameBoundary

theorem Sound.chainFromGenesis (sound : Sound store) (unpruned : store.retentionAnchorValue.epoch = -1) :
    ChainFromGenesis store where
  epochs := by
    intro index checkpoint found
    rw [sound.chain.epoch_getElem? found, unpruned]
    omega
  first := by
    intro checkpoint found
    rw [sound.chain.previous_getElem? found, take_zero, sound.anchor_genesis unpruned]
    rfl
  parents := by
    intro index before checkpoint foundBefore found
    rw [sound.chain.previous_getElem? found, take_add_one, foundBefore, Option.toList_some, lastDigest_concat]
  head := by
    have headBoundary := sound.head_boundary
    have genesis := sound.anchor_genesis unpruned
    have boundaries := sound.chain.boundary_of_mem
    have epoch := sound.chain.epoch_eq
    have digest := sound.chain.digest_eq
    have heads : store.headValue = ⟨store.headValue.boundary, store.headValue.epoch, store.headValue.checkpointDigest⟩ :=
      rfl
    rw [heads, headBoundary, digest, lastDigest]
    cases last : store.checkpointsValue.getLast? with
    | none =>
      have empty := getLast?_eq_none_iff.mp last
      rw [empty, length_nil, unpruned] at epoch
      simp [epoch, genesis]
    | some latest =>
      have member := mem_of_getLast? last
      rw [getLast?_eq_getElem?] at last
      have inside := (List.getElem?_eq_some_iff.mp last).1
      have latestEpoch := sound.chain.epoch_getElem? last
      simp only [boundaries latest member, CheckpointSealHead.mk.injEq, and_true, true_and]
      omega

variable {session : Session}

section
variable [StrOrder] {closure : TrustedEpochClosure}

theorem Session.step_prepared
    (prepared : session.store.prepareSeal draft closure destinations = some (.playerLocalSealPrepared plan)) :
    (session.step (.prepareSeal draft closure destinations)).1 =
      { session with plans := session.plans ++ [plan] } := by
  unfold Session.step
  dsimp only
  rw [prepared]

/-- Seals of one store are linearized, whoever calls and in whatever order. -/
theorem Reachable.seals_linearized {session : Session} (reachable : Reachable session) :
    (∀ draft closure destinations plan between earlier,
      session.store.prepareSeal draft closure destinations = some (.playerLocalSealPrepared plan) →
      (((session.step (.prepareSeal draft closure destinations)).1.after between).step
        (.commitSeal session.plans.length)).2 = .commit .playerLocalSealCommitted →
      earlier <+: between →
        ((session.step (.prepareSeal draft closure destinations)).1.after earlier).store.durableImage =
          session.store.durableImage) ∧
    (∀ first second between firstPlan secondPlan,
      session.plans[first]? = some firstPlan →
      (session.step (.commitSeal first)).2 = .commit .playerLocalSealCommitted →
      ((session.step (.commitSeal first)).1.after between).plans[second]? = some secondPlan →
      (((session.step (.commitSeal first)).1.after between).step (.commitSeal second)).2 =
        .commit .playerLocalSealCommitted →
        firstPlan.expectedRevision ≠ secondPlan.expectedRevision) ∧
    (∀ call, ¬ (session.step call).2.Succeeded →
      (session.step call).1.store.durableImage = session.store.durableImage) ∧
    (∀ calls, session.store.checkpointsValue <+: (session.after calls).store.checkpointsValue) ∧
    ChainFromGenesis session.store ∧
    (session.store.outboxValue.countP fun entry => entry.stateValue ≠ .outboxAcknowledgedState : ℕ) ≤
      session.store.outboxCapacityValue := by
  refine ⟨?_, ?_, ?_, ?_, reachable.healthy.sound.chainFromGenesis reachable.unpruned, ?_⟩
  · intro draft closure destinations plan between earlier prepared committed passed
    refine congrArg durableImage ?_
    have start := Session.step_prepared prepared
    have healthy := (reachable.called (.prepareSeal draft closure destinations)).healthy
    rw [start] at committed healthy ⊢
    -- the plan is still the one at its position
    obtain ⟨more, plans⟩ := Session.plans_after { session with plans := session.plans ++ [plan] } between
    have located : (Session.after { session with plans := session.plans ++ [plan] } between).plans[session.plans.length]? =
        some plan := by
      rw [← plans]
      simp
    obtain ⟨_, _, _, _, stored, _⟩ := (healthy.after between).commit_stored committed
    rw [located, Option.some_inj] at stored
    have revision := (prepareSeal_prepared prepared).2
    rw [stored] at revision
    have same := (PlayerLocalSealPlan.mk.inj revision).2.1
    obtain ⟨later, rfl⟩ := passed
    rw [Session.after_append] at same
    rcases healthy.after_revision with unchanged | raised
    · exact unchanged
    · dsimp only at raised
      rcases (healthy.after earlier).after_revision with unchanged | raisedAgain
      · rw [unchanged] at same
        omega
      · omega
  · intro first second between firstPlan secondPlan firstLocated firstCommitted secondLocated secondCommitted
    obtain ⟨_, _, _, _, stored, applied⟩ := reachable.healthy.commit_stored firstCommitted
    have healthy := (reachable.called (.commitSeal first)).healthy
    obtain ⟨_, _, _, _, storedLater, _⟩ := (healthy.after between).commit_stored secondCommitted
    rw [firstLocated, Option.some_inj] at stored
    rw [secondLocated, Option.some_inj] at storedLater
    rw [stored, storedLater]
    -- a commit raises the revision that later plans expect
    have raised : (session.step (.commitSeal first)).1.store.storageRevisionValue =
        session.store.storageRevisionValue + 1 := by
      rw [applied]
      rfl
    dsimp only
    rcases @Session.Healthy.after_revision _ _ healthy between with unchanged | raisedAgain
    · rw [unchanged, raised]
      omega
    · omega
  · intro call failed
    rcases reachable.healthy.step_cases with same | ⟨_, succeeded⟩
    · rw [same]
    · exact absurd succeeded failed
  · intro calls
    exact reachable.healthy.after_induction (P := fun store => session.store.checkpointsValue <+: store.checkpointsValue)
      (fun mutates grown => grown.trans mutates.checkpoints) (prefix_refl _) calls
  · rw [← activeLocalOutboxCount_eq]
    exact reachable.healthy.sound.outbox.capacity

end

open Sample Shortlex in
/-- After two preparations at one revision and one commit, the second plan is refused. -/
theorem seals_linearized_sample :
    (((Session.mk store []).after sealing).step (.commitSeal 1)).2 =
        .commit .playerLocalSealConcurrentWrite ∧
      ChainFromGenesis ((Session.mk store []).after sealing).store := by
  have opened : openPlayerLocalAuditStore boundary genesis 2 =
      .playerLocalAuditStoreReady store := by decide +kernel
  have linearized := Reachable.seals_linearized ((Reachable.opened opened).after sealing)
  exact ⟨by decide +kernel, linearized.2.2.2.2.1⟩

theorem localOutboxHas_slots :
    localOutboxHas (outbox.map CheckpointOutboxEntry.slot) draft destination =
      localOutboxHas outbox draft destination := by
  unfold localOutboxHas
  rw [any_map]
  rfl

theorem Rewrites.localOutboxHas_set (rewrites : Rewrites outbox index entry row) :
    localOutboxHas (outbox.set index row) draft destination = localOutboxHas outbox draft destination := by
  rw [← localOutboxHas_slots, rewrites.map_slot, localOutboxHas_slots]

structure Sealed (draft : CheckpointSealDraft) (destinations : List Str) (store : PlayerLocalAuditStore) : Prop where
  checkpoint : draft ∈ store.checkpointsValue
  filed : ∀ destination ∈ destinations, localOutboxHas store.outboxValue draft destination = true

theorem sealed_applySeal (store : PlayerLocalAuditStore) (draft : CheckpointSealDraft) (destinations : List Str) :
    Sealed draft destinations (store.applySeal draft destinations) := by
  refine ⟨by simp [applySeal], ?_⟩
  intro destination member
  obtain ⟨index, located⟩ := getElem?_of_mem member
  have filed : (sealEntries draft store.nextCreatedOrderValue destinations)[index]? =
      some (sealEntry draft (store.nextCreatedOrderValue + index) destination) := by
    rw [getElem?_sealEntries, located, Option.map_some]
  unfold localOutboxHas
  rw [any_eq_true]
  exact ⟨_, mem_append_right _ (mem_of_getElem? filed), by simp [sealEntry]⟩

theorem Sealed.mutates (mutates : Mutates store after) (done : Sealed draft destinations store) :
    Sealed draft destinations after := by
  refine ⟨mutates.checkpoints.subset done.checkpoint, ?_⟩
  intro destination member
  have has := done.filed destination member
  cases mutates with
  | stored | equivocated => exact has
  | sealed admits =>
    unfold localOutboxHas at has ⊢
    rw [applySeal, any_append, has, Bool.true_or]
  | leased found leases =>
    have rewrites := Rewrites.of_leases found leases
    exact rewrites.localOutboxHas_set.trans has
  | closed found unacknowledged acknowledges =>
    have rewrites := Rewrites.of_close found unacknowledged
    exact rewrites.localOutboxHas_set.trans has

theorem Sound.snapshot_valid (sound : Sound store) (draft : CheckpointSealDraft) (destinations : List Str) :
    sealSnapshotValid (store.sealSnapshot draft destinations) = true := by
  have epoch : -1 ≤ store.headValue.epoch := by
    have anchored := sound.anchor_epoch
    rw [sound.chain.epoch_eq]
    omega
  have digest := sound.chain.digest_ne sound.anchor_present
  have count : 0 ≤ activeLocalOutboxCount store.outboxValue := by
    rw [activeLocalOutboxCount_eq]
    omega
  have boundary := sound.boundary_valid
  have capacity := sound.outbox.capacity
  have capacityNonneg := sound.capacity_nonneg
  have order := sound.outbox.order_nonneg
  unfold sealSnapshotValid sealSnapshot
  cases checkpointForEpoch store.checkpointsValue draft.epoch with
  | none => simp [boundary, epoch, digest, count, capacity, capacityNonneg, order]
  | some checkpoint =>
    by_cases matched : checkpoint.checkpointDigest = draft.checkpointDigest <;>
      simp [boundary, epoch, digest, count, capacity, capacityNonneg, order, matched]
    tauto

section
variable [StrOrder] {closure : TrustedEpochClosure}

/-- What the store answers to a valid request for an epoch that it has sealed. -/
theorem Sound.prepareSeal_sealed (sound : Sound store) (done : Sealed draft destinations store)
    (draftValid : sealDraftValid other = true) (boundary : other.boundary = draft.boundary)
    (epoch : other.epoch = draft.epoch) (closureBoundary : closure.evidenceValue.boundary = other.boundary)
    (closureEpoch : closure.evidenceValue.epoch = other.epoch) (valid : ValidDestinations requested) :
    store.prepareSeal other closure requested =
      some (if draft.checkpointDigest = other.checkpointDigest then
          if requested.all fun destination => localOutboxHas store.outboxValue other destination then
            .playerLocalSealAlreadyCommitted
          else .playerLocalSealConflict .sealIncompleteKnownCommit
        else .playerLocalSealConflict .sealSameEpochFork) := by
  have found : checkpointForEpoch store.checkpointsValue other.epoch = some draft :=
    sound.chain.checkpointForEpoch_iff.mpr ⟨done.checkpoint, epoch.symm⟩
  have stored : store.boundaryValue = other.boundary := by
    rw [boundary, sound.chain.boundary_of_mem draft done.checkpoint]
  have consumed : other.epoch ∈ store.consumedClosureEpochsValue := by
    rw [epoch]
    exact sound.consumed draft done.checkpoint
  have inputs : SealInputs (store.sealSnapshot other requested) other closure requested :=
    ⟨sound.snapshot_valid other requested, draftValid, stored, closureBoundary, closureEpoch, valid⟩
  have known : (store.sealSnapshot other requested).incomingEpochKnown = true := by
    rw [sealSnapshot, found]
    rfl
  have matches_ : (store.sealSnapshot other requested).knownDigestMatches =
      decide (draft.checkpointDigest = other.checkpointDigest) := by
    rw [sealSnapshot, found]
  have complete : (store.sealSnapshot other requested).knownSealComplete =
      (decide (draft.checkpointDigest = other.checkpointDigest) &&
        requested.all fun destination => localOutboxHas store.outboxValue other destination) := by
    have some_ : requested.length > 0 := length_pos_iff.mpr valid.nonempty
    rw [sealSnapshot, found]
    simp [consumed, some_]
  unfold prepareSeal
  rw [inputs.prepare_eq, sealDecision, known, matches_, complete, Option.map_some]
  by_cases same : draft.checkpointDigest = other.checkpointDigest
  · cases requested.all fun destination => localOutboxHas store.outboxValue other destination <;>
      simp [same, Audit.classifyCheckpointHead]
  · simp [same, Audit.classifyCheckpointHead]

/-- A committed seal answers for its epoch in every later state. -/
theorem Reachable.sealed_for_good {session : Session} (reachable : Reachable session) {index : ℕ}
    {plan : PlayerLocalSealPlan} (located : session.plans[index]? = some plan)
    (committed : (session.step (.commitSeal index)).2 = .commit .playerLocalSealCommitted) (calls : List Call) :
    (∀ closure requested,
      closure.evidenceValue.boundary = plan.runtimePlan.checkpointValue.boundary →
      closure.evidenceValue.epoch = plan.runtimePlan.checkpointValue.epoch →
      requested ≠ [] → requested.Nodup → requested ⊆ plan.requiredDestinations →
        ((session.step (.commitSeal index)).1.after calls).store.prepareSeal plan.runtimePlan.checkpointValue closure
          requested = some .playerLocalSealAlreadyCommitted) ∧
    (∀ other closure requested,
      sealDraftValid other = true → other.boundary = plan.runtimePlan.checkpointValue.boundary →
      other.epoch = plan.runtimePlan.checkpointValue.epoch →
      other.checkpointDigest ≠ plan.runtimePlan.checkpointValue.checkpointDigest →
      closure.evidenceValue.boundary = other.boundary → closure.evidenceValue.epoch = other.epoch →
      ValidDestinations requested →
        ((session.step (.commitSeal index)).1.after calls).store.prepareSeal other closure requested =
          some (.playerLocalSealConflict .sealSameEpochFork)) ∧
    (∀ other closure requested second, other.epoch = plan.runtimePlan.checkpointValue.epoch →
      ((session.step (.commitSeal index)).1.after calls).store.prepareSeal other closure requested ≠
        some (.playerLocalSealPrepared second)) := by
  obtain ⟨draft, _, destinations, admits, stored, applied⟩ := reachable.healthy.commit_stored committed
  rw [located, Option.some_inj] at stored
  subst stored
  have healthy := (reachable.called (.commitSeal index)).healthy
  have sound := (healthy.after calls).sound
  have start : Sealed draft destinations (session.step (.commitSeal index)).1.store := by
    rw [applied]
    exact sealed_applySeal session.store draft destinations
  have done := healthy.after_induction Sealed.mutates start calls
  refine ⟨?_, ?_, ?_⟩
  · intro closure requested closureBoundary closureEpoch nonempty nodup drawn
    have valid : ValidDestinations requested :=
      ⟨nonempty, fun empty => admits.destinations_valid.named (drawn empty), nodup⟩
    have answer := sound.prepareSeal_sealed done admits.draft_valid rfl rfl closureBoundary closureEpoch valid
    have filed : (requested.all fun destination => localOutboxHas
        ((session.step (.commitSeal index)).1.after calls).store.outboxValue draft destination) = true := by
      rw [all_eq_true]
      intro destination member
      exact done.filed destination (drawn member)
    rw [if_pos rfl, if_pos filed] at answer
    exact answer
  · intro other closure requested draftValid boundary epoch different closureBoundary closureEpoch valid
    have answer := sound.prepareSeal_sealed done draftValid boundary epoch closureBoundary closureEpoch valid
    have apart : ¬ draft.checkpointDigest = other.checkpointDigest := fun same => different same.symm
    rw [if_neg apart] at answer
    exact answer
  · intro other closure requested second epoch prepared
    have unsealed := (prepareSeal_prepared prepared).1.unsealed
    rw [sound.chain.checkpointForEpoch_iff.mpr ⟨done.checkpoint, epoch.symm⟩] at unsealed
    cases unsealed

end

open Sample Shortlex in
/-- The seal is still known after its row was acknowledged and the process restarted. -/
theorem sealed_for_good_sample :
    (((Session.mk store []).after (sealing.take 3)).step (.commitSeal 0)).2 =
        .commit .playerLocalSealCommitted ∧
      ((((Session.mk store []).after (sealing.take 3)).step (.commitSeal 0)).1.after
          [.acknowledgeOutboxAt 0 ack, .restart]).store.prepareSeal draft closure [lit "tower"] =
        some .playerLocalSealAlreadyCommitted := by
  have opened : openPlayerLocalAuditStore boundary genesis 2 =
      .playerLocalAuditStoreReady store := by decide +kernel
  have located : ((Session.mk store []).after (sealing.take 3)).plans[0]? =
      some ⟨sealPlan ((store.storeEvent event).sealSnapshot draft [lit "tower"]) draft
        [lit "tower"], 1, [lit "tower"], closure.evidenceValue⟩ := by decide +kernel
  have committed : (((Session.mk store []).after (sealing.take 3)).step (.commitSeal 0)).2 =
      .commit .playerLocalSealCommitted := by decide +kernel
  have done := Reachable.sealed_for_good ((Reachable.opened opened).after (sealing.take 3)) located committed
    [.acknowledgeOutboxAt 0 ack, .restart]
  exact ⟨committed, done.1 closure [lit "tower"] rfl rfl (by decide) (by decide) (by simp)⟩

end ConvergeAudit.Runtime
