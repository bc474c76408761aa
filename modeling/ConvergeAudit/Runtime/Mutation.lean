import ConvergeAudit.Runtime.Sound

/-!
A call leaves the store as it is or makes one of five changes, each with what the code has checked before it.
-/

namespace ConvergeAudit.Runtime
open Moon

def CheckpointOutboxEntry.slot (entry : CheckpointOutboxEntry) : CheckpointOutboxEntry :=
  entry.withState .outboxPending

namespace PlayerLocalAuditStore

section
variable (store : PlayerLocalAuditStore)

def storeEvent (event : PlayerLocalAuditEvent) : PlayerLocalAuditStore :=
  { store with
    eventsValue := store.eventsValue ++ [event]
    storageRevisionValue := store.storageRevisionValue + 1 }

def recordEquivocation (evidence : PlayerLocalEventEquivocation) : PlayerLocalAuditStore :=
  { store with
    equivocationsValue := store.equivocationsValue ++ [evidence]
    storageRevisionValue := store.storageRevisionValue + 1 }

def applySeal (draft : CheckpointSealDraft) (destinations : List Str) : PlayerLocalAuditStore :=
  { store with
    checkpointsValue := store.checkpointsValue ++ [draft]
    headValue := { boundary := draft.boundary, epoch := draft.epoch, checkpointDigest := draft.checkpointDigest }
    outboxValue := store.outboxValue ++ sealEntries draft store.nextCreatedOrderValue destinations
    consumedClosureEpochsValue := store.consumedClosureEpochsValue ++ [draft.epoch]
    nextCreatedOrderValue := store.nextCreatedOrderValue + destinations.length
    storageRevisionValue := store.storageRevisionValue + 1 }

def lease (index : ℕ) (entry : CheckpointOutboxEntry) : PlayerLocalAuditStore :=
  { store with
    outboxValue := store.outboxValue.set index entry
    storageRevisionValue := store.storageRevisionValue + 1 }

def close (index : ℕ) (entry : CheckpointOutboxEntry) (evidence : CheckpointAckEvidence) : PlayerLocalAuditStore :=
  { store with
    outboxValue := store.outboxValue.set index (entry.withState .outboxAcknowledgedState)
    ackHistoryValue := store.ackHistoryValue ++ [evidence]
    storageRevisionValue := store.storageRevisionValue + 1 }

end

end PlayerLocalAuditStore

/-- An entry that may take the place of `entry`, which nobody has acknowledged. -/
structure Leases (entry leased : CheckpointOutboxEntry) : Prop where
  unacknowledged : entry.stateValue ≠ .outboxAcknowledgedState
  slot : leased.slot = entry.slot
  still : leased.stateValue ≠ .outboxAcknowledgedState
  deadline : ∀ lease, leased.stateValue = .outboxInFlight lease → 0 ≤ lease

/-- One mutation, with what the code has checked before it. -/
inductive Mutates (store : PlayerLocalAuditStore) : PlayerLocalAuditStore → Prop
  | stored {event : PlayerLocalAuditEvent} (admissible : playerLocalEventRefusal store.boundaryValue event = none)
      (retained : store.retentionAnchorValue.epoch < event.epoch)
      (fresh : ∀ accepted ∈ store.eventsValue, eventKey accepted ≠ eventKey event) :
      Mutates store (store.storeEvent event)
  | equivocated {evidence : PlayerLocalEventEquivocation}
      (equivocates : Equivocates store.boundaryValue store.retentionAnchorValue.epoch store.eventsValue evidence)
      (fresh : ∀ known ∈ store.equivocationsValue, known.accepted = evidence.accepted →
        known.conflicting.eventDigest ≠ evidence.conflicting.eventDigest) :
      Mutates store (store.recordEquivocation evidence)
  | sealed {draft : CheckpointSealDraft} {closure : TrustedEpochClosure} {destinations : List Str}
      (admits : SealAdmits (store.sealSnapshot draft destinations) draft closure destinations) :
      Mutates store (store.applySeal draft destinations)
  | leased {index : ℕ} {entry row : CheckpointOutboxEntry} (found : store.outboxValue[index]? = some entry)
      (leases : Leases entry row) : Mutates store (store.lease index row)
  | closed {index : ℕ} {entry : CheckpointOutboxEntry} {evidence : CheckpointAckEvidence}
      (found : store.outboxValue[index]? = some entry) (unacknowledged : entry.stateValue ≠ .outboxAcknowledgedState)
      (acknowledges : Acknowledges evidence entry) : Mutates store (store.close index entry evidence)

variable {store : PlayerLocalAuditStore}

namespace PlayerLocalAuditStore

theorem admitEvent_cases (store : PlayerLocalAuditStore) (event : PlayerLocalAuditEvent) :
    (store.admitEvent event).1 = store ∨
      Mutates store (store.admitEvent event).1 ∧
        ((store.admitEvent event).2 = .localEventStored ∨ (store.admitEvent event).2 = .localEventEquivocation) := by
  unfold admitEvent
  split
  · exact Or.inl rfl
  rename_i admissible
  split
  · exact Or.inl rfl
  rename_i retained
  rw [not_le] at retained
  dsimp only
  split
  · rename_i accepted found
    have member := List.mem_of_find?_eq_some found
    have sameKey : eventKey accepted = eventKey event := by simpa [eventKey] using List.find?_some found
    split
    · split <;> exact Or.inl rfl
    rename_i digest
    split
    · split <;> exact Or.inl rfl
    · rename_i unrecorded
      obtain ⟨author, counter⟩ := localEventKey_inj sameKey
      have equivocates : Equivocates store.boundaryValue store.retentionAnchorValue.epoch store.eventsValue
          ⟨accepted, event⟩ :=
        ⟨member, admissible, retained, author.symm, counter.symm, fun same => digest same.symm⟩
      refine Or.inr ⟨.equivocated equivocates ?_, Or.inr rfl⟩
      intro known present same conflicting
      simpa [same, conflicting] using List.find?_eq_none.mp unrecorded known present
  · rename_i missing
    refine Or.inr ⟨.stored admissible retained ?_, Or.inl rfl⟩
    intro accepted member
    simpa [eventKey] using List.find?_eq_none.mp missing accepted member

theorem outboxAt_eq_some (found : store.outboxAt index = some entry) :
    0 ≤ index ∧ store.outboxValue[index.toNat]? = some entry := by
  unfold outboxAt at found
  split at found
  · cases found
  · exact ⟨by omega, found⟩

def RowCall (store after : PlayerLocalAuditStore) (answer : PlayerLocalOutboxUpdateResult) : Prop :=
  after = store ∨ Mutates store after ∧ ∃ entry, answer = .playerLocalOutboxUpdated entry

theorem claimOutboxAt_cases (store : PlayerLocalAuditStore) :
    RowCall store (store.claimOutboxAt index nowMs leaseDurationMs).1
      (store.claimOutboxAt index nowMs leaseDurationMs).2 := by
  unfold claimOutboxAt
  split
  · exact Or.inl rfl
  rename_i current found
  split
  · rename_i claimed claim
    obtain ⟨_, unacknowledged, lease, deadline, _, rfl⟩ := claimCheckpointOutbox_cases claim
    refine Or.inr ⟨.leased (outboxAt_eq_some found).2 ⟨unacknowledged, rfl, nofun, ?_⟩, _, rfl⟩
    rintro _ ⟨⟩
    exact deadline
  · exact Or.inl rfl
  · exact Or.inl rfl

theorem releaseOutboxAt_cases (store : PlayerLocalAuditStore) :
    RowCall store (store.releaseOutboxAt index).1 (store.releaseOutboxAt index).2 := by
  unfold releaseOutboxAt
  split
  · exact Or.inl rfl
  rename_i current found
  split
  · rename_i released release
    obtain ⟨unacknowledged, rfl⟩ := releaseCheckpointOutbox_cases release
    exact Or.inr ⟨.leased (outboxAt_eq_some found).2 ⟨unacknowledged, rfl, nofun, nofun⟩, _, rfl⟩
  · exact Or.inl rfl

theorem acknowledgeOutboxAt_cases {ack : AuthenticatedCheckpointAck} (store : PlayerLocalAuditStore) :
    RowCall store (store.acknowledgeOutboxAt index ack).1 (store.acknowledgeOutboxAt index ack).2 := by
  unfold acknowledgeOutboxAt
  split
  · exact Or.inl rfl
  rename_i current found
  split
  · rename_i acknowledged acknowledge
    obtain ⟨unacknowledged, acknowledges, rfl⟩ := acknowledgeCheckpointOutbox_cases acknowledge
    exact Or.inr ⟨.closed (outboxAt_eq_some found).2 unacknowledged acknowledges, _, rfl⟩
  · exact Or.inl rfl
  · exact Or.inl rfl

def Prepares (store : PlayerLocalAuditStore) (plan : PlayerLocalSealPlan) : Prop :=
  ∃ draft closure destinations,
    SealAdmits (store.sealSnapshot draft destinations) draft closure destinations ∧
      plan = ⟨sealPlan (store.sealSnapshot draft destinations) draft destinations, store.storageRevisionValue,
        destinations, closure.evidenceValue⟩

theorem prepareSeal_prepared {closure : TrustedEpochClosure} [StrOrder]
    (prepared : store.prepareSeal draft closure destinations = some (.playerLocalSealPrepared plan)) :
    SealAdmits (store.sealSnapshot draft destinations) draft closure destinations ∧
      plan = ⟨sealPlan (store.sealSnapshot draft destinations) draft destinations, store.storageRevisionValue,
        destinations, closure.evidenceValue⟩ := by
  obtain ⟨result, decided, answered⟩ := Option.map_eq_some_iff.mp prepared
  cases result with
  | atomicCheckpointSealPrepared runtimePlan =>
    obtain ⟨admits, rfl⟩ := prepareAtomicCheckpointSeal_prepared decided
    injection answered with same
    exact ⟨admits, same.symm⟩
  | checkpointSealAlreadyCommitted => cases answered
  | checkpointSealConflict reason => cases answered
  | checkpointSealRefused reason => cases answered

/-- A plan commits on the store it was prepared from, where none of the checks of a commit can fail. -/
theorem commitSeal_eq {closure : TrustedEpochClosure}
    (admits : SealAdmits (store.sealSnapshot draft destinations) draft closure destinations) :
    store.commitSeal ⟨sealPlan (store.sealSnapshot draft destinations) draft destinations, store.storageRevisionValue,
        destinations, closure.evidenceValue⟩ = (store.applySeal draft destinations, .playerLocalSealCommitted) := by
  have room : activeLocalOutboxCount store.outboxValue + destinations.length ≤ store.outboxCapacityValue := admits.room
  have fits : ¬ (activeLocalOutboxCount store.outboxValue +
      (sealEntries draft store.nextCreatedOrderValue destinations).length ≠
        activeLocalOutboxCount store.outboxValue + destinations.length ∨
      activeLocalOutboxCount store.outboxValue + destinations.length > store.outboxCapacityValue) := by
    rw [length_sealEntries]
    omega
  unfold commitSeal
  rw [if_neg (by simp)]
  dsimp only [sealPlan]
  rw [if_neg (by simp)]
  exact if_neg fits

end PlayerLocalAuditStore

end ConvergeAudit.Runtime
