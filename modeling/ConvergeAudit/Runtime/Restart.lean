import ConvergeAudit.Runtime.Runs

/-!
What a restart finds again: the whole store of a run that started empty, and of any accepted image whose outbox has at
most one open row for a delivery.
-/

namespace ConvergeAudit.Runtime
open Moon List PlayerLocalAuditStore

theorem ofImage_durableImage (store : PlayerLocalAuditStore) :
    ofImage store.durableImage = store := by
  have rows : store.outboxValue = (ofImage store.durableImage).outboxValue := by
    rw [ofImage, durableImage, map_map]
    exact (map_id _).symm
  obtain ⟨⟩ := store
  simp only [ofImage, storeOfImage, durableImage, mk.injEq, true_and, and_true]
  exact rows.symm

/-- A restart succeeds exactly if the store is sound. -/
theorem restore_ready_iff :
    (∃ restored, restorePlayerLocalAuditStore store.durableImage = .playerLocalAuditStoreReady restored) ↔
      Sound store := by
  constructor
  · rintro ⟨restored, ready⟩
    obtain ⟨image, sound⟩ := (restore_eq_ready_iff _).mp ready
    have same : restored = store := by rw [← ofImage_durableImage restored, image, ofImage_durableImage]
    rw [same] at sound
    exact sound
  · intro sound
    exact ⟨store, sound.restore_eq⟩

section
variable [StrOrder]

/-- A restart is transparent in every run that started with an empty store. -/
theorem Reachable.restart_transparent {session : Session} (reachable : Reachable session) :
    ∃ restored,
      restorePlayerLocalAuditStore session.store.durableImage = .playerLocalAuditStoreReady restored ∧
        restored.durableImage = session.store.durableImage ∧
        ∀ plans calls, (Session.mk restored plans).answers calls = (Session.mk session.store plans).answers calls :=
  ⟨session.store, reachable.healthy.sound.restore_eq, rfl, fun _ _ => rfl⟩

end

open Sample Shortlex in
theorem restart_transparent_sample :
    ((Session.mk store []).after (sealing ++ [.acknowledgeOutboxAt 0 ack])).store.ackHistoryValue =
        [ack.evidenceValue] ∧
      ∃ restored,
        restorePlayerLocalAuditStore ((Session.mk store []).after
            (sealing ++ [.acknowledgeOutboxAt 0 ack])).store.durableImage =
          .playerLocalAuditStoreReady restored ∧
        restored.durableImage = ((Session.mk store []).after
          (sealing ++ [.acknowledgeOutboxAt 0 ack])).store.durableImage ∧
        ∀ plans calls, (Session.mk restored plans).answers calls =
          (Session.mk ((Session.mk store []).after
            (sealing ++ [.acknowledgeOutboxAt 0 ack])).store plans).answers calls := by
  have opened : openPlayerLocalAuditStore boundary genesis 2 =
      .playerLocalAuditStoreReady store := by decide +kernel
  exact ⟨by decide +kernel, Reachable.restart_transparent ((Reachable.opened opened).after _)⟩

def acceptance (entry : CheckpointOutboxEntry) (valid : localOutboxRecordValid (localOutboxRecord entry) = true) :
    AuthenticatedCheckpointAck :=
  have checked := (localOutboxRecordValid_iff entry).mp valid
  ⟨⟨entry.boundaryValue, entry.destinationIdValue, entry.epochValue, entry.checkpointDigestValue, .checkpointAccepted⟩,
    checked.1, checked.2.1, checked.2.2.1, checked.2.2.2.1⟩

theorem acceptance_acknowledges (valid : localOutboxRecordValid (localOutboxRecord entry) = true) :
    Acknowledges (acceptance entry valid).evidenceValue entry :=
  ⟨rfl, rfl, rfl, rfl, Or.inl rfl⟩

variable {store : PlayerLocalAuditStore}

theorem Sound.localAckKey_eq (sound : Sound store) (leftMember : left ∈ store.outboxValue)
    (rightMember : right ∈ store.outboxValue) (destinations : left.destinationIdValue = right.destinationIdValue)
    (epochs : left.epochValue = right.epochValue) (leftClosed : Acknowledges first left)
    (rightClosed : Acknowledges second right) : localAckKey first = localAckKey second := by
  obtain ⟨leftCheckpoint, leftFound, leftDigest, _⟩ := (sound.outbox.carries left leftMember).checkpoint
  obtain ⟨rightCheckpoint, rightFound, rightDigest, _⟩ := (sound.outbox.carries right rightMember).checkpoint
  rw [epochs, rightFound, Option.some_inj] at leftFound
  have digests : left.checkpointDigestValue = right.checkpointDigestValue := by
    rw [← leftDigest, ← rightDigest, leftFound]
  have authority : first.authorityId = second.authorityId := by
    rw [leftClosed.authority, destinations, rightClosed.authority]
  have epoch : first.epoch = second.epoch := by rw [leftClosed.epoch, epochs, rightClosed.epoch]
  have digest : first.checkpointDigest = second.checkpointDigest := by
    rw [leftClosed.digest, digests, rightClosed.digest]
  simp [localAckKey, authority, epoch, digest]

theorem not_sound_close (present : known ∈ store.ackHistoryValue) (same : localAckKey known = localAckKey evidence) :
    ¬ Sound (store.close index entry evidence) := by
  intro sound
  have distinct := sound.acks.keys_nodup
  rw [close, map_append, nodup_append'] at distinct
  exact distinct.2.2 (mem_map_of_mem present) (by simp [same])

section
variable [StrOrder]

theorem Session.step_acknowledge {ack : AuthenticatedCheckpointAck} {session : Session} {index : ℕ}
    (found : session.store.outboxValue[index]? = some entry)
    (unacknowledged : entry.stateValue ≠ .outboxAcknowledgedState)
    (acknowledges : Acknowledges ack.evidenceValue entry) :
    (session.step (.acknowledgeOutboxAt index ack)).1.store = session.store.close index entry ack.evidenceValue := by
  have inside := (List.getElem?_eq_some_iff.mp found).1
  have located : session.store.outboxAt index = some entry := by
    rw [outboxAt, if_neg (by omega), Int.toNat_natCast, found]
  dsimp only [step, acknowledgeOutboxAt]
  rw [located]
  dsimp only
  rw [acknowledgeCheckpointOutbox_of acknowledges unacknowledged]
  rfl

/-- Acknowledging both rows of one delivery ruins the store. -/
theorem Sound.exists_unsound (sound : Sound store) (unsettled : ¬ Settled store.outboxValue) :
    ∃ calls, ¬ Sound ((Session.mk store []).after calls).store := by
  rw [settled_iff] at unsettled
  push Not at unsettled
  obtain ⟨i, j, left, right, different, leftFound, rightFound, destinations, epochs, leftOpen⟩ := unsettled
  have leftMember := mem_of_getElem? leftFound
  have rightMember := mem_of_getElem? rightFound
  have leftValid := (sound.outbox.carries left leftMember).valid
  have rightValid := (sound.outbox.carries right rightMember).valid
  have leftCloses := acceptance_acknowledges leftValid
  have rightCloses := acceptance_acknowledges rightValid
  have closed : ((Session.mk store []).step (.acknowledgeOutboxAt i (acceptance left leftValid))).1.store =
      store.close i left (acceptance left leftValid).evidenceValue :=
    Session.step_acknowledge leftFound leftOpen leftCloses
  by_cases rightOpen : right.stateValue = .outboxAcknowledgedState
  · -- the other row was closed before, so its acknowledgement is in the history
    obtain ⟨known, present, knownCloses⟩ := sound.acks.closed right rightMember rightOpen
    refine ⟨[.acknowledgeOutboxAt i (acceptance left leftValid)], ?_⟩
    rw [Session.after_cons, Session.after_nil, closed]
    exact not_sound_close present
      (sound.localAckKey_eq rightMember leftMember destinations.symm epochs.symm knownCloses leftCloses)
  · refine ⟨[.acknowledgeOutboxAt i (acceptance left leftValid),
      .acknowledgeOutboxAt j (acceptance right rightValid)], ?_⟩
    have rightStill : (store.close i left (acceptance left leftValid).evidenceValue).outboxValue[j]? = some right := by
      rw [close, getElem?_set_ne different]
      exact rightFound
    rw [← closed] at rightStill
    have both := Session.step_acknowledge rightStill rightOpen rightCloses
    rw [Session.after_cons, Session.after_cons, Session.after_nil, both, closed]
    refine not_sound_close ?_
      (sound.localAckKey_eq leftMember rightMember destinations epochs leftCloses rightCloses)
    exact mem_append_right _ (mem_singleton_self _)

/-- An accepted image stays restorable under every run exactly if its outbox is settled. -/
theorem restored_stays_restorable_iff {image : PlayerLocalAuditImage} {store : PlayerLocalAuditStore}
    (accepted : restorePlayerLocalAuditStore image = .playerLocalAuditStoreReady store) :
    (∀ calls, ∃ restored,
        restorePlayerLocalAuditStore ((Session.mk store []).after calls).store.durableImage =
          .playerLocalAuditStoreReady restored) ↔
      Settled store.outboxValue := by
  obtain ⟨_, sound⟩ := (restore_eq_ready_iff store).mp accepted
  simp only [restore_ready_iff]
  constructor
  · intro restorable
    by_contra unsettled
    obtain ⟨calls, unsound⟩ := sound.exists_unsound unsettled
    exact unsound (restorable calls)
  · intro settled calls
    have healthy : Session.Healthy ⟨store, []⟩ := ⟨sound, settled, by simp⟩
    exact (healthy.after calls).sound

end

def Sample.listed (states : List CheckpointOutboxState) : PlayerLocalAuditImage where
  boundary := boundary
  genesisDigest := genesis
  outboxCapacity := 2
  events := []
  equivocations := []
  checkpoints := [draft]
  head := ⟨boundary, 0, ⟨lit "digest"⟩⟩
  retentionAnchor := ⟨boundary, -1, genesis⟩
  evidenceHolds := []
  evidenceInboxCursors := []
  evidencePollJobs := []
  consumedClosureEpochs := [0]
  outbox := states.mapIdx fun order state =>
    ⟨boundary, lit "tower", 0, ⟨lit "digest"⟩, lit "envelope", order, state⟩
  ackHistory := []
  nextCreatedOrder := 2
  storageRevision := 1

section
open Shortlex

open Sample in
/-- With one open row the image stays restorable whatever is called. -/
theorem restored_stays_restorable_once :
    restorePlayerLocalAuditStore (listed [.outboxPending]) =
        .playerLocalAuditStoreReady (.ofImage (listed [.outboxPending])) ∧
      ∀ calls, ∃ restored,
        restorePlayerLocalAuditStore
            ((Session.mk (.ofImage (listed [.outboxPending])) []).after calls).store.durableImage =
          .playerLocalAuditStoreReady restored := by
  have accepted : restorePlayerLocalAuditStore (listed [.outboxPending]) =
      .playerLocalAuditStoreReady (.ofImage (listed [.outboxPending])) := by decide +kernel
  exact ⟨accepted, (restored_stays_restorable_iff accepted).mpr (by decide +kernel)⟩

open Sample in
/-- With two of them, acknowledging both leaves a store that cannot be restarted. -/
theorem repeated_row_breaks_restart :
    restorePlayerLocalAuditStore (listed [.outboxPending, .outboxPending]) =
        .playerLocalAuditStoreReady (.ofImage (listed [.outboxPending, .outboxPending])) ∧
      restorePlayerLocalAuditStore
          ((Session.mk (.ofImage (listed [.outboxPending, .outboxPending])) []).after
            [.acknowledgeOutboxAt 0 ack, .acknowledgeOutboxAt 1 ack]).store.durableImage =
        .playerLocalAuditStoreRefused .localStoreInvalidImage := by
  decide +kernel

end

end ConvergeAudit.Runtime
