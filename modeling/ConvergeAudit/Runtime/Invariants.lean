import ConvergeAudit.Runtime.Mutation

/-!
A store stays sound under every mutation, provided that no two open rows of its outbox are for one delivery.
-/

namespace ConvergeAudit.Runtime
open Moon Lib CheckpointOutboxEntry
open List hiding head after count

section
variable (sound : EventsSound boundary anchorEpoch events equivocations)
include sound

theorem EventsSound.stored (admissible : playerLocalEventRefusal boundary event = none)
    (retained : anchorEpoch < event.epoch) (fresh : ∀ accepted ∈ events, eventKey accepted ≠ eventKey event) :
    EventsSound boundary anchorEpoch (events ++ [event]) equivocations :=
  { sound with
    admissible := forall_mem_concat sound.admissible admissible
    retained := forall_mem_concat sound.retained retained
    keys_nodup := nodup_map_concat sound.keys_nodup fresh
    equivocates := by
      intro evidence member
      have known := sound.equivocates evidence member
      exact { known with accepted := mem_append_left _ known.accepted } }

theorem EventsSound.equivocated
    (equivocates : Equivocates boundary anchorEpoch events evidence)
    (fresh : ∀ known ∈ equivocations, known.accepted = evidence.accepted →
      known.conflicting.eventDigest ≠ evidence.conflicting.eventDigest) :
    EventsSound boundary anchorEpoch events (equivocations ++ [evidence]) := by
  refine { sound with
    equivocates := forall_mem_concat sound.equivocates equivocates
    conflicts_nodup := nodup_map_concat sound.conflicts_nodup ?_ }
  intro known present same
  obtain ⟨keys, digests⟩ := conflictKey_inj same
  exact fresh known present (inj_on_of_nodup_map sound.keys_nodup (sound.equivocates known present).accepted
    equivocates.accepted keys) digests

end

theorem CheckpointOutboxEntry.slot_eq_iff (left right : CheckpointOutboxEntry) :
    left.slot = right.slot ↔
      left.boundaryValue = right.boundaryValue ∧ left.destinationIdValue = right.destinationIdValue ∧
        left.epochValue = right.epochValue ∧ left.checkpointDigestValue = right.checkpointDigestValue ∧
        left.canonicalEnvelopeValue = right.canonicalEnvelopeValue ∧
        left.createdOrderValue = right.createdOrderValue := by
  simp [slot, withState]

/-- Rows for one destination and epoch have all been acknowledged, unless there is only one. -/
def Settled (outbox : List CheckpointOutboxEntry) : Prop :=
  outbox.Pairwise fun left right =>
    left.destinationIdValue = right.destinationIdValue → left.epochValue = right.epochValue →
      left.stateValue = .outboxAcknowledgedState ∧ right.stateValue = .outboxAcknowledgedState

instance (outbox : List CheckpointOutboxEntry) : Decidable (Settled outbox) :=
  inferInstanceAs (Decidable (outbox.Pairwise _))

theorem activeLocalOutboxCount_eq :
    activeLocalOutboxCount entries = (entries.countP fun entry => entry.stateValue ≠ .outboxAcknowledgedState : ℕ) := by
  have counted : ∀ start : ℤ, entries.foldl
      (fun count entry => if entry.stateValue ≠ .outboxAcknowledgedState then count + 1 else count) start =
        start + (entries.countP fun entry => entry.stateValue ≠ .outboxAcknowledgedState : ℕ) := by
    induction entries with
    | nil => simp
    | cons entry rest ih =>
      intro start
      rw [foldl_cons, ih, countP_cons]
      by_cases acknowledged : entry.stateValue = .outboxAcknowledgedState
      · simp [acknowledged]
      · simp [acknowledged]
        omega
  rw [activeLocalOutboxCount, counted, Int.zero_add]

theorem settled_iff (outbox : List CheckpointOutboxEntry) :
    Settled outbox ↔ ∀ (i j : ℕ) (left right : CheckpointOutboxEntry), i ≠ j → outbox[i]? = some left →
      outbox[j]? = some right → left.destinationIdValue = right.destinationIdValue → left.epochValue = right.epochValue →
        left.stateValue = .outboxAcknowledgedState := by
  unfold Settled
  rw [pairwise_iff_getElem]
  constructor
  · intro settled i j left right different foundLeft foundRight destinations epochs
    obtain ⟨insideLeft, rfl⟩ := List.getElem?_eq_some_iff.mp foundLeft
    obtain ⟨insideRight, rfl⟩ := List.getElem?_eq_some_iff.mp foundRight
    rcases Nat.lt_or_gt_of_ne different with before | after
    · exact (settled i j insideLeft insideRight before destinations epochs).1
    · exact (settled j i insideRight insideLeft after destinations.symm epochs.symm).2
  · intro settled i j insideLeft insideRight before destinations epochs
    have foundLeft := getElem?_eq_getElem insideLeft
    have foundRight := getElem?_eq_getElem insideRight
    exact ⟨settled i j _ _ (Nat.ne_of_lt before) foundLeft foundRight destinations epochs,
      settled j i _ _ (Nat.ne_of_gt before) foundRight foundLeft destinations.symm epochs.symm⟩

/-- Row `index` is replaced by one that differs in its state at most. -/
structure Rewrites (outbox : List CheckpointOutboxEntry) (index : ℕ) (entry row : CheckpointOutboxEntry) : Prop where
  found : outbox[index]? = some entry
  unacknowledged : entry.stateValue ≠ .outboxAcknowledgedState
  slot : row.slot = entry.slot
  deadline : ∀ lease, row.stateValue = .outboxInFlight lease → 0 ≤ lease

namespace Rewrites

theorem of_leases (found : outbox[index]? = some entry) (leases : Leases entry row) : Rewrites outbox index entry row :=
  ⟨found, leases.unacknowledged, leases.slot, leases.deadline⟩

theorem of_close (found : outbox[index]? = some entry)
    (unacknowledged : entry.stateValue ≠ .outboxAcknowledgedState) :
    Rewrites outbox index entry (entry.withState .outboxAcknowledgedState) :=
  ⟨found, unacknowledged, rfl, fun lease inFlight => by cases inFlight⟩

section
variable (rewrites : Rewrites outbox index entry row)
include rewrites

theorem map_slot : (outbox.set index row).map CheckpointOutboxEntry.slot = outbox.map CheckpointOutboxEntry.slot := by
  obtain ⟨inside, rfl⟩ := List.getElem?_eq_some_iff.mp rewrites.found
  rw [map_set, rewrites.slot]
  refine ext_getElem (by simp) ?_
  intro position _ _
  rw [getElem_set]
  split
  · rename_i same
    subst same
    rw [getElem_map]
  · rfl

theorem map_eq (read : CheckpointOutboxEntry → γ)
    (stable : ∀ entry : CheckpointOutboxEntry, read entry.slot = read entry) :
    (outbox.set index row).map read = outbox.map read := by
  have same := congrArg (List.map read) rewrites.map_slot
  rw [map_map, map_map] at same
  have composed : read ∘ CheckpointOutboxEntry.slot = read := funext stable
  rw [composed] at same
  exact same

theorem exists_of_mem (member : other ∈ outbox) : ∃ kept ∈ outbox.set index row, kept.slot = other.slot := by
  have present : other.slot ∈ outbox.map CheckpointOutboxEntry.slot := mem_map_of_mem member
  rw [← rewrites.map_slot] at present
  exact mem_map.mp present

theorem mem_of_acknowledged (member : other ∈ outbox) (acknowledged : other.stateValue = .outboxAcknowledgedState) :
    other ∈ outbox.set index row := by
  obtain ⟨position, found⟩ := getElem?_of_mem member
  have elsewhere : index ≠ position := by
    rintro rfl
    rw [rewrites.found, Option.some_inj] at found
    rw [found] at rewrites
    exact rewrites.unacknowledged acknowledged
  refine mem_of_getElem? (i := position) ?_
  rw [getElem?_set_ne elsewhere, found]

theorem count_le : activeLocalOutboxCount (outbox.set index row) ≤ activeLocalOutboxCount outbox := by
  obtain ⟨inside, rfl⟩ := List.getElem?_eq_some_iff.mp rewrites.found
  have positive : 0 < outbox.countP fun entry => entry.stateValue ≠ .outboxAcknowledgedState :=
    countP_pos_iff.mpr ⟨_, getElem_mem inside, by simpa using rewrites.unacknowledged⟩
  rw [activeLocalOutboxCount_eq, activeLocalOutboxCount_eq, countP_set inside]
  rw [if_pos (by simpa using rewrites.unacknowledged)]
  split <;> omega

theorem carries (carries : Carries boundary checkpoints entry) : Carries boundary checkpoints row := by
  obtain ⟨valid, sameBoundary, checkpoint⟩ := carries
  obtain ⟨validBoundary, destination, epoch, digest, envelope, order, _⟩ := (localOutboxRecordValid_iff entry).mp valid
  obtain ⟨boundaries, destinations, epochs, digests, envelopes, orders⟩ :=
    (slot_eq_iff row entry).mp rewrites.slot
  refine ⟨(localOutboxRecordValid_iff row).mpr ?_, by rw [boundaries, sameBoundary], ?_⟩
  · rw [boundaries, destinations, epochs, digests, envelopes, orders]
    exact ⟨validBoundary, destination, epoch, digest, envelope, order, rewrites.deadline⟩
  · rw [epochs, digests, envelopes]
    exact checkpoint

theorem outboxSound (sound : OutboxSound boundary checkpoints capacity nextCreatedOrder outbox) :
    OutboxSound boundary checkpoints capacity nextCreatedOrder (outbox.set index row) where
  carries := by
    intro other member
    rcases mem_or_eq_of_mem_set member with old | rfl
    · exact sound.carries other old
    · exact rewrites.carries (sound.carries entry (mem_of_getElem? rewrites.found))
  capacity := le_trans rewrites.count_le sound.capacity
  order_nonneg := sound.order_nonneg
  orders_nodup := by
    rw [rewrites.map_eq _ fun _ => rfl]
    exact sound.orders_nodup
  orders_below := by
    have below : ∀ order ∈ outbox.map createdOrderValue, order < nextCreatedOrder :=
      forall_mem_map.mpr sound.orders_below
    rw [← rewrites.map_eq _ fun _ => rfl] at below
    intro other member
    exact below _ (mem_map_of_mem member)
  sent := by
    intro checkpoint member
    obtain ⟨sent, present, epoch⟩ := sound.sent checkpoint member
    obtain ⟨kept, keptMember, slot⟩ := rewrites.exists_of_mem present
    obtain ⟨_, _, epochs, _⟩ := (slot_eq_iff kept sent).mp slot
    exact ⟨kept, keptMember, epochs.trans epoch⟩

theorem alone (settled : Settled outbox)
    (found : outbox[position]? = some other) (destinations : entry.destinationIdValue = other.destinationIdValue)
    (epochs : entry.epochValue = other.epochValue) : position = index := by
  by_contra different
  exact rewrites.unacknowledged
    ((settled_iff outbox).mp settled index position entry other (Ne.symm different) rewrites.found found destinations
      epochs)

theorem settled (settled : Settled outbox) : Settled (outbox.set index row) := by
  obtain ⟨_, destination, epoch, _⟩ := (slot_eq_iff row entry).mp rewrites.slot
  have inside := (List.getElem?_eq_some_iff.mp rewrites.found).1
  rw [settled_iff]
  intro i j left right different foundLeft foundRight destinations epochs
  rw [getElem?_set] at foundLeft foundRight
  by_cases here : index = i
  · subst here
    rw [if_pos rfl, if_pos inside, Option.some_inj] at foundLeft
    rw [if_neg different] at foundRight
    subst foundLeft
    exact absurd (rewrites.alone settled foundRight (destination.symm.trans destinations) (epoch.symm.trans epochs))
      (Ne.symm different)
  · rw [if_neg here] at foundLeft
    by_cases there : index = j
    · subst there
      rw [if_pos rfl, if_pos inside, Option.some_inj] at foundRight
      subst foundRight
      exact absurd (rewrites.alone settled foundLeft (destination.symm.trans destinations.symm)
        (epoch.symm.trans epochs.symm)) different
    · rw [if_neg there] at foundRight
      exact (settled_iff outbox).mp settled i j left right different foundLeft foundRight destinations epochs

theorem acksSound_leased (still : row.stateValue ≠ .outboxAcknowledgedState) (sound : AcksSound outbox ackHistory) :
    AcksSound (outbox.set index row) ackHistory where
  closes := by
    intro evidence member
    obtain ⟨closed, present, acknowledges, state⟩ := sound.closes evidence member
    exact ⟨closed, rewrites.mem_of_acknowledged present state, acknowledges, state⟩
  keys_nodup := sound.keys_nodup
  closed := by
    intro other member state
    rcases mem_or_eq_of_mem_set member with old | rfl
    · exact sound.closed other old state
    · exact absurd state still

end

theorem acksSound_closed (rewrites : Rewrites outbox index entry (entry.withState .outboxAcknowledgedState))
    (settled : Settled outbox) (acknowledges : Acknowledges evidence entry) (sound : AcksSound outbox ackHistory) :
    AcksSound (outbox.set index (entry.withState .outboxAcknowledgedState)) (ackHistory ++ [evidence]) where
  closes := by
    have inside := (List.getElem?_eq_some_iff.mp rewrites.found).1
    refine forall_mem_concat ?_ ?_
    · intro known member
      obtain ⟨closed, present, closes, state⟩ := sound.closes known member
      exact ⟨closed, rewrites.mem_of_acknowledged present state, closes, state⟩
    · exact ⟨_, mem_set inside _, { acknowledges with }, rfl⟩
  keys_nodup := by
    refine nodup_map_concat sound.keys_nodup ?_
    intro known present same
    -- an acknowledgement with this key has closed a second row for the same delivery
    obtain ⟨authorities, epochs, _⟩ := localAckKey_inj same
    obtain ⟨closed, closedMember, closes, state⟩ := sound.closes known present
    obtain ⟨position, found⟩ := getElem?_of_mem closedMember
    have position_eq := rewrites.alone settled found
      (acknowledges.authority.symm.trans (authorities.symm.trans closes.authority))
      (acknowledges.epoch.symm.trans (epochs.symm.trans closes.epoch))
    rw [position_eq, rewrites.found, Option.some_inj] at found
    rw [found] at rewrites
    exact rewrites.unacknowledged state
  closed := by
    intro other member state
    rcases mem_or_eq_of_mem_set member with old | rfl
    · obtain ⟨known, present, closes⟩ := sound.closed other old state
      exact ⟨known, mem_append_left _ present, closes⟩
    · exact ⟨evidence, by simp, { acknowledges with }⟩

end Rewrites

theorem mem_sealEntries (member : entry ∈ sealEntries draft createdOrder destinations) :
    ∃ (index : ℕ) (destination : Str), destinations[index]? = some destination ∧
      entry = sealEntry draft (createdOrder + index) destination := by
  obtain ⟨index, found⟩ := getElem?_of_mem member
  rw [getElem?_sealEntries] at found
  obtain ⟨destination, located, rfl⟩ := Option.map_eq_some_iff.mp found
  exact ⟨index, destination, located, rfl⟩

theorem map_destination_sealEntries (destinations : List Str) :
    (sealEntries draft createdOrder destinations).map CheckpointOutboxEntry.destinationIdValue = destinations := by
  induction destinations generalizing createdOrder with
  | nil => rfl
  | cons destination rest ih => rw [sealEntries, map_cons, ih, sealEntry]

theorem sealEntries_orders_nodup (createdOrder : ℤ) (destinations : List Str) :
    ((sealEntries draft createdOrder destinations).map createdOrderValue).Nodup := by
  induction destinations generalizing createdOrder with
  | nil => exact nodup_nil
  | cons destination rest ih =>
    rw [sealEntries, map_cons, nodup_cons]
    refine ⟨?_, ih (createdOrder + 1)⟩
    intro member
    obtain ⟨entry, present, order⟩ := mem_map.mp member
    obtain ⟨index, other, _, rfl⟩ := mem_sealEntries present
    simp only [sealEntry] at order
    omega

theorem checkpointForEpoch_append (found : checkpointForEpoch checkpoints epoch = some checkpoint) :
    checkpointForEpoch (checkpoints ++ later) epoch = some checkpoint := by
  unfold checkpointForEpoch at found ⊢
  rw [find?_append, found, Option.some_or]

theorem Carries.append {boundary : AuditBoundary} (carries : Carries boundary checkpoints entry)
    (later : List CheckpointSealDraft) : Carries boundary (checkpoints ++ later) entry := by
  obtain ⟨valid, sameBoundary, checkpoint, found, same⟩ := carries
  exact ⟨valid, sameBoundary, checkpoint, checkpointForEpoch_append found, same⟩

theorem HoldsSound.append (sound : HoldsSound boundary checkpoints holds) (later : List CheckpointSealDraft) :
    HoldsSound boundary (checkpoints ++ later) holds := by
  refine ⟨?_, sound.ids_nodup⟩
  intro hold member
  have valid := sound.valid hold member
  unfold evidenceHoldValid at valid ⊢
  cases found : checkpointForEpoch checkpoints hold.epoch with
  | none => simp [found] at valid
  | some checkpoint =>
    rw [found] at valid
    rw [checkpointForEpoch_append found]
    exact valid

section
variable {store : PlayerLocalAuditStore} {closure : TrustedEpochClosure}

variable (admits : SealAdmits (store.sealSnapshot draft destinations) draft closure destinations)
include admits

theorem SealAdmits.unsealed : checkpointForEpoch store.checkpointsValue draft.epoch = none :=
  Option.isSome_eq_false_iff.mp admits.unknown |> Option.isNone_iff_eq_none.mp

theorem SealAdmits.carries (order : 0 ≤ createdOrder) (member : entry ∈ sealEntries draft createdOrder destinations) :
    Carries store.boundaryValue (store.checkpointsValue ++ [draft]) entry := by
  obtain ⟨index, destination, located, rfl⟩ := mem_sealEntries member
  obtain ⟨validBoundary, epoch, _, digest, envelope⟩ := sealDraftValid_iff.mp admits.draft_valid
  have named : destination ≠ Str.empty := by
    rintro rfl
    exact admits.destinations_valid.named (mem_of_getElem? located)
  have sealed : checkpointForEpoch (store.checkpointsValue ++ [draft]) draft.epoch = some draft := by
    have unsealed := admits.unsealed
    unfold checkpointForEpoch at unsealed ⊢
    rw [find?_append, unsealed]
    simp
  refine ⟨(localOutboxRecordValid_iff _).mpr ?_, admits.boundary.symm, draft, sealed, rfl, rfl⟩
  exact ⟨validBoundary, named, epoch, digest, envelope, by simp only [sealEntry]; omega, nofun⟩

variable (sound : Sound store)
include sound

theorem Sound.epoch_lt (member : entry ∈ store.outboxValue) : entry.epochValue < draft.epoch := by
  obtain ⟨checkpoint, found, _⟩ := (sound.outbox.carries entry member).checkpoint
  obtain ⟨present, epoch⟩ := sound.chain.checkpointForEpoch_iff.mp found
  have bound := sound.chain.epoch_le present
  have next : draft.epoch = store.headValue.epoch + 1 := admits.next
  omega

theorem Sound.outbox_applySeal :
    OutboxSound store.boundaryValue (store.checkpointsValue ++ [draft]) store.outboxCapacityValue
      (store.nextCreatedOrderValue + destinations.length)
      (store.outboxValue ++ sealEntries draft store.nextCreatedOrderValue destinations) where
  carries := by
    refine forall_mem_append.mpr ⟨?_, ?_⟩
    · intro entry member
      exact (sound.outbox.carries entry member).append _
    · intro entry member
      exact admits.carries sound.outbox.order_nonneg member
  capacity := by
    have room : activeLocalOutboxCount store.outboxValue + destinations.length ≤ store.outboxCapacityValue := admits.room
    have filed : (sealEntries draft store.nextCreatedOrderValue destinations).countP
        (fun entry => entry.stateValue ≠ .outboxAcknowledgedState) ≤ destinations.length := by
      rw [← length_sealEntries]
      exact countP_le_length
    rw [activeLocalOutboxCount_eq] at room ⊢
    rw [countP_append]
    omega
  order_nonneg := by
    have order := sound.outbox.order_nonneg
    omega
  orders_nodup := by
    rw [map_append, nodup_append']
    refine ⟨sound.outbox.orders_nodup, sealEntries_orders_nodup _ _, ?_⟩
    intro order old new
    obtain ⟨entry, member, rfl⟩ := mem_map.mp old
    obtain ⟨filed, filedMember, same⟩ := mem_map.mp new
    obtain ⟨index, destination, _, rfl⟩ := mem_sealEntries filedMember
    have below := sound.outbox.orders_below entry member
    simp only [sealEntry] at same
    omega
  orders_below := by
    refine forall_mem_append.mpr ⟨?_, ?_⟩
    · intro entry member
      have below := sound.outbox.orders_below entry member
      omega
    · intro entry member
      obtain ⟨index, destination, located, rfl⟩ := mem_sealEntries member
      have inside := (List.getElem?_eq_some_iff.mp located).1
      simp only [sealEntry]
      omega
  sent := by
    refine forall_mem_concat ?_ ?_
    · intro checkpoint member
      obtain ⟨entry, present, epoch⟩ := sound.outbox.sent checkpoint member
      exact ⟨entry, mem_append_left _ present, epoch⟩
    · obtain ⟨first, rest, rfl⟩ := exists_cons_of_ne_nil admits.destinations_valid.nonempty
      exact ⟨sealEntry draft store.nextCreatedOrderValue first, by simp [sealEntries], rfl⟩

theorem Sound.settled_applySeal (settled : Settled store.outboxValue) :
    Settled (store.outboxValue ++ sealEntries draft store.nextCreatedOrderValue destinations) := by
  unfold Settled
  rw [pairwise_append]
  refine ⟨settled, ?_, ?_⟩
  · -- the destinations of one seal are distinct
    have distinct := admits.destinations_valid.nodup
    rw [← map_destination_sealEntries destinations] at distinct
    exact (pairwise_map.mp distinct).imp fun different same => absurd same different
  · intro old oldMember new newMember _ epochs
    obtain ⟨index, destination, _, rfl⟩ := mem_sealEntries newMember
    have earlier := sound.epoch_lt admits oldMember
    simp only [sealEntry] at epochs
    omega

theorem Sound.applySeal : Sound (store.applySeal draft destinations) := by
  obtain ⟨_, _, _, digest, envelope⟩ := sealDraftValid_iff.mp admits.draft_valid
  refine { sound with
    revision_nonneg := Int.add_nonneg sound.revision_nonneg zero_le_one
    chain := .link sound.chain admits.boundary.symm admits.next admits.parent digest envelope
    head_boundary := admits.boundary.symm
    consumed := forall_mem_concat (fun checkpoint member => mem_append_left _ (sound.consumed checkpoint member))
      (mem_append_right _ (mem_singleton_self _))
    holds := sound.holds.append _
    outbox := sound.outbox_applySeal admits
    acks := ⟨?_, sound.acks.keys_nodup, forall_mem_append.mpr ⟨sound.acks.closed, ?_⟩⟩ }
  · intro evidence member
    obtain ⟨entry, present, closes⟩ := sound.acks.closes evidence member
    exact ⟨entry, mem_append_left _ present, closes⟩
  · intro entry member acknowledged
    obtain ⟨index, destination, _, rfl⟩ := mem_sealEntries member
    cases acknowledged

end

namespace Mutates

section
variable (mutates : Mutates store after)
include mutates

theorem revision : after.storageRevisionValue = store.storageRevisionValue + 1 := by
  cases mutates <;> rfl

theorem retentionAnchor : after.retentionAnchorValue = store.retentionAnchorValue := by
  cases mutates <;> rfl

theorem checkpoints : store.checkpointsValue <+: after.checkpointsValue := by
  cases mutates with
  | sealed admits => exact prefix_append _ _
  | stored | equivocated | leased | closed => exact prefix_refl _

/-- A row is only closed while it is the only open one for its delivery. -/
theorem sound_and_settled (sound : Sound store) (settled : Settled store.outboxValue) :
    Sound after ∧ Settled after.outboxValue := by
  have revision : 0 ≤ store.storageRevisionValue + 1 := by
    have := sound.revision_nonneg
    omega
  cases mutates with
  | stored admissible retained fresh =>
    exact ⟨{ sound with
      revision_nonneg := revision
      events := sound.events.stored admissible retained fresh }, settled⟩
  | equivocated equivocates fresh =>
    exact ⟨{ sound with
      revision_nonneg := revision
      events := sound.events.equivocated equivocates fresh }, settled⟩
  | sealed admits => exact ⟨sound.applySeal admits, sound.settled_applySeal admits settled⟩
  | leased found leases =>
    have rewrites := Rewrites.of_leases found leases
    exact ⟨{ sound with
      revision_nonneg := revision
      outbox := rewrites.outboxSound sound.outbox
      acks := rewrites.acksSound_leased leases.still sound.acks }, rewrites.settled settled⟩
  | @closed index entry evidence found unacknowledged acknowledges =>
    have rewrites := Rewrites.of_close found unacknowledged
    exact ⟨{ sound with
      revision_nonneg := revision
      outbox := rewrites.outboxSound sound.outbox
      acks := rewrites.acksSound_closed settled acknowledges sound.acks }, rewrites.settled settled⟩

end

end Mutates

end ConvergeAudit.Runtime
