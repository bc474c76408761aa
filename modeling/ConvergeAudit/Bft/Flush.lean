import ConvergeAudit.Bft.Adapter

/-!
A flush without its queue: some buffered events are settled one after the other, the others still lack a dependency.
-/

namespace ConvergeAudit.Bft.AuditAdapter
open Moon Lib List ReadyQueue SignedEvent

section
variable {self : AuditAdapter}

theorem dependenciesMatch_iff : self.dependenciesMatch signed = true ↔
    signed.event.deps.length = signed.depHashes.length ∧
      ∀ pair ∈ signed.pairs, self.digestIds.get pair.2.text = some pair.1 := by
  unfold dependenciesMatch
  split
  · rename_i different
    simp [different]
  · rename_i same
    rw [all_eq_true]
    constructor
    · intro all
      refine ⟨not_not.mp same, ?_⟩
      rintro ⟨dep, digest⟩ member
      have known := all (dep, digest) member
      cases found : self.digestIds.get digest.text with
      | none => simp [found] at known
      | some id => simpa [found] using known
    · rintro ⟨_, known⟩ ⟨dep, digest⟩ member
      have found := known (dep, digest) member
      simp [found]

theorem settleEvent_of_match (matched : self.dependenciesMatch signed = true) :
    self.settleEvent signed =
      ({ self.record signed with flushedEvents := self.flushedEvents ++ [authenticatedEvent signed] },
        some signed.digest.text) := by
  simp [settleEvent, matched]

theorem settleEvent_of_mismatch (mismatched : self.dependenciesMatch signed = false) :
    self.settleEvent signed =
      ({ self with flushedAlerts := self.flushedAlerts ++ [dependencyMismatchAlert signed] }, none) := by
  simp [settleEvent, mismatched]

theorem settleEvent_pending : (self.settleEvent signed).1.pendingBuffer = self.pendingBuffer := by
  unfold settleEvent
  split <;> rfl

theorem settleEvent_contains : (self.settleEvent signed).1.digestStore.contains dep =
    (self.digestStore.contains dep || decide (dep ∈ (self.settleEvent signed).2.toList)) := by
  cases matched : self.dependenciesMatch signed with
  | true =>
    simp only [settleEvent_of_match matched, record, Map.contains_set, Option.toList_some, mem_singleton]
    exact Bool.or_comm _ _
  | false => simp [settleEvent_of_mismatch matched]

end

def settleEvents (self : AuditAdapter) (batch : List SignedEvent) : AuditAdapter :=
  batch.foldl (fun adapter signed => (adapter.settleEvent signed).1) self

@[simp] theorem settleEvents_nil (self : AuditAdapter) : self.settleEvents [] = self := rfl

@[simp] theorem settleEvents_cons (self : AuditAdapter) (signed : SignedEvent) (rest : List SignedEvent) :
    self.settleEvents (signed :: rest) = (self.settleEvent signed).1.settleEvents rest := rfl

def eventsAt (self : AuditAdapter) (order : List Nat) : List SignedEvent :=
  order.filterMap fun i => self.pendingBuffer[i]?

theorem eventsAt_append (self : AuditAdapter) (front back : List Nat) :
    self.eventsAt (front ++ back) = self.eventsAt front ++ self.eventsAt back := filterMap_append

theorem settleAll_settle (self : AuditAdapter) (order : List Nat) :
    (settleAll settle self order).1 = self.settleEvents (self.eventsAt order) ∧
    (settleAll settle self order).2.Sublist ((self.eventsAt order).map fun signed => signed.digest.text) ∧
    ∀ dep, (self.settleEvents (self.eventsAt order)).digestStore.contains dep =
      (self.digestStore.contains dep || decide (dep ∈ (settleAll settle self order).2)) := by
  induction order generalizing self with
  | nil => simp [settleAll, eventsAt]
  | cons i rest ih =>
    cases found : self.pendingBuffer[i]? with
    | none =>
      have stays : self.settle i = (self, none) := by simp [settle, found]
      have same : self.eventsAt (i :: rest) = self.eventsAt rest := by simp [eventsAt, found]
      simpa [settleAll, stays, same] using ih self
    | some signed =>
      have settles : self.settle i = self.settleEvent signed := by simp [settle, found]
      have buffer : ∀ order, (self.settleEvent signed).1.eventsAt order = self.eventsAt order := by
        simp [eventsAt, settleEvent_pending]
      have events : self.eventsAt (i :: rest) = signed :: self.eventsAt rest := by simp [eventsAt, found]
      obtain ⟨world, keys, store⟩ := ih (self.settleEvent signed).1
      rw [buffer] at world keys store
      refine ⟨?_, ?_, ?_⟩
      · simp [settleAll, settles, events, world]
      · simp only [settleAll, settles, events, map_cons]
        cases matched : self.dependenciesMatch signed with
        | true =>
          have key : (self.settleEvent signed).2 = some signed.digest.text := by rw [settleEvent_of_match matched]
          simpa [key] using keys
        | false =>
          have key : (self.settleEvent signed).2 = none := by rw [settleEvent_of_mismatch matched]
          simpa [key] using keys.trans (sublist_cons_self _ _)
      · intro dep
        rw [events, settleEvents_cons, store dep, settleEvent_contains]
        simp [settleAll, settles, Bool.or_assoc]

theorem remaining_eq (processed : List Bool) (pending : List SignedEvent) (length : processed.length = pending.length) :
    remaining processed pending = ((List.range pending.length).filter fun i => !processed.getD i false).filterMap
      fun i => pending[i]? := by
  induction pending generalizing processed with
  | nil => simp [remaining]
  | cons signed rest ih =>
    cases processed with
    | nil => simp at length
    | cons done processed =>
      have tail := ih processed (Nat.succ.inj length)
      simp only [remaining] at tail
      rw [length_cons, range_succ_eq_map, filter_cons]
      cases done with
      | true =>
        simp only [remaining, zip_cons_cons, filterMap_cons, Bool.not_true, Bool.false_eq_true, if_false, tail,
          getD_cons_zero, filter_map, filterMap_map]
        rfl
      | false =>
        simp only [remaining, zip_cons_cons, filterMap_cons, Bool.not_false, if_true, tail,
          getD_cons_zero, filter_map, filterMap_map, getElem?_cons_zero]
        rfl

theorem filterMap_range_getElem? : (List.range items.length).filterMap (fun i => items[i]?) = items := by
  induction items with
  | nil => rfl
  | cons x rest ih =>
    rw [length_cons, range_succ_eq_map, filterMap_cons, getElem?_cons_zero, filterMap_map]
    exact congrArg (x :: ·) ih

theorem eventsAt_perm (self : AuditAdapter) (once : order.Nodup) (bound : ∀ i ∈ order, i < self.pendingBuffer.length)
    (length : processed.length = self.pendingBuffer.length)
    (listed : ∀ i, i < self.pendingBuffer.length → (processed.getD i false = true ↔ i ∈ order)) :
    (self.eventsAt order ++ remaining processed self.pendingBuffer).Perm self.pendingBuffer := by
  have positions : (order ++ (List.range self.pendingBuffer.length).filter fun i => !processed.getD i false).Perm
      (List.range self.pendingBuffer.length) := by
    apply (perm_ext_iff_of_nodup _ nodup_range).mpr
    · intro i
      simp only [mem_append, mem_filter, mem_range, Bool.not_eq_true']
      constructor
      · rintro (settled | ⟨inside, -⟩)
        · exact bound i settled
        · exact inside
      · intro inside
        cases done : processed.getD i false with
        | true => exact Or.inl ((listed i inside).mp done)
        | false => exact Or.inr ⟨inside, rfl⟩
    · apply List.Nodup.append once (nodup_range.filter _)
      intro i settled open_
      obtain ⟨range, undone⟩ := mem_filter.mp open_
      have done := (listed i (bound i settled)).mpr settled
      simp only [done, Bool.not_true, Bool.false_eq_true] at undone
  have events := positions.filterMap fun i => self.pendingBuffer[i]?
  rw [filterMap_append, filterMap_range_getElem?] at events
  rwa [remaining_eq processed _ length]

/-- A flush settles a batch of buffered events, one after the other. The rest of the buffer stays,
and each event in it lacks a dependency. If the buffered digests are all different, every event of
the batch has its dependencies in the store when it is settled. -/
theorem tryFlush_spec (self : AuditAdapter) :
    ∃ batch rest : List SignedEvent, (batch ++ rest).Perm self.pendingBuffer ∧
      self.tryFlush = { self.settleEvents batch with pendingBuffer := rest } ∧
      (∀ signed ∈ rest, (self.settleEvents batch).lacksDependency signed = true) ∧
      ((self.pendingBuffer.map digest).Nodup → ∀ before signed after,
        batch = before ++ signed :: after → (self.settleEvents before).lacksDependency signed = false) := by
  by_cases empty : self.pendingBuffer.length = 0
  · have none := length_eq_zero_iff.mp empty
    refine ⟨[], [], by simp [none], ?_, by simp, by simp⟩
    obtain ⟨_, _, _, _, _, _, _, pending, _, _⟩ := self
    obtain rfl := none
    simp [tryFlush]
  · have needsLength : self.needs.length = self.pendingBuffer.length := length_map _
    obtain ⟨order, once, bound, world, -, length, listed, stuck, ready⟩ :=
      run_spec (fun dep => self.digestStore.contains dep) self.needs settle self
    change self.flushQueue.world = _ at world
    change self.flushQueue.processed.length = _ at length
    change ∀ i, _ → (self.flushQueue.processed.getD i false = true ↔ _) at listed
    rw [needsLength] at bound length listed stuck
    have needs : ∀ i signed, self.pendingBuffer[i]? = some signed →
        self.needs.getD i [] = signed.depHashes.map Digest.text := by
      intro i signed found
      simp [AuditAdapter.needs, getD_eq_getElem?_getD, getElem?_map, found]
    have perm := self.eventsAt_perm once bound length listed
    refine ⟨self.eventsAt order, remaining self.flushQueue.processed self.pendingBuffer, perm, ?_, ?_, ?_⟩
    · rw [tryFlush, if_neg empty, world, (self.settleAll_settle order).1]
    · intro signed member
      rw [remaining_eq _ _ length] at member
      obtain ⟨i, open_, found⟩ := mem_filterMap.mp member
      obtain ⟨range, undone⟩ := mem_filter.mp open_
      have inside := mem_range.mp range
      have unsettled : i ∉ order := fun settled => by
        rw [(listed i inside).mpr settled] at undone
        cases undone
      obtain ⟨key, wanted, missing, unreleased⟩ := stuck i inside unsettled
      rw [needs i signed found] at wanted
      obtain ⟨dep, declared, rfl⟩ := mem_map.mp wanted
      refine any_eq_true.mpr ⟨dep, declared, ?_⟩
      rw [(self.settleAll_settle order).2.2, missing, decide_eq_false unreleased]
      rfl
    · intro distinct before signed after split
      obtain ⟨front, back, rfl, frontEvents, backEvents⟩ := filterMap_eq_append_iff.mp split
      obtain ⟨skipped, i, tail, rfl, absent, found, -⟩ := filterMap_eq_cons_iff.mp backEvents
      have events : self.eventsAt (front ++ skipped) = before := by
        have none : self.eventsAt skipped = [] := filterMap_eq_nil_iff.mpr absent
        rw [eventsAt_append, none, append_nil]
        exact frontEvents
      obtain ⟨-, keys, store⟩ := self.settleAll_settle (front ++ skipped)
      rw [events] at keys store
      have different : (settleAll settle self (front ++ skipped)).2.Nodup := by
        have batch : ((self.eventsAt (front ++ (skipped ++ i :: tail))).map digest).Nodup :=
          ((perm.map digest).nodup_iff.mpr distinct).sublist
            ((sublist_append_left _ _).map digest)
        have early : (before.map digest).Nodup := by
          rw [show self.eventsAt (front ++ (skipped ++ i :: tail)) = before ++ signed :: after from split] at batch
          exact batch.sublist ((sublist_append_left _ _).map digest)
        have texts := early.map Digest.text_injective
        rw [map_map] at texts
        exact texts.sublist keys
      apply Bool.eq_false_iff.mpr
      intro lacking
      obtain ⟨dep, declared, absentDep⟩ := any_eq_true.mp lacking
      have supplied := ready (front ++ skipped) i tail (by simp) different dep.text
        (by rw [needs i signed found]; exact mem_map_of_mem declared)
      rw [store dep.text] at absentDep
      rcases supplied with held | released
      · simp [held] at absentDep
      · simp [released] at absentDep

end ConvergeAudit.Bft.AuditAdapter
