import ConvergeAudit.PlayerStore.Runs

/-!
The store looks for a second event of a slot only among the rows that it still has: a slot that was pruned is free
again for an event of a later epoch.
-/

namespace ConvergeAudit.PlayerStore

open Moon Js Lib.Fallible Lib.Table PlayerLocalSqliteStore List

def SameSlot (first second : PlayerLocalAuditEvent) : Prop :=
  first.authorId = second.authorId ∧ first.counter = second.counter

def Stored (history : List (Call × Answer)) (event : PlayerLocalAuditEvent) : Prop :=
  (.admitEvent event, .admission .stored) ∈ history

/-- No event that is offered for the slot of a pruned event has an epoch past the anchor. -/
def PrunedSlotsUnused (urlProtocol : Str → Option Str) (configuration : PlayerLocalStoreConfiguration)
    (history : List (Call × Answer)) : Prop :=
  ∀ before later answer after store, history = before ++ (.admitEvent later, answer) :: after →
    Run urlProtocol configuration before store → ∀ first, Stored before first → SameSlot first later →
      first.epoch ≤ store.retentionAnchor.epoch → later.epoch ≤ store.retentionAnchor.epoch

section Admission

variable {store next : PlayerLocalSqliteStore}

theorem Keyed.insertEvent (keyed : store.Keyed)
    (absent : ∀ other ∈ store.events, ¬(other.authorId = row.authorId ∧ other.counter = row.counter)) :
    (store.insertEvent row).Keyed := by
  refine { keyed with events := ?_, accepted := ?_ }
  · change ((store.events ++ [row]).map fun other => (other.authorId, other.counter)).Nodup
    exact Lib.nodup_map_concat keyed.events fun other found same => absent other found (Prod.mk.inj same)
  · intro other member
    obtain ⟨accepted, found, same⟩ := mem_map.mp (keyed.accepted other member)
    exact mem_map.mpr ⟨accepted, mem_append_left _ found, same⟩

theorem Keyed.insertEquivocation (keyed : store.Keyed)
    (accepted : (row.authorId, row.counter) ∈ store.events.map fun event => (event.authorId, event.counter))
    (absent : ∀ other ∈ store.equivocations, ¬(other.authorId = row.authorId ∧ other.counter = row.counter ∧
      other.conflictingDigest = row.conflictingDigest)) : (store.insertEquivocation row).Keyed := by
  refine { keyed with equivocations := ?_, accepted := ?_ }
  · change ((store.equivocations ++ [row]).map fun other =>
      (other.authorId, other.counter, other.conflictingDigest)).Nodup
    refine Lib.nodup_map_concat keyed.equivocations fun other found same => ?_
    obtain ⟨author, rest⟩ := Prod.mk.inj same
    exact absent other found ⟨author, Prod.mk.inj rest⟩
  · intro other member
    rcases mem_append.mp member with old | new
    · exact keyed.accepted other old
    · exact mem_singleton.mp new ▸ accepted

theorem admitEvent_total (keyed : store.Keyed) : ∃ answer next, store.admitEvent event = .ok (answer, next) := by
  unfold admitEvent
  dsimp only
  split
  · exact ⟨_, _, rfl⟩
  split
  · exact ⟨_, _, rfl⟩
  split
  · rename_i free
    have written := Keyed.insertEvent keyed (find_none free)
    exact ⟨_, _, statement_bind.mpr ⟨written, rfl⟩⟩
  rename_i accepted found
  obtain ⟨member, author, counter⟩ := find_some found
  split
  · exact ⟨_, _, rfl⟩
  split
  · exact ⟨_, _, rfl⟩
  rename_i unknown
  have written : (store.insertEquivocation (equivocationRow event.toEventRow.stored)).Keyed :=
    Keyed.insertEquivocation keyed (mem_map.mpr ⟨accepted, member, Prod.ext author counter⟩) (find_none unknown)
  exact ⟨_, _, statement_bind.mpr ⟨written, rfl⟩⟩

/-- The row of a slot is present, or behind the anchor. -/
def Remembered (store : PlayerLocalSqliteStore) (event : PlayerLocalAuditEvent) : Prop :=
  event.toEventRow ∈ store.events ∨ event.epoch ≤ store.retentionAnchor.epoch

theorem Remembered.effect (remembered : Remembered store event) (effect : Effect store next call answer) :
    Remembered next event := by
  cases effect with
  | kept kept =>
    rcases remembered with present | behind
    · exact Or.inl (kept.events present)
    · exact Or.inr (kept.anchor ▸ behind)
  | @pruned writeSet _ _ _ pruned =>
    have advances := pruned.advances
    rw [Remembered, pruned.next]
    rcases remembered with present | behind
    · by_cases later : writeSet.nextAnchor.epoch < event.epoch
      · exact Or.inl (mem_filter.mpr ⟨present, decide_eq_true later⟩)
      · exact Or.inr (not_lt.mp later)
    · exact Or.inr (le_trans behind (le_of_lt advances))

theorem Remembered.not_stored (remembered : Remembered store event) (slot : SameSlot event later)
    (unused : event.epoch ≤ store.retentionAnchor.epoch → later.epoch ≤ store.retentionAnchor.epoch) :
    ¬Admitted store later .stored next := by
  intro admitted
  cases admitted with
  | stored _ retained absent _ =>
    rcases remembered with present | behind
    · exact absent event.toEventRow present slot
    · exact absurd retained (not_lt.mpr (unused behind))

end Admission

section Runs

theorem Run.remembered (run : Run urlProtocol configuration history store) (stored : Stored history event) :
    Remembered store event := by
  induction run with
  | opened => exact absurd stored not_mem_nil
  | @call history before after call answer run plain done _ ih =>
    obtain ⟨_, effect⟩ := perform_step run.durable.1 plain done
    rcases mem_append.mp stored with old | new
    · exact (ih old).effect effect
    · obtain ⟨rfl, rfl⟩ := Prod.mk.inj (mem_singleton.mp new)
      rcases transact_cases done with ⟨_, _, thrown⟩ | ⟨result, outcome, same⟩
      · cases thrown
      · obtain rfl := Answer.admission.inj same
        have admitted := admitEvent_cases (of_decide_eq_true plain).1 outcome
        cases admitted with
        | stored => exact Or.inl (mem_append_right _ (mem_singleton_self _))

theorem PrunedSlotsUnused.of_append (within : PrunedSlotsUnused urlProtocol configuration (history ++ [entry])) :
    PrunedSlotsUnused urlProtocol configuration history := by
  intro before later answer after store split
  refine within before later answer (after ++ [entry]) store ?_
  rw [split, append_assoc, cons_append]

theorem Run.stored_once (run : Run urlProtocol configuration history store)
    (within : PrunedSlotsUnused urlProtocol configuration history)
    (here : Stored history first) (there : Stored history second) (slot : SameSlot first second) :
    first.eventDigest = second.eventDigest := by
  induction run with
  | opened => exact absurd here not_mem_nil
  | @call history before after call answer run plain done _ ih =>
    -- an event that the last call has stored has no slot in common with one that was stored before
    have fresh : ∀ old new, Stored history old → SameSlot old new → call = .admitEvent new →
        answer ≠ .admission .stored := by
      rintro old new stored shared rfl rfl
      rcases transact_cases done with ⟨_, _, thrown⟩ | ⟨result, outcome, same⟩
      · cases thrown
      · obtain rfl := Answer.admission.inj same
        refine (run.remembered stored).not_stored shared ?_ (admitEvent_cases (of_decide_eq_true plain).1 outcome)
        exact within history new _ [] before rfl run old stored shared
    rcases mem_append.mp here with old | new
    · rcases mem_append.mp there with old' | new'
      · exact ih within.of_append old old'
      · obtain ⟨called, answered⟩ := Prod.mk.inj (mem_singleton.mp new')
        exact absurd answered.symm (fresh first second old slot called.symm)
    · obtain ⟨called, answered⟩ := Prod.mk.inj (mem_singleton.mp new)
      rcases mem_append.mp there with old' | new'
      · exact absurd answered.symm (fresh second first old' ⟨slot.1.symm, slot.2.symm⟩ called.symm)
      · obtain ⟨called', _⟩ := Prod.mk.inj (mem_singleton.mp new')
        rw [Call.admitEvent.inj (called.trans called'.symm)]

/-- While no event past the anchor comes for the slot of a pruned one, a slot is stored once, and a second digest for it is
answered equivocation or refused in every later state. -/
theorem slot_is_stored_once (run : Run urlProtocol configuration history store)
    (within : PrunedSlotsUnused urlProtocol configuration history) :
    (∀ first second, Stored history first → Stored history second → SameSlot first second →
      first.eventDigest = second.eventDigest) ∧
    ∀ first later, (Call.admitEvent later).plain → Stored history first → SameSlot first later →
      (first.epoch ≤ store.retentionAnchor.epoch → later.epoch ≤ store.retentionAnchor.epoch) →
      later.eventDigest ≠ first.eventDigest → ∃ answer next,
        perform urlProtocol store (.admitEvent later) = (.admission answer, next) ∧
        (answer = .equivocation ∨ ∃ reason, answer = .refused reason) := by
  refine ⟨fun first second here there slot => run.stored_once within here there slot, ?_⟩
  intro first later plain stored slot unused differs
  have durable := run.durable.1
  obtain ⟨answer, next, outcome⟩ := admitEvent_total durable.keyed
  refine ⟨answer, next, ?_, ?_⟩
  · change transact store .admission (store.admitEvent later) = _
    rw [outcome]
    rfl
  · have remembered := run.remembered stored
    cases admitEvent_cases (of_decide_eq_true plain).1 outcome with
    | refused reason => exact Or.inr ⟨reason, rfl⟩
    | known => exact Or.inl rfl
    | conflict => exact Or.inl rfl
    | stored valid retained absent keyed =>
      exact absurd (.stored valid retained absent keyed) (remembered.not_stored slot unused)
    | @duplicate row retained member rowSlot same =>
      rcases remembered with present | behind
      · have one : row = first.toEventRow := by
          refine inj_on_of_nodup_map durable.keyed.events member present ?_
          exact Prod.ext (rowSlot.1.trans slot.1.symm) (rowSlot.2.trans slot.2.symm)
        rw [one] at same
        exact absurd same.symm differs
      · exact absurd retained (not_lt.mpr (unused behind))

end Runs

section Sample

def secondEvent : PlayerLocalAuditEvent := ⟨⟨"a", 0, 1, "D", "y"⟩, sampleBoundary⟩

theorem slot_is_stored_once_sample :
    ∃ answer next, perform (fun _ => none) (sampleStore sampleCalls) (.admitEvent ⟨⟨"a", 0, 0, "D", "y"⟩, sampleBoundary⟩) =
      (.admission answer, next) ∧ (answer = .equivocation ∨ ∃ reason, answer = .refused reason) := by
  refine (slot_is_stored_once sample_acknowledged ?_).2 sampleEvent _ (by decide +kernel) mem_cons_self ⟨rfl, rfl⟩
    (by decide +kernel) (by decide)
  -- no call after the first one admits an event
  intro before later answer after store split run first stored
  cases before with
  | nil => exact absurd stored not_mem_nil
  | cons _ before =>
    have rest : (.admitEvent later, answer) ∈ sampleHistory.tail := by simp [split]
    simp [sampleHistory] at rest

/-- After the epoch of an event has been pruned, another digest for its slot is stored. -/
theorem pruned_slot_is_stored_again :
    ∃ history store, Run (fun _ => none) sampleConfiguration history store ∧ Stored history sampleEvent ∧
      Stored history secondEvent ∧ SameSlot sampleEvent secondEvent ∧
      sampleEvent.eventDigest ≠ secondEvent.eventDigest := by
  have pruned : Run (fun _ => none) sampleConfiguration
      (sampleHistory ++ [(.pruneEvidence samplePrune none, .prune (.pruned 0))])
      (sampleStore (sampleCalls ++ [.pruneEvidence samplePrune none])) :=
    sample_acknowledged.call (by decide +kernel) (by decide +kernel) (by decide +kernel)
  have again : Run (fun _ => none) sampleConfiguration
      (sampleHistory ++ [(.pruneEvidence samplePrune none, .prune (.pruned 0))] ++
        [(.admitEvent secondEvent, .admission .stored)])
      (sampleStore (sampleCalls ++ [.pruneEvidence samplePrune none, .admitEvent secondEvent])) :=
    pruned.call (by decide +kernel) (by decide +kernel) (by decide +kernel)
  refine ⟨_, _, again, ?_, ?_, ⟨rfl, rfl⟩, by decide⟩
  · simp [Stored, sampleHistory]
  · simp [Stored]

end Sample

end ConvergeAudit.PlayerStore
