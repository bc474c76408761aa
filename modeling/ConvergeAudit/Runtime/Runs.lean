import ConvergeAudit.Runtime.Invariants

/-!
Any number of callers share one store; a plan may be committed at any later time, and the process may restart from
its durable image between calls.
-/

namespace ConvergeAudit.Runtime
open Moon List

/-- A plan is named by its position among the plans prepared so far. -/
inductive Call where
  | admitEvent (event : PlayerLocalAuditEvent)
  | prepareSeal (draft : CheckpointSealDraft) (closure : TrustedEpochClosure) (destinations : List Str)
  | commitSeal (plan : ℕ)
  | claimOutboxAt (index nowMs leaseDurationMs : ℤ)
  | releaseOutboxAt (index : ℤ)
  | acknowledgeOutboxAt (index : ℤ) (ack : AuthenticatedCheckpointAck)
  | restart

inductive Answer where
  | admission (admission : PlayerLocalEventAdmission)
  | preparation (result : Option PlayerLocalSealPrepareResult)
  | commit (result : PlayerLocalSealCommitResult)
  | noSuchPlan
  | update (result : PlayerLocalOutboxUpdateResult)
  | restarted
  | restartRefused (reason : PlayerLocalAuditStoreRefusal)
  deriving DecidableEq

/-- The answers by which a call reports a change. -/
def Answer.Succeeded : Answer → Prop
  | .admission .localEventStored | .admission .localEventEquivocation | .commit .playerLocalSealCommitted
  | .update (.playerLocalOutboxUpdated _) => True
  | _ => False

theorem succeeded_admission (answer : admission = .localEventStored ∨ admission = .localEventEquivocation) :
    (Answer.admission admission).Succeeded := by
  rcases answer with rfl | rfl <;> exact True.intro

theorem PlayerLocalAuditStore.RowCall.succeeded {next : PlayerLocalAuditStore} (called : RowCall store next result) :
    next = store ∨ Mutates store next ∧ (Answer.update result).Succeeded := by
  rcases called with same | ⟨mutates, entry, rfl⟩
  · exact Or.inl same
  · exact Or.inr ⟨mutates, True.intro⟩

structure Session where
  store : PlayerLocalAuditStore
  plans : List PlayerLocalSealPlan

namespace Session

section
variable [StrOrder]

def step (session : Session) : Call → Session × Answer
  | .admitEvent event =>
    let result := session.store.admitEvent event
    ({ session with store := result.1 }, .admission result.2)
  | .prepareSeal draft closure destinations =>
    match session.store.prepareSeal draft closure destinations with
    | some (.playerLocalSealPrepared plan) =>
      ({ session with plans := session.plans ++ [plan] }, .preparation (some (.playerLocalSealPrepared plan)))
    | result => (session, .preparation result)
  | .commitSeal index =>
    match session.plans[index]? with
    | none => (session, .noSuchPlan)
    | some plan =>
      let result := session.store.commitSeal plan
      ({ session with store := result.1 }, .commit result.2)
  | .claimOutboxAt index nowMs leaseDurationMs =>
    let result := session.store.claimOutboxAt index nowMs leaseDurationMs
    ({ session with store := result.1 }, .update result.2)
  | .releaseOutboxAt index =>
    let result := session.store.releaseOutboxAt index
    ({ session with store := result.1 }, .update result.2)
  | .acknowledgeOutboxAt index ack =>
    let result := session.store.acknowledgeOutboxAt index ack
    ({ session with store := result.1 }, .update result.2)
  | .restart =>
    match restorePlayerLocalAuditStore session.store.durableImage with
    | .playerLocalAuditStoreReady store => ({ session with store := store }, .restarted)
    | .playerLocalAuditStoreRefused reason => (session, .restartRefused reason)

def after (session : Session) (calls : List Call) : Session :=
  calls.foldl (fun session call => (session.step call).1) session

def answers (session : Session) : List Call → List Answer
  | [] => []
  | call :: rest => (session.step call).2 :: (session.step call).1.answers rest

@[simp] theorem after_nil (session : Session) : session.after [] = session := rfl

@[simp] theorem after_cons (session : Session) (call : Call) (rest : List Call) :
    session.after (call :: rest) = (session.step call).1.after rest := rfl

theorem step_commitSeal {session : Session} (located : session.plans[index]? = some plan) :
    session.step (.commitSeal index) =
      ({ session with store := (session.store.commitSeal plan).1 }, .commit (session.store.commitSeal plan).2) := by
  unfold step
  dsimp only
  rw [located]

theorem step_commitSeal_none {session : Session} (missing : session.plans[index]? = none) :
    session.step (.commitSeal index) = (session, .noSuchPlan) := by
  unfold step
  dsimp only
  rw [missing]

theorem after_append (session : Session) (first second : List Call) :
    session.after (first ++ second) = (session.after first).after second :=
  foldl_append

end

end Session

inductive Reachable [StrOrder] : Session → Prop
  | opened {boundary : AuditBoundary} {genesisDigest : AuditDigest} {outboxCapacity : ℤ} {store : PlayerLocalAuditStore}
      (ready : openPlayerLocalAuditStore boundary genesisDigest outboxCapacity = .playerLocalAuditStoreReady store) :
      Reachable ⟨store, []⟩
  | called {session : Session} (reachable : Reachable session) (call : Call) : Reachable (session.step call).1

/-- The plan is stale, or it was prepared from the store as it is now. -/
structure PlanKept (store : PlayerLocalAuditStore) (plan : PlayerLocalSealPlan) : Prop where
  known : plan.expectedRevision ≤ store.storageRevisionValue
  current : plan.expectedRevision = store.storageRevisionValue → store.Prepares plan

structure Session.Healthy (session : Session) : Prop where
  sound : Sound session.store
  settled : Settled session.store.outboxValue
  plans : ∀ plan ∈ session.plans, PlanKept session.store plan

section
variable [StrOrder]

theorem Reachable.after (reachable : Reachable session) (calls : List Call) : Reachable (session.after calls) := by
  induction calls generalizing session with
  | nil => exact reachable
  | cons call rest ih => exact ih (reachable.called call)

omit [StrOrder] in
theorem PlanKept.mutates {store after : PlayerLocalAuditStore} (kept : PlanKept store plan)
    (mutates : Mutates store after) : PlanKept after plan := by
  have revision := mutates.revision
  have known := kept.known
  exact ⟨by omega, fun same => by omega⟩

omit [StrOrder] in
/-- A plan commits exactly while the store is the one that it was prepared from. -/
theorem PlanKept.commit_cases (kept : PlanKept store plan) :
    plan.expectedRevision ≠ store.storageRevisionValue ∧
        store.commitSeal plan = (store, .playerLocalSealConcurrentWrite) ∨
      ∃ draft closure destinations,
        SealAdmits (store.sealSnapshot draft destinations) draft closure destinations ∧
          plan = ⟨sealPlan (store.sealSnapshot draft destinations) draft destinations, store.storageRevisionValue,
            destinations, closure.evidenceValue⟩ ∧
          store.commitSeal plan = (store.applySeal draft destinations, .playerLocalSealCommitted) := by
  by_cases current : plan.expectedRevision = store.storageRevisionValue
  · obtain ⟨draft, closure, destinations, admits, rfl⟩ := kept.current current
    exact Or.inr ⟨draft, closure, destinations, admits, rfl, PlayerLocalAuditStore.commitSeal_eq admits⟩
  · exact Or.inl ⟨current, if_pos (Ne.symm current)⟩

namespace Session

theorem step_plans (session : Session) :
    (session.step call).1.plans = session.plans ∨
      (session.step call).1.store = session.store ∧
        ∃ plan, (session.step call).1.plans = session.plans ++ [plan] ∧ session.store.Prepares plan := by
  cases call with
  | prepareSeal draft closure destinations =>
    unfold step
    dsimp only
    split
    · rename_i plan prepared
      obtain ⟨admits, same⟩ := PlayerLocalAuditStore.prepareSeal_prepared prepared
      exact Or.inr ⟨rfl, plan, rfl, draft, closure, destinations, admits, same⟩
    · exact Or.inl rfl
  | commitSeal | restart =>
    unfold step
    dsimp only
    split <;> exact Or.inl rfl
  | admitEvent | claimOutboxAt | releaseOutboxAt | acknowledgeOutboxAt => exact Or.inl rfl

theorem plans_step (session : Session) : session.plans <+: (session.step call).1.plans := by
  rcases session.step_plans with same | ⟨_, plan, appended, _⟩
  · exact ⟨[], by rw [same, append_nil]⟩
  · exact ⟨[plan], appended.symm⟩

theorem plans_after (session : Session) (calls : List Call) : session.plans <+: (session.after calls).plans := by
  induction calls generalizing session with
  | nil => exact prefix_refl _
  | cons call rest ih => exact session.plans_step.trans (ih _)

namespace Healthy

variable {session : Session}

section
variable (healthy : session.Healthy)
include healthy

/-- A call on a healthy session leaves the store as it is, or mutates it and says so. -/
theorem step_cases :
    (session.step call).1.store = session.store ∨
      Mutates session.store (session.step call).1.store ∧ (session.step call).2.Succeeded := by
  cases call with
  | admitEvent event =>
    rcases session.store.admitEvent_cases event with same | ⟨mutates, answer⟩
    · exact Or.inl same
    · exact Or.inr ⟨mutates, succeeded_admission answer⟩
  | prepareSeal =>
    unfold step
    dsimp only
    split <;> exact Or.inl rfl
  | commitSeal index =>
    cases located : session.plans[index]? with
    | none =>
      rw [step_commitSeal_none located]
      exact Or.inl rfl
    | some plan =>
      rw [step_commitSeal located]
      rcases (healthy.plans plan (mem_of_getElem? located)).commit_cases with
        ⟨_, unchanged⟩ | ⟨draft, closure, destinations, admits, _, committed⟩
      · rw [unchanged]
        exact Or.inl rfl
      · rw [committed]
        exact Or.inr ⟨.sealed admits, True.intro⟩
  | claimOutboxAt => exact session.store.claimOutboxAt_cases.succeeded
  | releaseOutboxAt => exact session.store.releaseOutboxAt_cases.succeeded
  | acknowledgeOutboxAt => exact session.store.acknowledgeOutboxAt_cases.succeeded
  | restart =>
    unfold Session.step
    rw [healthy.sound.restore_eq]
    exact Or.inl rfl

theorem step (call : Call) : (session.step call).1.Healthy := by
  have kept : ∀ plan ∈ session.plans, PlanKept (session.step call).1.store plan := by
    intro plan member
    rcases healthy.step_cases with same | ⟨mutates, _⟩
    · rw [same]
      exact healthy.plans plan member
    · exact (healthy.plans plan member).mutates mutates
  have plans : ∀ plan ∈ (session.step call).1.plans, PlanKept (session.step call).1.store plan := by
    rcases session.step_plans with same | ⟨store, plan, appended, prepares⟩
    · rw [same]
      exact kept
    · rw [appended]
      refine Lib.forall_mem_concat kept ?_
      rw [store]
      refine ⟨?_, fun _ => prepares⟩
      obtain ⟨draft, closure, destinations, _, rfl⟩ := prepares
      exact le_refl _
  rcases healthy.step_cases with same | ⟨mutates, _⟩
  · refine ⟨?_, ?_, plans⟩
    · rw [same]
      exact healthy.sound
    · rw [same]
      exact healthy.settled
  · obtain ⟨sound, settled⟩ := mutates.sound_and_settled healthy.sound healthy.settled
    exact ⟨sound, settled, plans⟩

theorem after (calls : List Call) : (session.after calls).Healthy := by
  induction calls generalizing session with
  | nil => exact healthy
  | cons call rest ih => exact ih (healthy.step call)

/-- What every mutation keeps holds after a run. -/
theorem after_induction {P : PlayerLocalAuditStore → Prop}
    (kept : ∀ {store after : PlayerLocalAuditStore}, Mutates store after → P store → P after) (base : P session.store)
    (calls : List Call) : P (session.after calls).store := by
  induction calls generalizing session with
  | nil => exact base
  | cons call rest ih =>
    refine ih (healthy.step call) ?_
    rcases healthy.step_cases with same | ⟨mutates, _⟩
    · rw [same]
      exact base
    · exact kept mutates base

theorem after_revision :
    (session.after calls).store = session.store ∨
      session.store.storageRevisionValue < (session.after calls).store.storageRevisionValue := by
  refine healthy.after_induction (P := fun store => store = session.store ∨
    session.store.storageRevisionValue < store.storageRevisionValue) ?_ (Or.inl rfl) calls
  rintro store after mutates (rfl | later)
  · exact Or.inr (by rw [mutates.revision]; omega)
  · exact Or.inr (by rw [mutates.revision]; omega)

theorem commit_stored (committed : (session.step (.commitSeal index)).2 = .commit .playerLocalSealCommitted) :
    ∃ draft closure destinations,
      SealAdmits (session.store.sealSnapshot draft destinations) draft closure destinations ∧
        session.plans[index]? = some ⟨sealPlan (session.store.sealSnapshot draft destinations) draft destinations,
          session.store.storageRevisionValue, destinations, closure.evidenceValue⟩ ∧
        (session.step (.commitSeal index)).1.store = session.store.applySeal draft destinations := by
  cases located : session.plans[index]? with
  | none =>
    rw [step_commitSeal_none located] at committed
    cases committed
  | some plan =>
    rw [step_commitSeal located] at committed ⊢
    rcases (healthy.plans plan (mem_of_getElem? located)).commit_cases with
      ⟨_, unchanged⟩ | ⟨draft, closure, destinations, admits, rfl, stored⟩
    · rw [unchanged] at committed
      cases committed
    · exact ⟨draft, closure, destinations, admits, rfl, congrArg Prod.fst stored⟩

end

end Healthy

end Session

omit [StrOrder] in
theorem openPlayerLocalAuditStore_ready
    (ready : openPlayerLocalAuditStore boundary genesisDigest outboxCapacity = .playerLocalAuditStoreReady store) :
    Sound store ∧ store.outboxValue = [] ∧ store.retentionAnchorValue.epoch = -1 := by
  unfold openPlayerLocalAuditStore at ready
  simp (disch := simp) only [Lib.passes, Bool.not_eq_true, Bool.not_eq_false', not_lt] at ready
  obtain ⟨validBoundary, genesis, capacity, ready⟩ := ready
  cases ready
  refine ⟨?_, rfl, rfl⟩
  exact
    { boundary_valid := validBoundary
      genesis_present := genesis
      capacity_nonneg := capacity
      revision_nonneg := le_refl _
      anchor_boundary := rfl
      anchor_epoch := le_refl _
      anchor_present := genesis
      anchor_genesis := fun _ => rfl
      events := ⟨by simp, by simp, by simp, by simp, by simp⟩
      chain := .anchored
      head_boundary := rfl
      consumed := by simp
      holds := ⟨by simp, by simp⟩
      cursors := rfl
      jobs := rfl
      outbox := ⟨by simp, capacity, le_refl _, by simp, by simp, by simp⟩
      acks := ⟨by simp, by simp, by simp⟩ }

theorem Reachable.healthy (reachable : Reachable session) : session.Healthy := by
  induction reachable with
  | opened ready =>
    obtain ⟨sound, empty, _⟩ := openPlayerLocalAuditStore_ready ready
    refine ⟨sound, ?_, by simp⟩
    rw [empty]
    exact List.Pairwise.nil
  | called _ call ih => exact ih.step call

theorem Reachable.unpruned (reachable : Reachable session) : session.store.retentionAnchorValue.epoch = -1 := by
  induction reachable with
  | opened ready => exact (openPlayerLocalAuditStore_ready ready).2.2
  | @called session reachable call ih =>
    rcases reachable.healthy.step_cases with same | ⟨mutates, _⟩
    · rw [same]
      exact ih
    · rw [mutates.retentionAnchor]
      exact ih

end

namespace Sample

def boundary : AuditBoundary := ⟨1, lit "audit", ⟨lit "manifest"⟩, lit "scope", lit "unit"⟩

def genesis : AuditDigest := ⟨lit "genesis"⟩

def store : PlayerLocalAuditStore where
  boundaryValue := boundary
  genesisDigestValue := genesis
  outboxCapacityValue := 2
  eventsValue := []
  equivocationsValue := []
  checkpointsValue := []
  headValue := ⟨boundary, -1, genesis⟩
  retentionAnchorValue := ⟨boundary, -1, genesis⟩
  evidenceHoldsValue := []
  evidenceInboxCursorsValue := []
  evidencePollJobsValue := []
  consumedClosureEpochsValue := []
  outboxValue := []
  ackHistoryValue := []
  nextCreatedOrderValue := 0
  storageRevisionValue := 0

def event : PlayerLocalAuditEvent := ⟨boundary, lit "alice", 0, 0, ⟨lit "event"⟩, lit "bytes"⟩

def draft : CheckpointSealDraft := ⟨boundary, 0, genesis, ⟨lit "digest"⟩, lit "envelope"⟩

def closure : TrustedEpochClosure :=
  ⟨⟨boundary, 0, ⟨lit "roster"⟩, ⟨lit "frontier"⟩, ⟨lit "certificate"⟩⟩, by decide +kernel⟩

def ack : AuthenticatedCheckpointAck :=
  ⟨⟨boundary, lit "tower", 0, ⟨lit "digest"⟩, .checkpointAccepted⟩, by decide +kernel, by decide +kernel, by decide +kernel,
    by decide +kernel⟩

def sealing : List Call :=
  [.admitEvent event, .prepareSeal draft closure [lit "tower"], .prepareSeal draft closure [lit "tower"], .commitSeal 0]

end Sample

end ConvergeAudit.Runtime
