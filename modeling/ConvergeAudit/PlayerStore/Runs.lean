import ConvergeAudit.PlayerStore.Evidence

/-!
Any sequence of calls leaves tables that the validator accepts, so that the store opens again, as long as SQLite keeps the
texts of the calls: a text with a lone surrogate is read back as another one.
-/

namespace ConvergeAudit.PlayerStore

open Moon Js Lib.Fallible PlayerLocalSqliteStore List

inductive Call
  | admitEvent (event : PlayerLocalAuditEvent)
  | commitSeal (writeSet : PlayerLocalSealWriteSet) (faultPoint : Option PlayerLocalSealFaultPoint)
  | claimOutbox (createdOrder nowMs leaseDurationMs : Int)
  | releaseOutbox (createdOrder : Int)
  | acknowledgeOutbox (evidence : CheckpointAckEvidence)
  | placeEvidenceHold (hold : PlayerLocalEvidenceHold)
  | resolveEvidenceHold (resolution : PlayerLocalEvidenceHoldResolution)
  | applyEvidenceInbox (writeSet : PlayerLocalEvidenceInboxWriteSet) (faultPoint : Option PlayerLocalEvidenceInboxFaultPoint)
  | scheduleEvidencePollJob (draft : PlayerLocalEvidencePollJobDraft)
  | claimEvidencePollJob (sourceId : Str) (nowMs leaseDurationMs : Int)
  | completeEvidencePollJob (completion : PlayerLocalEvidencePollJobCompletion)
  | escalateEvidencePollJob (sourceId : Str) (nowMs : Int) (reasonDigest : Str)
  | pruneEvidence (writeSet : PlayerLocalPruneWriteSet) (faultPoint : Option PlayerLocalPruneFaultPoint)

inductive Answer
  | admission (result : PlayerLocalEventAdmission)
  | sealCommit (result : PlayerLocalSealCommitResult)
  | outboxClaim (record : Option PlayerLocalCheckpointOutboxRecord)
  | outboxRelease (released : Bool)
  | outboxAck (result : PlayerLocalOutboxAckResult)
  | holdAdmission (result : PlayerLocalEvidenceHoldAdmission)
  | holdResolution (result : PlayerLocalEvidenceHoldResolutionResult)
  | inbox (result : PlayerLocalEvidenceInboxApplyResult)
  | pollAdmission (result : PlayerLocalEvidencePollJobAdmission)
  | pollClaim (result : PlayerLocalEvidencePollJobClaimResult)
  | pollCompletion (result : PlayerLocalEvidencePollJobCompletionResult)
  | pollEscalation (result : PlayerLocalEvidencePollJobEscalationResult)
  | prune (result : PlayerLocalPruneResult)
  | threw (error : StoreError)
  deriving DecidableEq

/-- A transaction that throws is rolled back. -/
def transact {α : Type} (store : PlayerLocalSqliteStore) (answer : α → Answer)
    (outcome : Except StoreError (α × PlayerLocalSqliteStore)) : Answer × PlayerLocalSqliteStore :=
  match outcome with
  | .ok (result, next) => (answer result, next)
  | .error error => (.threw error, store)

def perform (urlProtocol : Str → Option Str) (store : PlayerLocalSqliteStore) : Call → Answer × PlayerLocalSqliteStore
  | .admitEvent event => transact store .admission (store.admitEvent event)
  | .commitSeal writeSet faultPoint => transact store .sealCommit (store.commitSeal writeSet faultPoint)
  | .claimOutbox createdOrder nowMs leaseDurationMs =>
    transact store .outboxClaim (store.claimOutbox createdOrder nowMs leaseDurationMs)
  | .releaseOutbox createdOrder => transact store .outboxRelease (store.releaseOutbox createdOrder)
  | .acknowledgeOutbox evidence => transact store .outboxAck (store.acknowledgeOutbox evidence)
  | .placeEvidenceHold hold => transact store .holdAdmission (store.placeEvidenceHold hold)
  | .resolveEvidenceHold resolution => transact store .holdResolution (store.resolveEvidenceHold resolution)
  | .applyEvidenceInbox writeSet faultPoint => transact store .inbox (store.applyEvidenceInbox writeSet faultPoint)
  | .scheduleEvidencePollJob draft => transact store .pollAdmission (store.scheduleEvidencePollJob urlProtocol draft)
  | .claimEvidencePollJob sourceId nowMs leaseDurationMs =>
    transact store .pollClaim (store.claimEvidencePollJob sourceId nowMs leaseDurationMs)
  | .completeEvidencePollJob completion => transact store .pollCompletion (store.completeEvidencePollJob completion)
  | .escalateEvidencePollJob sourceId nowMs reasonDigest =>
    transact store .pollEscalation (store.escalateEvidencePollJob sourceId nowMs reasonDigest)
  | .pruneEvidence writeSet faultPoint => transact store .prune (store.pruneEvidence writeSet faultPoint)

/-- SQLite keeps the texts that the call writes, and the digests that end a joined key hold no unit 0. -/
def Call.plain : Call → Bool
  | .admitEvent event => decide (event.toEventRow.stored = event.toEventRow ∧ (0 : UInt16) ∉ event.eventDigest.units)
  | .commitSeal writeSet _ => decide (writeSet.Kept ∧ (0 : UInt16) ∉ writeSet.checkpoint.checkpointDigest.units)
  | .placeEvidenceHold hold => decide (hold.toEvidenceHoldRow.stored = hold.toEvidenceHoldRow)
  | .resolveEvidenceHold resolution => decide (sqlText resolution.resolutionDigest = resolution.resolutionDigest)
  | .applyEvidenceInbox writeSet _ => decide (writeSet.operation.kept ∧
    writeSet.nextCursor.toEvidenceInboxCursorRow.stored = writeSet.nextCursor.toEvidenceInboxCursorRow)
  | .scheduleEvidencePollJob draft => decide (draft.toPollSchedule.stored = draft.toPollSchedule)
  | .escalateEvidencePollJob _ _ reasonDigest => decide (sqlText reasonDigest = reasonDigest)
  | .pruneEvidence writeSet _ => decide (writeSet.nextAnchor.toHeadRow.stored = writeSet.nextAnchor.toHeadRow)
  | .claimOutbox .. | .releaseOutbox _ | .acknowledgeOutbox _ | .claimEvidencePollJob .. | .completeEvidencePollJob _ => true

/-- A store that was opened on a new database, after calls with their answers. The revision stays below `2 ^ 53`. -/
inductive Run (urlProtocol : Str → Option Str) (configuration : PlayerLocalStoreConfiguration) :
    List (Call × Answer) → PlayerLocalSqliteStore → Prop
  | opened {store : PlayerLocalSqliteStore} (kept : configuration.stored = configuration)
      (fresh : openStore urlProtocol configuration none = .ok store) : Run urlProtocol configuration [] store
  | call {history : List (Call × Answer)} {store next : PlayerLocalSqliteStore} {call : Call} {answer : Answer}
      (run : Run urlProtocol configuration history store) (plain : call.plain)
      (done : perform urlProtocol store call = (answer, next)) (below : next.config.storageRevision ≤ maxSafeInteger) :
      Run urlProtocol configuration (history ++ [(call, answer)]) next

section Step

variable {next : PlayerLocalSqliteStore}

theorem transact_cases (done : transact store wrap outcome = (answer, next)) :
    (next = store ∧ ∃ error, answer = .threw error) ∨ ∃ result, outcome = .ok (result, next) ∧ answer = wrap result := by
  unfold transact at done
  split at done
  · cases done
    exact Or.inr ⟨_, rfl, rfl⟩
  · cases done
    exact Or.inl ⟨rfl, _, rfl⟩

inductive Effect (store next : PlayerLocalSqliteStore) : Call → Answer → Prop
  | kept {call : Call} {answer : Answer} (kept : Kept store next) : Effect store next call answer
  | pruned {writeSet : PlayerLocalPruneWriteSet} {faultPoint : Option PlayerLocalPruneFaultPoint}
      {early late : List CheckpointRow} (pruned : Pruned store next writeSet.nextAnchor.toHeadRow early late) :
      Effect store next (.pruneEvidence writeSet faultPoint) (.prune (.pruned writeSet.nextAnchor.epoch))

theorem perform_step (durable : Durable urlProtocol store) (plain : call.plain)
    (done : perform urlProtocol store call = (answer, next)) :
    Durable urlProtocol next ∧ Effect store next call answer := by
  have both : Durable urlProtocol next ∧ Kept store next → Durable urlProtocol next ∧ Effect store next call answer :=
    And.imp_right .kept
  -- a call that throws, or answers without writing, leaves the store as it was
  have settle : ∀ {α : Type} {wrap : α → Answer} {outcome : Except StoreError (α × PlayerLocalSqliteStore)},
      transact store wrap outcome = (answer, next) → (∀ result, outcome = .ok (result, next) → answer = wrap result →
        next = store ∨ Durable urlProtocol next ∧ Effect store next call answer) →
      Durable urlProtocol next ∧ Effect store next call answer := by
    intro α wrap outcome done each
    have same : next = store → Durable urlProtocol next ∧ Kept store next := by
      rintro rfl
      exact ⟨durable, Kept.refl _⟩
    rcases transact_cases done with ⟨unchanged, _⟩ | ⟨result, returned, wrapped⟩
    · exact both (same unchanged)
    · exact (each result returned wrapped).elim (both ∘ same) id
  cases call with
  | admitEvent event =>
    refine settle done fun result outcome _ => .inr (both ?_)
    obtain ⟨kept, noNul⟩ := of_decide_eq_true plain
    have admitted := admitEvent_cases kept outcome
    exact ⟨admitted.durable durable noNul, admitted.kept⟩
  | commitSeal writeSet faultPoint =>
    obtain ⟨kept, noNul⟩ := of_decide_eq_true plain
    refine settle done fun result outcome _ => (commitSeal_cases kept outcome).imp_right ?_
    rintro ⟨rfl, keyed, valid, snapshot⟩
    exact both ⟨(sealPlan_of_valid valid snapshot).durable durable keyed noNul, sealed_kept⟩
  | claimOutbox createdOrder nowMs leaseDurationMs =>
    refine settle done fun result outcome _ => (claimOutbox_cases outcome).imp_right ?_
    rintro ⟨selected, state, leased⟩
    exact both ⟨leased.durable durable, leased.next ▸ moved_kept⟩
  | releaseOutbox createdOrder =>
    refine settle done fun result outcome _ => (releaseOutbox_cases outcome).imp_right ?_
    rintro ⟨selected, state, leased⟩
    exact both ⟨leased.durable durable, leased.next ▸ moved_kept⟩
  | acknowledgeOutbox evidence =>
    refine settle done fun result outcome _ => (acknowledgeOutbox_cases outcome).imp_right ?_
    rintro ⟨ack, row, member, matches_, active, keyed, rfl⟩
    exact both ⟨(durable.acked member matches_ active keyed).incrementRevision, acked_kept⟩
  | placeEvidenceHold hold =>
    refine settle done fun result outcome _ => (placeEvidenceHold_cases (of_decide_eq_true plain) outcome).imp_right ?_
    rintro ⟨placeable, keyed, rfl⟩
    exact both ⟨(placeable.durable durable keyed).incrementRevision, .of_tables rfl rfl rfl rfl rfl⟩
  | resolveEvidenceHold resolution =>
    refine settle done fun result outcome _ => (resolveEvidenceHold_cases outcome).imp_right ?_
    rintro ⟨valid, keyed, rfl⟩
    exact both ⟨(durable.resolveHold (of_decide_eq_true plain) valid keyed).incrementRevision, .of_tables rfl rfl rfl rfl rfl⟩
  | applyEvidenceInbox writeSet =>
    obtain ⟨kept, cursor⟩ := of_decide_eq_true plain
    exact settle done fun _ outcome _ => .inr (both (applyEvidenceInbox_durable durable kept cursor outcome))
  | scheduleEvidencePollJob =>
    have kept := of_decide_eq_true plain
    exact settle done fun _ outcome _ => .inr (both (scheduleEvidencePollJob_durable durable kept outcome))
  | claimEvidencePollJob => exact settle done fun _ outcome _ => .inr (both (claimEvidencePollJob_durable durable outcome))
  | completeEvidencePollJob =>
    exact settle done fun _ outcome _ => .inr (both (completeEvidencePollJob_durable durable outcome))
  | escalateEvidencePollJob =>
    have kept := of_decide_eq_true plain
    exact settle done fun _ outcome _ => .inr (both (escalateEvidencePollJob_durable durable kept outcome))
  | pruneEvidence writeSet faultPoint =>
    have kept := of_decide_eq_true plain
    refine settle done fun result outcome wrapped => (pruneEvidence_cases durable kept outcome).imp_right ?_
    rintro ⟨rfl, early, late, pruned⟩
    exact ⟨pruned.durable durable, wrapped ▸ .pruned pruned⟩

theorem Effect.configuration (effect : Effect store next call answer) :
    next.config.toPlayerLocalStoreConfiguration = store.config.toPlayerLocalStoreConfiguration := by
  cases effect with
  | kept kept => exact kept.configuration
  | pruned pruned =>
    rw [pruned.next]
    rfl

end Step

section Runs

theorem openStore_fresh (fresh : openStore urlProtocol configuration none = .ok store) :
    configurationAccepted configuration = true ∧ store = create configuration := by
  obtain ⟨accepted, fresh⟩ := require_bind.mp fresh
  obtain ⟨_, _, fresh⟩ := bind_ok.mp fresh
  obtain ⟨_, _, fresh⟩ := bind_ok.mp fresh
  exact ⟨accepted, (Except.ok.inj fresh).symm⟩

theorem durable_create (kept : configuration.stored = configuration)
    (accepted : configurationAccepted configuration = true) : Durable urlProtocol (create configuration) := by
  rw [create, kept]
  have shaped := accepted
  unfold configurationAccepted at shaped
  simp only [Bool.and_eq_true, decide_eq_true_eq] at shaped
  obtain ⟨⟨_, genesis⟩, capacity⟩ := shaped
  have none : ∀ {α : Type} {P : α → Prop}, ∀ row ∈ ([] : List α), P row := fun _ member => absurd member not_mem_nil
  exact
    { keyed := ⟨.nil, .nil, none, .nil, .nil, none, .nil, .nil, .nil, none, .nil, .nil, none, .nil⟩
      configured := accepted
      revision := le_refl _
      order := rfl
      room := (isNonNegativeInteger_iff.mp capacity).1
      anchor := ⟨⟨le_refl _, Int.le_trans (by decide : (-1 : Int) ≤ 0) maxSafeInteger_nonneg⟩, genesis, fun _ => rfl⟩
      events := none
      conflicts := none
      chain := .nil _
      checkpoints := none
      closures := rfl
      closed := none
      holds := none
      cursors := none
      jobs := none
      outbox := none
      covered := none
      acks := none
      acknowledged := none }

theorem Run.durable (run : Run urlProtocol configuration history store) :
    Durable urlProtocol store ∧ store.config.toPlayerLocalStoreConfiguration = configuration ∧
      store.config.storageRevision ≤ maxSafeInteger := by
  induction run with
  | opened kept fresh =>
    obtain ⟨accepted, rfl⟩ := openStore_fresh fresh
    exact ⟨durable_create kept accepted, kept, maxSafeInteger_nonneg⟩
  | call _ plain done below ih =>
    obtain ⟨durable, configured, _⟩ := ih
    obtain ⟨sound, effect⟩ := perform_step durable plain done
    exact ⟨sound, effect.configuration.trans configured, below⟩

end Runs

section Sample

def sampleBoundary : AuditBoundary := ⟨1, "p", "m", "s", "u"⟩

def sampleConfiguration : PlayerLocalStoreConfiguration := ⟨sampleBoundary, "g", 4⟩

def sampleEvent : PlayerLocalAuditEvent := ⟨⟨"a", 0, 0, "d", "x"⟩, sampleBoundary⟩

def sampleSeal : PlayerLocalSealWriteSet where
  expectedRevision := 1
  expectedSnapshot := ⟨sampleBoundary, -1, "g", false, false, false, false, 0, 4, 0⟩
  checkpoint := ⟨⟨0, "g", "c", "e"⟩, sampleBoundary⟩
  nextHead := ⟨⟨0, "c"⟩, sampleBoundary⟩
  outboxEntries := [⟨⟨"z", 0, "c", "e", 0, .pending⟩, sampleBoundary⟩]
  consumedClosure := ⟨⟨0, "r", "f", "q"⟩, sampleBoundary⟩
  nextOutboxEntryCount := 1
  nextCreatedOrder := 1

def sampleAck : CheckpointAckEvidence := ⟨⟨"z", 0, "c", .accepted⟩, sampleBoundary⟩

def samplePrune : PlayerLocalPruneWriteSet where
  retainFromEpoch := 1
  protectedEpochs := []
  expectedRevision := 3
  expectedAnchor := ⟨⟨-1, "g"⟩, sampleBoundary⟩
  nextAnchor := ⟨⟨0, "c"⟩, sampleBoundary⟩

def sampleStore (calls : List Call) : PlayerLocalSqliteStore :=
  calls.foldl (fun store call => (perform (fun _ => none) store call).2) (create sampleConfiguration)

def sampleCalls : List Call := [.admitEvent sampleEvent, .commitSeal sampleSeal none, .acknowledgeOutbox sampleAck]

def sampleHistory : List (Call × Answer) :=
  [(.admitEvent sampleEvent, .admission .stored), (.commitSeal sampleSeal none, .sealCommit .committed),
    (.acknowledgeOutbox sampleAck, .outboxAck .updated)]

theorem sample_acknowledged : Run (fun _ => none) sampleConfiguration sampleHistory (sampleStore sampleCalls) := by
  have opened : Run (fun _ => none) sampleConfiguration [] (sampleStore []) := .opened (by decide) (by decide +kernel)
  have admitted : Run (fun _ => none) sampleConfiguration [(.admitEvent sampleEvent, .admission .stored)]
      (sampleStore [.admitEvent sampleEvent]) :=
    opened.call (by decide +kernel) (by decide +kernel) (by decide +kernel)
  have committed : Run (fun _ => none) sampleConfiguration
      [(.admitEvent sampleEvent, .admission .stored), (.commitSeal sampleSeal none, .sealCommit .committed)]
      (sampleStore [.admitEvent sampleEvent, .commitSeal sampleSeal none]) :=
    admitted.call (by decide +kernel) (by decide +kernel) (by decide +kernel)
  exact committed.call rfl (by decide +kernel) (by decide +kernel)

end Sample

end ConvergeAudit.PlayerStore
