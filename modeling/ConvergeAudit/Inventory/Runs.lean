import ConvergeAudit.Inventory.Ledger
import ConvergeAudit.AuthMap.Objects
import ConvergeAudit.Lib.Fallible

/-!
Plans are computed and committed in any order, also stale or used ones. The committed ones are an admissible history
of the ledger.
-/

namespace ConvergeAudit.Inventory
open Moon Bft Game AuthMap Market Replay List Ledger

theorem replayedEffectsByKey_mem (found : (replayedEffectsByKey effects).1.get key = some capability) :
    capability ∈ effects := by
  have known : ∀ key capability, (replayedEffectsByKey effects).1.get key = some capability → capability ∈ effects := by
    apply foldlRecOn (motive := fun table : Map Str ReplayedAssetEffect × Bool =>
      ∀ key capability, table.1.get key = some capability → capability ∈ effects)
    · simp
    · rintro ⟨indexed, conflict⟩ known replayed member other candidate got
      dsimp only at got
      split at got
      · exact known other candidate got
      · rw [Map.get_set] at got
        split at got
        · rwa [← Option.some.inj got]
        · exact known other candidate got
  exact known key capability found

theorem useManifest_ok {state next : PlanState} (used : state.useManifest manifest = .ok next) :
    next.recordUpdates = state.recordUpdates ∧ next.nextStateMap = state.nextStateMap := by
  unfold PlanState.useManifest at used
  split at used
  · cases used
    exact ⟨rfl, rfl⟩
  · split at used
    · cases used
    · cases used
      exact ⟨rfl, rfl⟩

theorem planLoop_ok {P : List α → PlanState → Prop}
    (step : ∀ seen position item state next, turn position item state = .ok next → P seen state → P (seen ++ [item]) next)
    (seen : List α) (looped : InventoryIndex.planLoop turn position items state = .ok final) (holds : P seen state) :
    P (seen ++ items) final := by
  induction items generalizing position seen state with
  | nil =>
    simp only [InventoryIndex.planLoop, Except.ok.injEq] at looped
    rw [← looped, append_nil]
    exact holds
  | cons item rest ih =>
    unfold InventoryIndex.planLoop at looped
    split at looped
    · cases looped
    rename_i next turned
    have later := ih (seen ++ [item]) looped (step seen position item state next turned holds)
    rw [append_assoc] at later
    exact later

theorem commit_of_not_committed (index : InventoryIndex) (finalized : FinalizedCheckpoint) (plan : InventoryPlan)
    (refused : (index.commit finalized plan).2 ≠ .committed) : (index.commit finalized plan).1 = index := by
  unfold InventoryIndex.commit at refused ⊢
  cases decided : index.commitRefusal finalized plan with
  | none => simp [decided] at refused
  | some reason => rfl

theorem commit_committed {index : InventoryIndex} (committed : (index.commit finalized plan).2 = .committed) :
    index.commitRefusal finalized plan = none ∧ (index.commit finalized plan).1 = index.applyPlan finalized plan := by
  unfold InventoryIndex.commit at committed ⊢
  cases decided : index.commitRefusal finalized plan with
  | none => exact ⟨rfl, rfl⟩
  | some reason =>
    -- No refusal is called `committed`.
    simp only [decided] at committed
    subst committed
    unfold InventoryIndex.commitRefusal at decided
    dsimp only at decided
    repeat' split at decided
    all_goals cases decided

section
variable [StrOrder]

/-- The index holds the records of a ledger, and its authenticated map holds their texts. -/
structure Holds (index : InventoryIndex) (ledger : Ledger) : Prop where
  records : ∀ assetId, index.get assetId = ledger assetId
  stateMap : Represents index.hasher index.stateMap fun assetId => (ledger assetId).map serializeAssetRecord

/-- A replayed effect of the session that vouches for the effect at its source. -/
def Vouched (session : Str) (effects : List ReplayedAssetEffect) (source : Digest) (effect : AssetEffect) : Prop :=
  ∃ capability ∈ effects, capability.sessionId = session ∧ capability.sourceDigest = source ∧ capability.effect = effect

def EventVouched (session : Str) (effects : List ReplayedAssetEffect) : LedgerEvent → Prop
  | .created receipt => Vouched session effects receipt.sourceEvent (creationEffect receipt)
  | .transferred transfer => Vouched session effects transfer.sourceEvent (transferEffect transfer)

/-- The state of a plan after `events`: what it would write gives the ledger after these events. -/
structure Drafts (index : InventoryIndex) (effects : List ReplayedAssetEffect) (ledger : Ledger)
    (events : List LedgerEvent) (state : PlanState) : Prop where
  admissible : Ledger.Admissible index.hasher ledger events
  records : ∀ assetId, index.currentRecord state assetId = ledger.play index.hasher events assetId
  stateMap : Represents index.hasher state.nextStateMap fun assetId =>
    (ledger.play index.hasher events assetId).map serializeAssetRecord
  distinct : state.recordUpdates.Distinct
  vouched : ∀ event ∈ events, EventVouched index.session effects event

section
variable {next : PlanState}

/-- Writing a record, in the plan and in the authenticated map, is one event of the ledger. -/
theorem Drafts.write (drafts : Drafts index effects ledger events state) {manifest : Digest}
    (written : (state.useManifest manifest).map (·.writeRecord assetId record) = .ok next)
    (admits : (ledger.play index.hasher events).Admits event)
    (after : (ledger.play index.hasher events).after index.hasher event =
      Function.update (ledger.play index.hasher events) assetId (some record))
    (vouched : EventVouched index.session effects event) : Drafts index effects ledger (events ++ [event]) next := by
  obtain ⟨kept, used, rfl⟩ := Lib.Fallible.map_ok.mp written
  obtain ⟨sameUpdates, sameMap⟩ := useManifest_ok used
  have played : ledger.play index.hasher (events ++ [event]) =
      Function.update (ledger.play index.hasher events) assetId (some record) := by
    rw [play_append, ← after]
    rfl
  constructor
  · exact (admissible_append _ _ _ _).mpr ⟨drafts.admissible, admits, trivial⟩
  · intro other
    have before := drafts.records other
    rw [played, Function.update_apply, ← before]
    simp only [InventoryIndex.currentRecord, PlanState.writeRecord, sameUpdates, Map.get_set]
    by_cases same : other = assetId <;> simp [same]
  · have put := (drafts.stateMap.put assetId (serializeAssetRecord record)).1
    rw [played]
    simp only [PlanState.writeRecord, sameMap]
    refine cast (congrArg _ ?_) put
    funext other
    simp only [Function.update_apply]
    by_cases same : other = assetId <;> simp [same]
  · simp only [PlanState.writeRecord, sameUpdates]
    exact drafts.distinct.set assetId record
  · exact Lib.forall_mem_concat drafts.vouched vouched

omit [StrOrder] in
theorem vouched_of_get (found : (replayedEffectsByKey effects).1.get key = some capability)
    (matched : capability.matchesEffect session capability.manifestDigest source effect = true) :
    Vouched session effects source effect := by
  simp only [ReplayedAssetEffect.matchesEffect, ReplayedAssetEffect.sourceCapabilityMatches, Bool.and_eq_true,
    beq_iff_eq] at matched
  obtain ⟨⟨⟨sameSession, sameSource⟩, _⟩, sameEffect⟩ := matched
  exact ⟨capability, replayedEffectsByKey_mem found, sameSession, sameSource, sameEffect⟩

theorem Drafts.creation (drafts : Drafts index effects ledger events state)
    (planned : index.planCreation (replayedEffectsByKey effects).1 position receipt state = .ok next) :
    Drafts index effects ledger (events ++ [.created receipt]) next := by
  unfold InventoryIndex.planCreation at planned
  split at planned
  · cases planned
  rename_i fresh
  dsimp only at planned
  split at planned
  · cases planned
  rename_i capability found
  split at planned
  · cases planned
  rename_i matched
  simp only [Bool.or_eq_true, Bool.not_not_eq, not_or, Map.contains] at fresh matched
  refine drafts.write planned ?_ rfl (vouched_of_get found matched)
  have unknown : index.currentRecord state receipt.assetId = none := by
    unfold InventoryIndex.currentRecord
    rw [Option.not_isSome_iff_eq_none.mp fresh.1]
    exact Option.not_isSome_iff_eq_none.mp fresh.2
  exact (drafts.records receipt.assetId).symm.trans unknown

theorem Drafts.transfer (drafts : Drafts index effects ledger events state) {transfer : AssetTransfer}
    (planned : index.planTransfer (replayedEffectsByKey effects).1 position transfer state = .ok next) :
    Drafts index effects ledger (events ++ [.transferred transfer]) next := by
  unfold InventoryIndex.planTransfer at planned
  dsimp only at planned
  split at planned
  · cases planned
  rename_i valid
  obtain ⟨current, known, owner, version, recipient, changes, replayed⟩ := validateTransfer_none_iff.mp valid
  cases found : (replayedEffectsByKey effects).1.get (replayKey transfer.sourceEvent (transferEffect transfer)) with
  | none => simp [found] at replayed
  | some capability =>
    simp only [found] at replayed
    simp only [found, known] at planned
    have recorded : ledger.play index.hasher events transfer.assetId = some current :=
      (drafts.records transfer.assetId).symm.trans known
    refine drafts.write planned ⟨current, recorded, owner, version, recipient, changes⟩ ?_ (vouched_of_get found replayed)
    simp only [Ledger.after, recorded, Option.map_some]

end

/-- The events of a transaction: all creations, then the transfers. -/
def transactionEvents (creations : ReceiptBatch) (transfers : List AssetTransfer) : List LedgerEvent :=
  creations.receipts.map .created ++ transfers.map .transferred

theorem plan_baseEpoch {index : InventoryIndex} (planned : index.plan creations transfers effects = .planned plan) :
    plan.baseEpoch = index.checkpointEpoch := by
  unfold InventoryIndex.plan at planned
  dsimp only at planned
  repeat' split at planned
  all_goals cases planned
  rfl

/-- What committing a plan in the state it was computed in would do. -/
theorem plan_planned {index : InventoryIndex} (holds : Holds index ledger)
    (planned : index.plan creations transfers effects = .planned plan) :
    Drafts index effects ledger (transactionEvents creations transfers)
      ⟨plan.recordUpdates, plan.nextStateMap, plan.replayManifest⟩ := by
  unfold InventoryIndex.plan at planned
  dsimp only at planned
  split at planned
  · cases planned
  split at planned
  · cases planned
  rename_i created creationLoop
  split at planned
  · cases planned
  rename_i final transferLoop
  cases planned
  have start : Drafts index effects ledger [] ⟨.empty, index.stateMap.fork, none⟩ :=
    ⟨trivial, holds.records, holds.stateMap, Map.distinct_empty, by simp⟩
  have afterCreations := planLoop_ok
    (P := fun (seen : List ItemReceipt) state => Drafts index effects ledger (seen.map .created) state)
    (fun seen position receipt state next turned drafts => by
      rw [map_append]
      exact drafts.creation turned) [] creationLoop start
  have afterTransfers := planLoop_ok
    (P := fun (seen : List AssetTransfer) state =>
      Drafts index effects ledger (creations.receipts.map .created ++ seen.map .transferred) state)
    (fun seen position transfer state next turned drafts => by
      rw [map_append, ← append_assoc]
      exact drafts.transfer turned) [] transferLoop (by simpa using afterCreations)
  exact afterTransfers

theorem holds_applyPlan
    (drafts : Drafts index effects ledger events ⟨plan.recordUpdates, plan.nextStateMap, plan.replayManifest⟩)
    (finalized : FinalizedCheckpoint) :
    Holds (index.applyPlan finalized plan) (ledger.play index.hasher events) where
  records assetId := by
    have merged := Map.get_foldl_set drafts.distinct index.records assetId
    have drafted := drafts.records assetId
    unfold InventoryIndex.currentRecord at drafted
    cases found : plan.recordUpdates.get assetId
    all_goals
      simp only [found] at merged drafted
      exact merged.trans drafted
  stateMap := drafts.stateMap

/-- A plan with the state it was computed in and what it was computed from. -/
structure PlannedTransaction where
  base : InventoryIndex
  creations : ReceiptBatch
  transfers : List AssetTransfer
  effects : List ReplayedAssetEffect
  plan : InventoryPlan
  computed : base.plan creations transfers effects = .planned plan

structure CommittedTransaction where
  finalized : FinalizedCheckpoint
  planned : PlannedTransaction

/-- An index, the plans computed on it so far, and the transactions it has taken over. -/
structure Host where
  index : InventoryIndex
  plans : List PlannedTransaction
  committed : List CommittedTransaction

inductive Call where
  | plan (creations : ReceiptBatch) (transfers : List AssetTransfer) (effects : List ReplayedAssetEffect)
  | commit (finalized : FinalizedCheckpoint) (plan : ℕ)

namespace Host

def new (hasher : Hasher) (sessionId : Str) (genesisCheckpoint : Digest) : Host :=
  ⟨.new hasher sessionId genesisCheckpoint, [], []⟩

def step (host : Host) : Call → Host
  | .plan creations transfers effects =>
    match computed : host.index.plan creations transfers effects with
    | .planned plan =>
      { host with plans := host.plans ++ [⟨host.index, creations, transfers, effects, plan, computed⟩] }
    | .planRejected _ => host
  | .commit finalized number =>
    match host.plans[number]? with
    | none => host
    | some planned =>
      let answer := host.index.commit finalized planned.plan
      { host with
        index := answer.1
        committed := if answer.2 = .committed then host.committed ++ [⟨finalized, planned⟩] else host.committed }

def run (host : Host) (calls : List Call) : Host := calls.foldl step host

def events (host : Host) : List LedgerEvent :=
  host.committed.flatMap fun transaction =>
    transactionEvents transaction.planned.creations transaction.planned.transfers

end Host

/-- Each committed checkpoint names the one before it and has a later epoch. -/
def Chained : Digest → ℤ → List CommittedTransaction → Prop
  | _, _, [] => True
  | digest, epoch, transaction :: rest =>
    transaction.finalized.verified.checkpoint.previousCheckpoint = digest ∧
      epoch < transaction.finalized.verified.checkpoint.epoch ∧
      Chained transaction.finalized.verified.digest transaction.finalized.verified.checkpoint.epoch rest

/-- What every run keeps; `genesis` and the session are those the index was opened with. -/
structure Faithful (hasher : Hasher) (session : Str) (genesis : Digest) (host : Host) : Prop where
  sameHasher : host.index.hasher = hasher
  sameSession : host.index.session = session
  admissible : Ledger.Admissible hasher .empty host.events
  holds : Holds host.index (empty.play hasher host.events)
  plans : ∀ planned ∈ host.plans, planned.base.checkpointEpoch ≤ host.index.checkpointEpoch ∧
    (planned.base.checkpointEpoch = host.index.checkpointEpoch → planned.base = host.index)
  bases : ∀ transaction ∈ host.committed, transaction.planned.base.checkpointEpoch < host.index.checkpointEpoch
  bases_increase : (host.committed.map (·.planned.base.checkpointEpoch)).Pairwise (· < ·)
  chained : ∀ later, Chained host.index.checkpointDigest host.index.checkpointEpoch later →
    Chained genesis (-1) (host.committed ++ later)
  vouched : ∀ transaction ∈ host.committed,
    ∀ event ∈ transactionEvents transaction.planned.creations transaction.planned.transfers,
      EventVouched session transaction.planned.effects event

theorem faithful_new :
    Faithful hasher session genesis (.new hasher session genesis) where
  sameHasher := rfl
  sameSession := rfl
  admissible := trivial
  holds := ⟨fun _ => rfl, represents_new hasher⟩
  plans := by simp [Host.new]
  bases := by simp [Host.new]
  bases_increase := List.Pairwise.nil
  chained later holds := holds
  vouched := by simp [Host.new]

theorem Host.step_cases (host : Host) (call : Call) :
    host.step call = host ∨
    (∃ planned, planned.base = host.index ∧ call = .plan planned.creations planned.transfers planned.effects ∧
      host.step call = { host with plans := host.plans ++ [planned] }) ∨
    ∃ finalized, ∃ planned ∈ host.plans, host.index.commitRefusal finalized planned.plan = none ∧
      host.step call = { host with
        index := host.index.applyPlan finalized planned.plan
        committed := host.committed ++ [⟨finalized, planned⟩] } := by
  unfold Host.step
  cases call with
  | plan creations transfers effects =>
    dsimp only
    split
    · exact Or.inr (Or.inl ⟨_, rfl, rfl, rfl⟩)
    · exact Or.inl rfl
  | commit finalized number =>
    dsimp only
    cases found : host.plans[number]? with
    | none => exact Or.inl rfl
    | some planned =>
      by_cases committed : (host.index.commit finalized planned.plan).2 = .committed
      · obtain ⟨allowed, applied⟩ := commit_committed committed
        simp only [committed, if_true, applied]
        exact Or.inr (Or.inr ⟨finalized, planned, mem_of_getElem? found, allowed, rfl⟩)
      · exact Or.inl (by simp only [committed, if_false, commit_of_not_committed _ _ _ committed])

theorem Faithful.step (faithful : Faithful hasher session genesis host) (call : Call) :
    Faithful hasher session genesis (host.step call) := by
  rcases host.step_cases call with kept | ⟨planned, base, _, stepped⟩ | ⟨finalized, planned, member, allowed, stepped⟩
  · rwa [kept]
  · rw [stepped]
    refine { faithful with plans := ?_ }
    exact Lib.forall_mem_concat faithful.plans ⟨by rw [base], fun _ => base⟩
  · rw [stepped]
    unfold InventoryIndex.commitRefusal at allowed
    simp (disch := simp) only [Lib.passes, not_or, ne_eq, not_not] at allowed
    obtain ⟨_, ⟨_, _, baseEpoch⟩, _, parent, notEarlier, _⟩ := allowed
    have later := not_le.mp notEarlier
    -- Epochs only grow, so a plan with the current epoch was computed in the current state.
    have current : planned.base = host.index :=
      (faithful.plans planned member).2 ((plan_baseEpoch planned.computed).symm.trans baseEpoch)
    have computed := planned.computed
    rw [current] at computed
    have drafts := plan_planned faithful.holds computed
    have history : ({ host with
        index := host.index.applyPlan finalized planned.plan
        committed := host.committed ++ [⟨finalized, planned⟩] } : Host).events =
        host.events ++ transactionEvents planned.creations planned.transfers := by
      simp [Host.events]
    have sameHasher := faithful.sameHasher
    constructor
    · exact sameHasher
    · exact faithful.sameSession
    · rw [history, admissible_append]
      refine ⟨faithful.admissible, ?_⟩
      rw [← sameHasher]
      exact (sameHasher ▸ drafts.admissible)
    · rw [history, play_append]
      have held := holds_applyPlan drafts finalized
      rw [sameHasher] at held
      exact held
    · intro other otherMember
      have bound := (faithful.plans other otherMember).1
      simp only [InventoryIndex.applyPlan]
      exact ⟨by omega, fun same => by omega⟩
    · refine Lib.forall_mem_concat (fun transaction earlier => (faithful.bases transaction earlier).trans later) ?_
      rw [current]
      exact later
    · rw [map_append, pairwise_append]
      refine ⟨faithful.bases_increase, pairwise_singleton _ _, forall_mem_map.mpr fun transaction earlier => ?_⟩
      rw [map_singleton, forall_mem_singleton, current]
      exact faithful.bases transaction earlier
    · intro rest restChained
      rw [append_assoc]
      exact faithful.chained _ ⟨parent, later, restChained⟩
    · refine Lib.forall_mem_concat faithful.vouched ?_
      rw [← faithful.sameSession]
      exact drafts.vouched

theorem run_append (host : Host) (early late : List Call) : host.run (early ++ late) = (host.run early).run late :=
  foldl_append

theorem faithful_run (hasher : Hasher) (session : Str) (genesis : Digest) (calls : List Call) :
    Faithful hasher session genesis ((Host.new hasher session genesis).run calls) := by
  induction calls using List.reverseRecOn with
  | nil => exact faithful_new
  | append_singleton calls call ih =>
    rw [run_append]
    exact ih.step call

theorem events_run (host : Host) (calls : List Call) : ∃ more, (host.run calls).events = host.events ++ more := by
  induction calls generalizing host with
  | nil => exact ⟨[], (append_nil _).symm⟩
  | cons call rest ih =>
    have stepped : ∃ more, (host.step call).events = host.events ++ more := by
      rcases host.step_cases call with kept | ⟨_, _, _, stepped⟩ | ⟨_, planned, _, _, stepped⟩
      · exact ⟨[], by rw [kept, append_nil]⟩
      · exact ⟨[], by rw [stepped]; simp [Host.events]⟩
      · exact ⟨transactionEvents planned.creations planned.transfers, by rw [stepped]; simp [Host.events]⟩
    obtain ⟨first, firstEvents⟩ := stepped
    obtain ⟨more, laterEvents⟩ := ih (host.step call)
    refine ⟨first ++ more, ?_⟩
    rw [← append_assoc, ← firstEvents]
    exact laterEvents

/-- Every plan was asked for, and only computed plans are committed. -/
structure Traced (calls : List Call) (host : Host) : Prop where
  plans : ∀ planned ∈ host.plans, Call.plan planned.creations planned.transfers planned.effects ∈ calls
  committed : ∀ transaction ∈ host.committed, transaction.planned ∈ host.plans

theorem Traced.step (traced : Traced calls host) (call : Call) : Traced (calls ++ [call]) (host.step call) := by
  have earlier : ∀ planned ∈ host.plans, Call.plan planned.creations planned.transfers planned.effects ∈ calls ++ [call] :=
    fun planned member => mem_append_left _ (traced.plans planned member)
  rcases host.step_cases call with kept | ⟨planned, _, rfl, stepped⟩ | ⟨_, planned, computed, _, stepped⟩
  · rw [kept]
    exact ⟨earlier, traced.committed⟩
  · rw [stepped]
    exact ⟨Lib.forall_mem_concat earlier (by simp),
      fun transaction member => mem_append_left _ (traced.committed transaction member)⟩
  · rw [stepped]
    exact ⟨earlier, Lib.forall_mem_concat traced.committed computed⟩

theorem traced_run (hasher : Hasher) (session : Str) (genesis : Digest) (calls : List Call) :
    Traced calls ((Host.new hasher session genesis).run calls) := by
  induction calls using List.reverseRecOn with
  | nil => exact ⟨by simp [Host.run, Host.new], by simp [Host.run, Host.new]⟩
  | append_singleton calls call ih =>
    rw [run_append]
    exact ih.step call

theorem pairwise_of_chained (chained : Chained digest epoch transactions) :
    (transactions.map (·.finalized.verified.checkpoint.epoch)).Pairwise (· < ·) ∧
      ∀ transaction ∈ transactions, epoch < transaction.finalized.verified.checkpoint.epoch := by
  induction transactions generalizing digest epoch with
  | nil => exact ⟨List.Pairwise.nil, by simp⟩
  | cons transaction rest ih =>
    obtain ⟨_, later, chainedRest⟩ := chained
    obtain ⟨increasing, above⟩ := ih chainedRest
    exact ⟨pairwise_cons.mpr ⟨forall_mem_map.mpr above, increasing⟩,
      forall_mem_cons.mpr ⟨later, fun other member => later.trans (above other member)⟩⟩

open LedgerEvent in
/-- An index that any calls have led to is a ledger: two representations with the same contents, commits that are taken
over whole or not at all and form one chain, assets that are created once and never lost, records that are the fold of
the committed transfers, and no transfer applied twice. -/
theorem index_is_fork_free_ledger (hasher : Hasher) (session : Str) (genesis : Digest) (calls : List Call) :
    let host := (Host.new hasher session genesis).run calls
    (∀ assetId, host.index.stateMap.get assetId = (host.index.get assetId).map serializeAssetRecord) ∧
    (∀ finalized plan, (host.index.commit finalized plan).2 ≠ .committed →
      (host.index.commit finalized plan).1 = host.index) ∧
    (host.committed.map (·.planned.base)).Nodup ∧
    Chained genesis (-1) host.committed ∧
    (host.committed.map (·.finalized.verified.checkpoint.epoch)).Pairwise (· < ·) ∧
    (∀ assetId, Ledger.Accounted hasher host.events host.index.get assetId) ∧
    (∀ later assetId record, host.index.get assetId = some record →
      ∃ kept, (host.run later).index.get assetId = some kept ∧ Ledger.SameItem record kept) ∧
    (∀ transaction ∈ host.committed, ∀ transfer ∈ transaction.planned.transfers,
      Vouched session transaction.planned.effects transfer.sourceEvent (transferEffect transfer)) ∧
    ((host.events.filterMap transfer?).map fun transfer => (transfer.sourceEvent, transferEffect transfer)).Nodup := by
  intro host
  have faithful : Faithful hasher session genesis host := faithful_run hasher session genesis calls
  have chained := faithful.chained [] trivial
  rw [append_nil] at chained
  have records : host.index.get = empty.play hasher host.events := funext faithful.holds.records
  refine ⟨?_, fun finalized plan => commit_of_not_committed host.index finalized plan, ?_, chained,
    (pairwise_of_chained chained).1, ?_, ?_, ?_, ?_⟩
  · intro assetId
    rw [faithful.holds.stateMap.get, records]
  · rw [List.Nodup, pairwise_map]
    have increase := faithful.bases_increase
    rw [pairwise_map] at increase
    exact increase.imp fun below same => absurd (congrArg InventoryIndex.checkpointEpoch same) (ne_of_lt below)
  · intro assetId
    rw [records]
    exact Ledger.accounted faithful.admissible assetId
  · intro later assetId record known
    have faithfulLater : Faithful hasher session genesis (host.run later) := by
      have whole := faithful_run hasher session genesis (calls ++ later)
      rw [run_append] at whole
      exact whole
    obtain ⟨more, history⟩ := events_run host later
    have admissible := faithfulLater.admissible
    rw [history, admissible_append] at admissible
    rw [records] at known
    rw [faithfulLater.holds.records, history, play_append]
    exact Ledger.play_sameItem admissible.2 known
  · intro transaction member transfer transferMember
    exact faithful.vouched transaction member (.transferred transfer)
      (mem_append_right _ (mem_map_of_mem transferMember))
  · have distinct := Ledger.transfers_nodup faithful.admissible
    rw [List.Nodup, pairwise_map] at distinct ⊢
    refine distinct.imp ?_
    intro transfer other different same
    obtain ⟨_, sameEffect⟩ := Prod.mk.inj same
    simp only [transferEffect, AssetEffect.transfer.injEq] at sameEffect
    exact different (Prod.ext sameEffect.1 sameEffect.2.2.2)

end

end ConvergeAudit.Inventory
