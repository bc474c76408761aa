import ConvergeAudit.Market.Receipts
import ConvergeAudit.Replay.Assets
import ConvergeAudit.Game.Attestation
import ConvergeAudit.AuthMap.Model

/-!
`inventory/inventory.mbt`: a plan is computed without touching the index; a commit takes it over when a finalized
checkpoint authenticates it. `Int` is unbounded here.
-/

namespace ConvergeAudit.Inventory
open Moon Bft Game AuthMap Market Replay

structure AssetRecord where
  assetId : Str
  ownerId : Str
  itemType : Str
  quantity : ℤ
  originSourceEvent : Digest
  originOutputIndex : ℤ
  originReceiptDigest : Digest
  version : ℤ
  lastEvent : Digest
  lineageRoot : Digest
  deriving DecidableEq

structure AssetTransfer where
  assetId : Str
  fromOwner : Str
  toOwner : Str
  expectedVersion : ℤ
  sourceEvent : Digest

structure AssetLineageTransition where
  assetId : Str
  originReceiptDigest : Digest
  fromOwner : Str
  toOwner : Str
  expectedVersion : ℤ
  previousEvent : Digest
  sourceEvent : Digest
  previousLineageRoot : Digest
  deriving DecidableEq

inductive TransferValidation where
  | unknownAsset
  | ownerMismatch
  | versionMismatch
  | invalidRecipient
  | sameOwner
  | unreplayedSourceEvent

inductive InventoryPlanError where
  | duplicateAsset (assetId : Str)
  | unreplayedCreation (index : ℤ)
  | replayManifestConflict
  | invalidTransfer (index : ℤ) (reason : TransferValidation)

inductive InventoryCommitResult where
  | committed
  | alreadyCommitted
  | stalePlan
  | sessionMismatch
  | previousCheckpointMismatch
  | epochRegression
  | replayManifestMismatch
  | assetDeltaRootMismatch
  | publicStateRootMismatch
  deriving DecidableEq

structure InventoryIndex where
  hasher : Hasher
  session : Str
  records : Map Str AssetRecord
  stateMap : AuthenticatedMap
  checkpointDigest : Digest
  checkpointEpoch : ℤ

structure InventoryPlan where
  baseRoot : Digest
  baseCheckpoint : Digest
  baseEpoch : ℤ
  recordUpdates : Map Str AssetRecord
  nextStateMap : AuthenticatedMap
  resultingRoot : Digest
  deltaRoot : Digest
  replayManifest : Option Digest

inductive InventoryPlanResult where
  | planned (plan : InventoryPlan)
  | planRejected (reason : InventoryPlanError)

def serializeAssetRecord (record : AssetRecord) : Str :=
  [lit "asset-record-v2", record.assetId, record.ownerId, record.itemType, Str.ofInt record.quantity,
    record.originSourceEvent.text, Str.ofInt record.originOutputIndex, record.originReceiptDigest.text,
    Str.ofInt record.version, record.lastEvent.text, record.lineageRoot.text].foldl appendField Str.empty

theorem serializeAssetRecord_injective : Function.Injective serializeAssetRecord := by
  intro record other same
  have texts := foldl_appendField_inj same
  cases record
  cases other
  simp only [List.cons.injEq, Str.ofInt_inj, Digest.text_inj, and_true, true_and] at texts
  obtain ⟨rfl, rfl, rfl, rfl, rfl, rfl, rfl, rfl, rfl, rfl⟩ := texts
  rfl

def serializeInventoryOriginReceipt (receipt : ItemReceipt) : Str :=
  [lit "inventory-origin-receipt-v1", serializeItemReceipt receipt].foldl appendField Str.empty

def inventoryOriginReceiptDigest (hasher : Hasher) (receipt : ItemReceipt) : Digest :=
  hasher.hashString (serializeInventoryOriginReceipt receipt)

def serializeInventoryOriginLineage (receiptDigest : Digest) : Str :=
  [lit "inventory-origin-lineage-v1", receiptDigest.text].foldl appendField Str.empty

def inventoryOriginLineageRoot (hasher : Hasher) (receipt : ItemReceipt) : Digest :=
  hasher.hashString (serializeInventoryOriginLineage (inventoryOriginReceiptDigest hasher receipt))

def assetLineageTransition (record : AssetRecord) (transfer : AssetTransfer) : AssetLineageTransition where
  assetId := transfer.assetId
  originReceiptDigest := record.originReceiptDigest
  fromOwner := transfer.fromOwner
  toOwner := transfer.toOwner
  expectedVersion := transfer.expectedVersion
  previousEvent := record.lastEvent
  sourceEvent := transfer.sourceEvent
  previousLineageRoot := record.lineageRoot

def serializeAssetLineageTransition (transition : AssetLineageTransition) : Str :=
  [lit "inventory-asset-lineage-transition-v1", transition.assetId, transition.originReceiptDigest.text,
    transition.fromOwner, transition.toOwner, Str.ofInt transition.expectedVersion, transition.previousEvent.text,
    transition.sourceEvent.text, transition.previousLineageRoot.text].foldl appendField Str.empty

theorem serializeAssetLineageTransition_injective : Function.Injective serializeAssetLineageTransition := by
  intro transition other same
  have texts := foldl_appendField_inj same
  cases transition
  cases other
  simp only [List.cons.injEq, Str.ofInt_inj, Digest.text_inj, and_true, true_and] at texts
  obtain ⟨rfl, rfl, rfl, rfl, rfl, rfl, rfl, rfl⟩ := texts
  rfl

def assetLineageTransitionRoot (hasher : Hasher) (transition : AssetLineageTransition) : Digest :=
  hasher.hashString (serializeAssetLineageTransition transition)

def createRecord (hasher : Hasher) (receipt : ItemReceipt) : AssetRecord where
  assetId := receipt.assetId
  ownerId := receipt.recipientId
  itemType := receipt.itemType
  quantity := receipt.quantity
  originSourceEvent := receipt.sourceEvent
  originOutputIndex := receipt.outputIndex
  originReceiptDigest := inventoryOriginReceiptDigest hasher receipt
  version := 0
  lastEvent := receipt.sourceEvent
  lineageRoot := inventoryOriginLineageRoot hasher receipt

def transferRecord (hasher : Hasher) (record : AssetRecord) (transfer : AssetTransfer) : AssetRecord :=
  { record with
    ownerId := transfer.toOwner
    version := record.version + 1
    lastEvent := transfer.sourceEvent
    lineageRoot := assetLineageTransitionRoot hasher (assetLineageTransition record transfer) }

def transferTransitionAllowed (assetExists ownerMatches versionMatches recipientValid changesOwner
    sourceAuthenticated : Bool) : Bool :=
  assetExists && ownerMatches && versionMatches && recipientValid && changesOwner && sourceAuthenticated

def validateTransfer (record : Option AssetRecord) (transfer : AssetTransfer) (sourceReplayed : Bool) :
    Option TransferValidation :=
  match record with
  | none => some .unknownAsset
  | some current =>
    if transferTransitionAllowed true (current.ownerId == transfer.fromOwner)
        (current.version == transfer.expectedVersion) (transfer.toOwner != Str.empty)
        (transfer.fromOwner != transfer.toOwner) sourceReplayed then none
    else if transfer.toOwner = Str.empty then some .invalidRecipient
    else if transfer.fromOwner = transfer.toOwner then some .sameOwner
    else if !sourceReplayed then some .unreplayedSourceEvent
    else if current.ownerId ≠ transfer.fromOwner then some .ownerMismatch
    else if current.version ≠ transfer.expectedVersion then some .versionMismatch
    else some .ownerMismatch

theorem validateTransfer_none_iff :
    validateTransfer record transfer sourceReplayed = none ↔
      ∃ current, record = some current ∧ current.ownerId = transfer.fromOwner ∧
        current.version = transfer.expectedVersion ∧ transfer.toOwner ≠ Str.empty ∧
        transfer.fromOwner ≠ transfer.toOwner ∧ sourceReplayed = true := by
  cases record with
  | none => simp [validateTransfer]
  | some current =>
    unfold validateTransfer transferTransitionAllowed
    dsimp only
    split
    · rename_i allowed
      simpa [and_assoc] using allowed
    · rename_i refused
      simp (disch := simp) only [Lib.passes, reduceCtorEq, and_false, false_iff]
      rintro ⟨_, ⟨⟩, owner, version, recipient, changes, replayed⟩
      simp [owner, version, recipient, changes, replayed] at refused

def creationEffect (receipt : ItemReceipt) : AssetEffect :=
  .create receipt.assetId receipt.recipientId receipt.itemType receipt.quantity receipt.outputIndex

def transferEffect (transfer : AssetTransfer) : AssetEffect :=
  .transfer transfer.assetId transfer.fromOwner transfer.toOwner transfer.expectedVersion

def replayKey (sourceDigest : Digest) (effect : AssetEffect) : Str :=
  [sourceDigest.text, serializeAssetEffect effect].foldl appendField Str.empty

/-- The first replayed effect under each key, and whether two under one key come from different manifests. -/
def replayedEffectsByKey (effects : List ReplayedAssetEffect) : Map Str ReplayedAssetEffect × Bool :=
  effects.foldl (fun (indexed, manifestConflict) replayed =>
    let key := replayKey replayed.sourceDigest replayed.effect
    match indexed.get key with
    | some existing => (indexed, manifestConflict || existing.manifestDigest != replayed.manifestDigest)
    | none => (indexed.set key replayed, manifestConflict)) (.empty, false)

/-- The local variables of `plan` that its loops change. -/
structure PlanState where
  recordUpdates : Map Str AssetRecord
  nextStateMap : AuthenticatedMap
  replayManifest : Option Digest

namespace PlanState

def useManifest (self : PlanState) (manifestDigest : Digest) : Except InventoryPlanError PlanState :=
  match self.replayManifest with
  | none => .ok { self with replayManifest := some manifestDigest }
  | some manifest => if manifest ≠ manifestDigest then .error .replayManifestConflict else .ok self

def writeRecord [StrOrder] (self : PlanState) (assetId : Str) (record : AssetRecord) : PlanState :=
  { self with
    recordUpdates := self.recordUpdates.set assetId record
    nextStateMap := (self.nextStateMap.put assetId (serializeAssetRecord record)).1 }

end PlanState

namespace InventoryIndex

def new (hasher : Hasher) (sessionId : Str) (genesisCheckpoint : Digest) : InventoryIndex where
  hasher := hasher
  session := sessionId
  records := .empty
  stateMap := .new hasher
  checkpointDigest := genesisCheckpoint
  checkpointEpoch := -1

def root (self : InventoryIndex) : Digest := self.stateMap.root

def get (self : InventoryIndex) (assetId : Str) : Option AssetRecord := self.records.get assetId

section
variable [StrOrder]

section
variable (self : InventoryIndex) (replayed : Map Str ReplayedAssetEffect)

def planCreation (index : ℤ) (receipt : ItemReceipt) (state : PlanState) : Except InventoryPlanError PlanState :=
  if state.recordUpdates.contains receipt.assetId || self.records.contains receipt.assetId then
    .error (.duplicateAsset receipt.assetId)
  else
    let expectedEffect := creationEffect receipt
    match replayed.get (replayKey receipt.sourceEvent expectedEffect) with
    | none => .error (.unreplayedCreation index)
    | some capability =>
      if !capability.matchesEffect self.session capability.manifestDigest receipt.sourceEvent expectedEffect then
        .error (.unreplayedCreation index)
      else
        (state.useManifest capability.manifestDigest).map
          (·.writeRecord receipt.assetId (createRecord self.hasher receipt))

/-- The record a transfer is checked against: that of the plan, or else that of the index. -/
def currentRecord (state : PlanState) (assetId : Str) : Option AssetRecord :=
  match state.recordUpdates.get assetId with
  | some record => some record
  | none => self.records.get assetId

def planTransfer (index : ℤ) (transfer : AssetTransfer) (state : PlanState) : Except InventoryPlanError PlanState :=
  let current := self.currentRecord state transfer.assetId
  let expectedEffect := transferEffect transfer
  let capability := replayed.get (replayKey transfer.sourceEvent expectedEffect)
  let sourceReplayed := match capability with
    | none => false
    | some value => value.matchesEffect self.session value.manifestDigest transfer.sourceEvent expectedEffect
  match validateTransfer current transfer sourceReplayed with
  | some reason => .error (.invalidTransfer index reason)
  | none =>
    match capability, current with
    | some matched, some record =>
      (state.useManifest matched.manifestDigest).map
        (·.writeRecord transfer.assetId (transferRecord self.hasher record transfer))
    -- The two unwraps of the source; `validateTransfer` refuses both.
    | _, _ => .error (.invalidTransfer index .ownerMismatch)

def planLoop {α : Type} (turn : ℤ → α → PlanState → Except InventoryPlanError PlanState) :
    ℤ → List α → PlanState → Except InventoryPlanError PlanState
  | _, [], state => .ok state
  | index, item :: rest, state =>
    match turn index item state with
    | .error reason => .error reason
    | .ok next => planLoop turn (index + 1) rest next

def plan (creations : ReceiptBatch) (transfers : List AssetTransfer)
    (effects : List ReplayedAssetEffect) : InventoryPlanResult :=
  let replayIndex := replayedEffectsByKey effects
  if replayIndex.2 then .planRejected .replayManifestConflict
  else
    match planLoop (self.planCreation replayIndex.1) 0 creations.receipts ⟨.empty, self.stateMap.fork, none⟩ with
    | .error reason => .planRejected reason
    | .ok created =>
      match planLoop (self.planTransfer replayIndex.1) 0 transfers created with
      | .error reason => .planRejected reason
      | .ok state =>
        .planned
          { baseRoot := self.root
            baseCheckpoint := self.checkpointDigest
            baseEpoch := self.checkpointEpoch
            recordUpdates := state.recordUpdates
            nextStateMap := state.nextStateMap
            resultingRoot := state.nextStateMap.root
            deltaRoot := creations.root
            replayManifest := state.replayManifest }

end

end

section
variable (self : InventoryIndex) (finalized : FinalizedCheckpoint) (plan : InventoryPlan)

def applyPlan : InventoryIndex :=
  { self with
    records := plan.recordUpdates.entries.foldl (fun records entry => records.set entry.1 entry.2) self.records
    stateMap := plan.nextStateMap
    checkpointDigest := finalized.verified.digest
    checkpointEpoch := finalized.verified.checkpoint.epoch }

/-- The reason not to commit, as the checks of `commit` find it. -/
def commitRefusal : Option InventoryCommitResult :=
  let checkpoint := finalized.verified.checkpoint
  if finalized.verified.digest = self.checkpointDigest then some .alreadyCommitted
  else if plan.baseRoot ≠ self.root ∨ plan.baseCheckpoint ≠ self.checkpointDigest ∨
      plan.baseEpoch ≠ self.checkpointEpoch then some .stalePlan
  else if checkpoint.sessionId ≠ self.session then some .sessionMismatch
  else if checkpoint.previousCheckpoint ≠ self.checkpointDigest then some .previousCheckpointMismatch
  else if checkpoint.epoch ≤ self.checkpointEpoch then some .epochRegression
  else if plan.replayManifest.any (· ≠ checkpoint.manifestDigest) then some .replayManifestMismatch
  else if checkpoint.assetDeltaRoot ≠ plan.deltaRoot then some .assetDeltaRootMismatch
  else if checkpoint.publicStateRoot ≠ plan.resultingRoot then some .publicStateRootMismatch
  else none

def commit : InventoryIndex × InventoryCommitResult :=
  match self.commitRefusal finalized plan with
  | some reason => (self, reason)
  | none => (self.applyPlan finalized plan, .committed)

end

end InventoryIndex

end ConvergeAudit.Inventory
