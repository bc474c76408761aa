import ConvergeAudit.Merkle.Model
import ConvergeAudit.Moon.Map
import Mathlib.Data.Int.Notation

/-!
`market/receipt.mbt` and the serializers of `inventory_origin/origin.mbt`. A batch can only be built from valid
receipts with distinct assets and distinct outputs.
-/

namespace ConvergeAudit.Market
open Moon Bft Merkle List

structure ItemReceipt where
  assetId : Str
  recipientId : Str
  itemType : Str
  quantity : ℤ
  sourceEvent : Digest
  outputIndex : ℤ
  deriving DecidableEq

inductive ItemReceiptValidation where
  | receiptValid
  | missingAssetId
  | missingRecipientId
  | missingItemType
  | invalidQuantity
  | invalidOutputIndex
  deriving DecidableEq

inductive ReceiptBatchError where
  | invalidReceipt (index : ℤ) (reason : ItemReceiptValidation)
  | duplicateAssetId (assetId : Str)
  | duplicateSourceOutput (index : ℤ)

def serializeItemReceipt (receipt : ItemReceipt) : Str :=
  [lit "item-receipt-v1", receipt.assetId, receipt.recipientId, receipt.itemType, Str.ofInt receipt.quantity,
    receipt.sourceEvent.text, Str.ofInt receipt.outputIndex].foldl appendField Str.empty

theorem serializeItemReceipt_injective : Function.Injective serializeItemReceipt := by
  intro receipt other same
  have texts := foldl_appendField_inj same
  cases receipt
  cases other
  simp only [List.cons.injEq, Str.ofInt_inj, Digest.text_inj, and_true, true_and] at texts
  obtain ⟨rfl, rfl, rfl, rfl, rfl, rfl⟩ := texts
  rfl

def sourceOutputKey (receipt : ItemReceipt) : Str :=
  [receipt.sourceEvent.text, Str.ofInt receipt.outputIndex].foldl appendField Str.empty

def validateItemReceipt (receipt : ItemReceipt) : ItemReceiptValidation :=
  if receipt.assetId = Str.empty then .missingAssetId
  else if receipt.recipientId = Str.empty then .missingRecipientId
  else if receipt.itemType = Str.empty then .missingItemType
  else if receipt.quantity ≤ 0 then .invalidQuantity
  else if receipt.outputIndex < 0 then .invalidOutputIndex
  else .receiptValid

theorem validateItemReceipt_valid_iff :
    validateItemReceipt receipt = .receiptValid ↔ receipt.assetId ≠ Str.empty ∧ receipt.recipientId ≠ Str.empty ∧
      receipt.itemType ≠ Str.empty ∧ 0 < receipt.quantity ∧ 0 ≤ receipt.outputIndex := by
  unfold validateItemReceipt
  by_cases asset : receipt.assetId = Str.empty
  · simp [asset]
  by_cases recipient : receipt.recipientId = Str.empty
  · simp [asset, recipient]
  by_cases item : receipt.itemType = Str.empty
  · simp [asset, recipient, item]
  by_cases quantity : receipt.quantity ≤ 0
  · simp [asset, recipient, item, quantity, Int.not_lt.mpr quantity]
  by_cases output : receipt.outputIndex < 0
  · simp [asset, recipient, item, quantity, output]
  · simp only [asset, recipient, item, quantity, output, if_false, ne_eq, not_false_eq_true, true_and, true_iff]
    omega

/-- The receipts of one delta. `assetIndices` finds the receipt of an asset, `tree` commits to the list. -/
structure ReceiptBatch where
  receipts : List ItemReceipt
  assetIndices : Map Str ℤ
  tree : MerkleTree
  tree_built : ∃ hasher, tree = MerkleTree.build hasher (receipts.map serializeItemReceipt)
  each_valid : ∀ receipt ∈ receipts, validateItemReceipt receipt = .receiptValid
  assets_distinct : (receipts.map ItemReceipt.assetId).Nodup
  outputs_distinct : (receipts.map sourceOutputKey).Nodup

inductive ReceiptBatchBuildResult where
  | built (batch : ReceiptBatch)
  | batchRejected (reason : ReceiptBatchError)

/-- The loop of `buildReceiptBatch`. -/
def scanReceipts : ℤ → Map Str ℤ → Map Str Bool → List ItemReceipt → Except ReceiptBatchError (Map Str ℤ)
  | _, assetIndices, _, [] => .ok assetIndices
  | index, assetIndices, sourceOutputs, receipt :: rest =>
    if validateItemReceipt receipt ≠ .receiptValid then .error (.invalidReceipt index (validateItemReceipt receipt))
    else if assetIndices.contains receipt.assetId then .error (.duplicateAssetId receipt.assetId)
    else if sourceOutputs.contains (sourceOutputKey receipt) then .error (.duplicateSourceOutput index)
    else
      scanReceipts (index + 1) (assetIndices.set receipt.assetId index)
        (sourceOutputs.set (sourceOutputKey receipt) true) rest

theorem scanReceipts_ok (scanned : scanReceipts index assetIndices sourceOutputs receipts = .ok final) :
    (∀ receipt ∈ receipts, validateItemReceipt receipt = .receiptValid ∧
      assetIndices.contains receipt.assetId = false ∧ sourceOutputs.contains (sourceOutputKey receipt) = false) ∧
    (receipts.map ItemReceipt.assetId).Nodup ∧ (receipts.map sourceOutputKey).Nodup := by
  induction receipts generalizing index assetIndices sourceOutputs with
  | nil => simp
  | cons receipt rest ih =>
    unfold scanReceipts at scanned
    simp (disch := simp) only [Lib.passes, ne_eq, not_not, Bool.not_eq_true] at scanned
    obtain ⟨valid, newAsset, newOutput, scanned⟩ := scanned
    obtain ⟨each, assets, outputs⟩ := ih scanned
    have later : ∀ other ∈ rest, other.assetId ≠ receipt.assetId ∧ assetIndices.contains other.assetId = false ∧
        sourceOutputKey other ≠ sourceOutputKey receipt ∧ sourceOutputs.contains (sourceOutputKey other) = false := by
      intro other member
      obtain ⟨_, asset, output⟩ := each other member
      simpa [Map.contains_set, and_assoc] using And.intro asset output
    refine ⟨?_, ?_, ?_⟩
    · intro other member
      rcases mem_cons.mp member with same | member
      · rw [same]
        exact ⟨valid, newAsset, newOutput⟩
      · exact ⟨(each other member).1, (later other member).2.1, (later other member).2.2.2⟩
    · rw [map_cons, nodup_cons]
      refine ⟨?_, assets⟩
      intro repeated
      obtain ⟨other, member, same⟩ := mem_map.mp repeated
      exact (later other member).1 same
    · rw [map_cons, nodup_cons]
      refine ⟨?_, outputs⟩
      intro repeated
      obtain ⟨other, member, same⟩ := mem_map.mp repeated
      exact (later other member).2.2.1 same

def buildReceiptBatch (hasher : Hasher) (receipts : List ItemReceipt) : ReceiptBatchBuildResult :=
  match scanned : scanReceipts 0 .empty .empty receipts with
  | .error reason => .batchRejected reason
  | .ok assetIndices =>
    .built
      { receipts
        assetIndices
        tree := MerkleTree.build hasher (receipts.map serializeItemReceipt)
        tree_built := ⟨hasher, rfl⟩
        each_valid := fun receipt member => ((scanReceipts_ok scanned).1 receipt member).1
        assets_distinct := (scanReceipts_ok scanned).2.1
        outputs_distinct := (scanReceipts_ok scanned).2.2 }

def ReceiptBatch.root (self : ReceiptBatch) : Digest := self.tree.root

structure ItemReceiptProof where
  receipt : ItemReceipt
  merkleProof : MerkleProof

def ReceiptBatch.proofFor (self : ReceiptBatch) (assetId : Str) : Option ItemReceiptProof :=
  match self.assetIndices.get assetId with
  | none => none
  | some index =>
    match self.tree.proof index with
    | none => none
    -- `proof` has checked the bounds of the index
    | some proof => self.receipts[index.toNat]?.map fun receipt => ⟨receipt, proof⟩

theorem buildReceiptBatch_built (built : buildReceiptBatch hasher receipts = .built batch) :
    batch.receipts = receipts ∧ batch.root = (MerkleTree.build hasher (receipts.map serializeItemReceipt)).root := by
  unfold buildReceiptBatch at built
  split at built
  · cases built
  · cases built
    exact ⟨rfl, rfl⟩

end ConvergeAudit.Market
