import ConvergeAudit.Inventory.Runs
import ConvergeAudit.AuthMap.Proofs
import ConvergeAudit.Bft.Ledger

/-!
A listing that is accepted against the root of an index shows a record of that index, and every record of it has an
accepted listing, for its owner only.
-/

namespace ConvergeAudit.Inventory
open Moon Bft Game AuthMap Market Replay List

structure InventoryProof where
  record : AssetRecord
  mapProof : AuthMapProof

def inventoryRecordValid (record : AssetRecord) : Bool :=
  record.assetId != Str.empty && record.ownerId != Str.empty && record.itemType != Str.empty &&
    decide (record.quantity > 0) && record.originSourceEvent.text != Str.empty &&
    decide (record.originOutputIndex ≥ 0) && record.originReceiptDigest.text != Str.empty &&
    decide (record.version ≥ 0) && record.lastEvent.text != Str.empty && record.lineageRoot.text != Str.empty

theorem inventoryRecordValid_iff :
    inventoryRecordValid record = true ↔ record.assetId ≠ Str.empty ∧ record.ownerId ≠ Str.empty ∧
      record.itemType ≠ Str.empty ∧ 0 < record.quantity ∧ record.originSourceEvent.text ≠ Str.empty ∧
      0 ≤ record.originOutputIndex ∧ record.originReceiptDigest.text ≠ Str.empty ∧ 0 ≤ record.version ∧
      record.lastEvent.text ≠ Str.empty ∧ record.lineageRoot.text ≠ Str.empty := by
  simp [inventoryRecordValid, and_assoc]

def marketAccepts (decision : CheckpointDecision) (itemIncluded rejectedAncestor : Bool) : Bool :=
  match decision with
  | .finalized => itemIncluded && !rejectedAncestor
  | _ => false

section
variable [StrOrder]

def InventoryIndex.proof (self : InventoryIndex) (assetId : Str) : Option InventoryProof :=
  match self.records.get assetId, self.stateMap.proof assetId with
  | some record, some mapProof => some ⟨record, mapProof⟩
  | _, _ => none

def verifyInventoryProof (hasher : Hasher) (expectedRoot : Digest) (proof : InventoryProof) : Bool :=
  inventoryRecordValid proof.record && proof.record.assetId == proof.mapProof.key &&
    serializeAssetRecord proof.record == proof.mapProof.value && verifyMembership hasher expectedRoot proof.mapProof

def marketAcceptsInventoryListing (hasher : Hasher) (finalized : FinalizedCheckpoint) (proof : InventoryProof)
    (sellerId : Str) (rejectedAncestor : Bool) : Bool :=
  let included := proof.record.ownerId == sellerId &&
    verifyInventoryProof hasher finalized.verified.checkpoint.publicStateRoot proof
  marketAccepts .finalized included rejectedAncestor

theorem verifyInventoryProof_iff :
    verifyInventoryProof hasher expectedRoot proof = true ↔ inventoryRecordValid proof.record = true ∧
      proof.record.assetId = proof.mapProof.key ∧ serializeAssetRecord proof.record = proof.mapProof.value ∧
      verifyMembership hasher expectedRoot proof.mapProof = true := by
  simp [verifyInventoryProof, and_assoc]

theorem marketAcceptsInventoryListing_iff :
    marketAcceptsInventoryListing hasher finalized proof sellerId false = true ↔ proof.record.ownerId = sellerId ∧
      verifyInventoryProof hasher finalized.verified.checkpoint.publicStateRoot proof = true := by
  simp [marketAcceptsInventoryListing, marketAccepts]

theorem verifyInventoryProof_sound (holds : Holds index ledger) (injective : index.hasher.CollisionFree)
    (accepted : verifyInventoryProof index.hasher index.root proof = true) :
    index.get proof.record.assetId = some proof.record := by
  obtain ⟨_, sameKey, sameText, member⟩ := verifyInventoryProof_iff.mp accepted
  obtain ⟨treap, sameMap, contents⟩ := holds.stateMap
  unfold InventoryIndex.root at member
  rw [sameMap] at member
  have found := (verifyMembership_sound treap injective member).1
  rw [get_ofTreap, contents, ← sameKey, ← sameText] at found
  obtain ⟨record, known, texts⟩ := Option.map_eq_some_iff.mp found
  rw [holds.records, known, serializeAssetRecord_injective texts]

theorem proof_of_known (holds : Holds index ledger) (known : index.get assetId = some record)
    (named : record.assetId = assetId) (valid : inventoryRecordValid record = true) :
    ∃ proof, index.proof assetId = some proof ∧ proof.record = record ∧
      verifyInventoryProof index.hasher index.root proof = true := by
  obtain ⟨treap, sameMap, contents⟩ := holds.stateMap
  have stored : (ofTreap index.hasher treap).get assetId = some (serializeAssetRecord record) := by
    have recorded := holds.records assetId
    rw [known] at recorded
    rw [get_ofTreap, contents]
    simp only [← recorded, Option.map_some]
  obtain ⟨⟨mapProof, given, sameKey, sameValue, member⟩, _⟩ := proof_complete treap stored
  rw [← sameMap] at given member
  refine ⟨⟨record, mapProof⟩, ?_, rfl, ?_⟩
  · unfold InventoryIndex.get at known
    simp only [InventoryIndex.proof, known, given]
  · exact verifyInventoryProof_iff.mpr ⟨valid, named.trans sameKey.symm, sameValue.symm, member⟩

/-- An event from a source with a digest, and for a creation from a valid receipt. -/
def Sourced : LedgerEvent → Prop
  | .created receipt => validateItemReceipt receipt = .receiptValid ∧ receipt.sourceEvent.text ≠ Str.empty
  | .transferred transfer => transfer.sourceEvent.text ≠ Str.empty

omit [StrOrder] in
theorem inventoryRecordValid_created (neverEmpty : hasher.NeverEmpty) (sourced : Sourced (.created receipt)) :
    inventoryRecordValid (createRecord hasher receipt) = true := by
  obtain ⟨valid, source⟩ := sourced
  obtain ⟨asset, recipient, item, quantity, output⟩ := validateItemReceipt_valid_iff.mp valid
  exact inventoryRecordValid_iff.mpr ⟨asset, recipient, item, quantity, source, output, neverEmpty _, le_refl _,
    source, neverEmpty _⟩

omit [StrOrder] in
theorem play_records_valid (neverEmpty : hasher.NeverEmpty) (admissible : Ledger.Admissible hasher .empty events)
    (sourced : ∀ event ∈ events, Sourced event) :
    ∀ assetId record, Ledger.empty.play hasher events assetId = some record →
      record.assetId = assetId ∧ inventoryRecordValid record = true := by
  refine Ledger.admissible_induction (P := fun events ledger => (∀ event ∈ events, Sourced event) →
    ∀ assetId record, ledger assetId = some record → record.assetId = assetId ∧ inventoryRecordValid record = true)
    ?_ ?_ admissible sourced
  · intro _ assetId record known
    cases known
  · intro events ledger event valid admits sourced assetId record known
    have before := valid fun other member => sourced other (mem_append_left _ member)
    have source := sourced event (by simp)
    cases event with
    | created receipt =>
      rw [Ledger.after, Function.update_apply] at known
      split at known
      · rename_i same
        cases known
        exact ⟨same.symm, inventoryRecordValid_created neverEmpty source⟩
      · exact before assetId record known
    | transferred transfer =>
      rw [Ledger.after, Function.update_apply] at known
      split at known
      · rename_i same
        obtain ⟨current, recorded, _, _, recipient, _⟩ := admits
        rw [recorded] at known
        cases known
        obtain ⟨named, validBefore⟩ := before _ _ recorded
        obtain ⟨asset, _, item, quantity, origin, output, receipt, version, _⟩ :=
          inventoryRecordValid_iff.mp validBefore
        exact ⟨named.trans same.symm, inventoryRecordValid_iff.mpr ⟨asset, recipient, item, quantity, origin, output,
          receipt, Int.le_add_one version, source, neverEmpty _⟩⟩
      · exact before assetId record known

variable [DoubleFormat]

/-- The replayed effects that a call brings in come from events that an adapter with this hasher gave out. -/
def Call.Authentic (hasher : Hasher) : Call → Prop
  | .plan _ _ effects => ∀ capability ∈ effects, AuditAdapter.Exposed hasher capability.source
  | .commit _ _ => True

theorem events_sourced (neverEmpty : hasher.NeverEmpty)
    (authentic : ∀ capability ∈ effects, AuditAdapter.Exposed hasher capability.source)
    (vouched : ∀ event ∈ transactionEvents creations transfers, EventVouched session effects event) :
    ∀ event ∈ transactionEvents creations transfers, Sourced event := by
  have named : ∀ source effect, Inventory.Vouched session effects source effect → source.text ≠ Str.empty := by
    rintro source effect ⟨capability, member, _, same, _⟩
    obtain ⟨signed, event, hash⟩ := (authentic capability member).signed
    rw [← same, ReplayedAssetEffect.sourceDigest, event]
    change signed.digest.text ≠ Str.empty
    rw [hash]
    exact neverEmpty _
  intro event member
  have backed := vouched event member
  rcases mem_append.mp member with created | transferred
  · obtain ⟨receipt, receiptMember, rfl⟩ := mem_map.mp created
    exact ⟨creations.each_valid receipt receiptMember, named _ _ backed⟩
  · obtain ⟨transfer, _, rfl⟩ := mem_map.mp transferred
    exact named _ _ backed

/-- An accepted listing against the root of an index shows a record of the index and is made by its owner; every asset of
an index over authentic effects has a proof that is accepted, for its owner and for nobody else. -/
theorem listings_sound_and_complete (hasher : Hasher) (session : Str) (genesis : Digest) (calls : List Call)
    (finalized : FinalizedCheckpoint)
    (published : finalized.verified.checkpoint.publicStateRoot =
      ((Host.new hasher session genesis).run calls).index.root) :
    let index := ((Host.new hasher session genesis).run calls).index
    (hasher.CollisionFree → ∀ proof seller, marketAcceptsInventoryListing hasher finalized proof seller false = true →
      index.get proof.record.assetId = some proof.record ∧ proof.record.ownerId = seller) ∧
    (hasher.NeverEmpty → (∀ call ∈ calls, call.Authentic hasher) → ∀ assetId record, index.get assetId = some record →
      ∃ proof, index.proof assetId = some proof ∧ proof.record = record ∧
        verifyInventoryProof hasher finalized.verified.checkpoint.publicStateRoot proof = true ∧
        ∀ seller, marketAcceptsInventoryListing hasher finalized proof seller false = true ↔ seller = record.ownerId) := by
  intro index
  have faithful := faithful_run hasher session genesis calls
  have traced := traced_run hasher session genesis calls
  have sameHasher := faithful.sameHasher
  refine ⟨?_, ?_⟩
  · intro injective proof seller accepted
    obtain ⟨owner, included⟩ := marketAcceptsInventoryListing_iff.mp accepted
    have injectiveHere : index.hasher.CollisionFree := by
      rw [sameHasher]
      exact injective
    have includedHere : verifyInventoryProof index.hasher index.root proof = true := by
      rw [sameHasher, ← published]
      exact included
    exact ⟨verifyInventoryProof_sound faithful.holds injectiveHere includedHere, owner⟩
  · intro neverEmpty authentic assetId record known
    have sourced : ∀ event ∈ ((Host.new hasher session genesis).run calls).events, Sourced event := by
      intro event member
      obtain ⟨transaction, committed, happened⟩ := mem_flatMap.mp member
      have effects := authentic _ (traced.plans _ (traced.committed transaction committed))
      exact events_sourced neverEmpty effects (faithful.vouched transaction committed) event happened
    have played := (faithful.holds.records assetId).symm.trans known
    obtain ⟨named, valid⟩ := play_records_valid neverEmpty faithful.admissible sourced assetId record played
    obtain ⟨proof, given, sameRecord, included⟩ := proof_of_known faithful.holds known named valid
    rw [show ((Host.new hasher session genesis).run calls).index.hasher = hasher from sameHasher, ← published] at included
    refine ⟨proof, given, sameRecord, included, ?_⟩
    intro seller
    rw [marketAcceptsInventoryListing_iff, sameRecord]
    exact ⟨fun accepted => accepted.1.symm, fun same => ⟨same.symm, included⟩⟩

end

section
open Shortlex DoubleBits

namespace ListingSample

def signer : Signer := ⟨fun digest => ⟨digest.text⟩, ⟨"k"⟩⟩

def adapter : AuditAdapter := .new .marked ⟨fun _ _ _ => true⟩ "s"

def source : SignedEvent := adapter.sign signer { id := ⟨⟨"p"⟩, 0⟩, deps := [], lamport := 0, op := .delete "t" "r" } []

def receipt (assetId ownerId : Str) (outputIndex : ℤ) : ItemReceipt := ⟨assetId, ownerId, "i", 1, source.digest, outputIndex⟩

def receipts : List ItemReceipt := [receipt "a" "o" 0, receipt "b" "q" 1]

def batch : ReceiptBatch where
  receipts := receipts
  assetIndices := (Map.empty.set (lit "a") 0).set "b" 1
  tree := Merkle.MerkleTree.build .marked (receipts.map serializeItemReceipt)
  tree_built := ⟨.marked, rfl⟩
  each_valid := by decide +kernel
  assets_distinct := by decide +kernel
  outputs_distinct := by decide +kernel

def effects : List ReplayedAssetEffect :=
  receipts.map fun receipt => ⟨authenticatedEvent source, ⟨"m"⟩, creationEffect receipt⟩

def recorded : AuthenticatedMap :=
  receipts.foldl (fun map receipt => (map.put receipt.assetId (serializeAssetRecord (createRecord .marked receipt))).1)
    (.new .marked)

def finalized : FinalizedCheckpoint where
  verified := ⟨⟨{
    sessionId := "s"
    epoch := 0
    previousCheckpoint := ⟨"g"⟩
    manifestDigest := ⟨"m"⟩
    eventRoot := ⟨"e"⟩
    publicStateRoot := recorded.root
    assetDeltaRoot := batch.root
    hiddenStateCommitment := none }, ⟨"d"⟩, ⟨"x"⟩, ⟨"k"⟩⟩⟩

def calls : List Call := [.plan batch [] effects, .commit finalized 0]

end ListingSample

open ListingSample

/-- The listing of the second asset is accepted for its owner, and not for the owner of the first. -/
theorem listings_sound_and_complete_two_assets :
    ∃ proof, ((Host.new .marked "s" ⟨"g"⟩).run calls).index.proof "b" = some proof ∧
      marketAcceptsInventoryListing .marked finalized proof "q" false = true ∧
      marketAcceptsInventoryListing .marked finalized proof "o" false = false ∧
      ∀ other seller, marketAcceptsInventoryListing .marked finalized other seller false = true →
        other.record.assetId = "b" → other.record = proof.record := by
  have known : ((Host.new .marked "s" ⟨"g"⟩).run calls).index.get "b" =
      some (createRecord .marked (receipt "b" "q" 1)) := by decide +kernel
  have exposed : AuditAdapter.Exposed .marked (authenticatedEvent source) :=
    ⟨⟨fun _ _ _ => true⟩, "s", [.registerPeer ⟨"p"⟩ ⟨"k"⟩, .deliver source], .returned false (authenticatedEvent source),
      by decide +kernel, rfl⟩
  have authentic : ∀ call ∈ calls, call.Authentic .marked := by
    intro call member
    rcases mem_cons.mp member with planned | committed
    · rw [planned]
      intro given givenMember
      obtain ⟨_, _, rfl⟩ := mem_map.mp givenMember
      exact exposed
    · rw [mem_singleton.mp committed]
      trivial
  have published : finalized.verified.checkpoint.publicStateRoot =
      ((Host.new .marked "s" ⟨"g"⟩).run calls).index.root := by decide +kernel
  obtain ⟨sound, complete⟩ := listings_sound_and_complete .marked "s" ⟨"g"⟩ calls finalized published
  obtain ⟨proof, given, shown, _, accepted⟩ := complete Hasher.marked_neverEmpty authentic "b" _ known
  refine ⟨proof, given, (accepted "q").mpr rfl, ?_, fun other seller listed named => ?_⟩
  · rw [← Bool.not_eq_true, accepted "o"]
    decide
  · have found := (sound Hasher.marked_collisionFree other seller listed).1
    rw [named, known] at found
    exact (Option.some.inj found).symm.trans shown.symm

end

end ConvergeAudit.Inventory
