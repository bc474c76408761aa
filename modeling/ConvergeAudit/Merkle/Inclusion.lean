import Mathlib.Data.List.GetD
import ConvergeAudit.Merkle.Model

/-!
A root fixes the leaf count, hence the shape of every path, and then level by level the siblings on it.
-/

namespace ConvergeAudit.Merkle
open Moon Bft Lib Levels Hasher
open List (nil_append length_map)

theorem canonicalLeafPayload_inj (same : canonicalLeafPayload payload = canonicalLeafPayload other) :
    payload = other := by
  have parts : fields ["merkle-leaf-v1", payload] = fields ["merkle-leaf-v1", other] := by
    simpa [canonicalLeafPayload, appendField_eq, Str.append_assoc] using same
  simpa using fields_injective parts

theorem canonicalNodePayload_inj (same : canonicalNodePayload left right = canonicalNodePayload left' right') :
    left = left' ∧ right = right' := by
  have parts : fields ["merkle-node-v1", left.text, right.text] = fields ["merkle-node-v1", left'.text, right'.text] := by
    simpa [canonicalNodePayload, appendField_eq, Str.append_assoc] using same
  have texts := fields_injective parts
  simpa only [List.cons.injEq, Digest.text_inj, and_true, true_and] using texts

theorem canonicalRootPayload_inj (same : canonicalRootPayload count content = canonicalRootPayload count' content') :
    count = count' ∧ content = content' := by
  have parts : fields ["merkle-root-v1", Str.ofInt count, content.text] =
      fields ["merkle-root-v1", Str.ofInt count', content'.text] := by
    simpa [canonicalRootPayload, appendField_eq, Str.append_assoc] using same
  have texts := fields_injective parts
  simpa only [List.cons.injEq, Str.ofInt_inj, Digest.text_inj, and_true, true_and] using texts

section CollisionFree
variable {hasher : Hasher} (injective : hasher.CollisionFree)
include injective

theorem hashLeaf_injective : Function.Injective (hashLeaf hasher) :=
  fun _ _ same => canonicalLeafPayload_inj (injective same)

theorem hashNode_injective : Function.Injective2 (hashNode hasher) :=
  fun _ _ _ _ same => canonicalNodePayload_inj (injective same)

theorem hashRoot_inj (same : hashRoot hasher count content = hashRoot hasher count' content') :
    count = count' ∧ content = content' :=
  canonicalRootPayload_inj (injective same)

end CollisionFree

def contentRoot (hasher : Hasher) (payloads : List Str) : Digest :=
  if payloads.length = 0 then hashEmpty hasher
  else (top (hashNode hasher) (payloads.map (hashLeaf hasher))).getD 0 default

namespace MerkleTree

theorem root_build :
    (build hasher payloads).root = hashRoot hasher payloads.length (contentRoot hasher payloads) := by
  have raised := raise_eq (hashNode hasher) (payloads.map (hashLeaf hasher)) []
  rw [nil_append] at raised
  unfold root build contentRoot
  by_cases none : payloads.length = 0
  · simp only [length_map, none, if_true]
  · simp only [length_map, none, if_false, raised]

section
open AsyncAuditDigestAdapter

theorem map_nextLevel (hashString : Str → Str) : ∀ current : List Str,
    (nextLevel hashString bridgeFraming current).map Digest.mk =
      parents (hashNode ⟨fun text => ⟨hashString text⟩⟩) (current.map Digest.mk)
  | [] => rfl
  | [last] => by simp [nextLevel, parents, bridgeFraming, hashNode]
  | left :: right :: rest => by
    have shorter := map_nextLevel hashString rest
    have turns : ((left :: right :: rest).length + 1) / 2 = (rest.length + 1) / 2 + 1 := by
      simp only [List.length_cons]
      omega
    rw [List.map_cons, List.map_cons, parents, ← shorter]
    unfold nextLevel
    rw [turns, List.range_succ_eq_map]
    simp [Nat.mul_add, bridgeFraming, hashNode]

theorem map_reduceLevels (hashString : Str → Str) (current : List Str) :
    (reduceLevels hashString bridgeFraming current).map Digest.mk =
      top (hashNode ⟨fun text => ⟨hashString text⟩⟩) (current.map Digest.mk) := by
  fun_induction reduceLevels hashString bridgeFraming current with
  | case1 current many ih => rw [top_many (by rwa [length_map]), ih, map_nextLevel]
  | case2 current few => rw [top_few (by rwa [length_map])]

/-- The adapter's reduction of the levels and the tree of the package hash the same texts. -/
theorem adapter_root_eq_tree_root (hashString : Str → Str) (payloads : List Str) :
    merkleRoot hashString bridgeFraming payloads = (build ⟨fun text => ⟨hashString text⟩⟩ payloads).root.text := by
  rw [root_build]
  unfold merkleRoot contentRoot
  by_cases none : payloads.length = 0
  · simp only [length_map, none, if_true]
    rfl
  · have reduced := map_reduceLevels hashString (payloads.map fun payload => hashString (canonicalLeafPayload payload))
    rw [List.map_map] at reduced
    have head := congrArg (fun level : List Digest => level.getD 0 default) reduced
    simp only [length_map, none, if_false]
    exact congrArg (fun content => hashString (canonicalRootPayload payloads.length content))
      ((List.getD_map _ _ Digest.mk).symm.trans head)

end

@[simp] theorem leafHashes_build : (build hasher payloads).leafHashes = payloads.map (hashLeaf hasher) := by
  unfold build
  dsimp only
  split <;> rfl

theorem levels_build (some : payloads.length ≠ 0) :
    (build hasher payloads).levels =
      below (hashNode hasher) (payloads.map (hashLeaf hasher)) ++
        [top (hashNode hasher) (payloads.map (hashLeaf hasher))] := by
  have raised := raise_eq (hashNode hasher) (payloads.map (hashLeaf hasher)) []
  rw [nil_append, nil_append] at raised
  unfold build
  simp only [length_map, some, if_false, raised]

theorem dropLast_levels_build :
    (build hasher payloads).levels.dropLast =
      below (hashNode hasher) (payloads.map (hashLeaf hasher)) := by
  by_cases none : payloads.length = 0
  · rw [below_few (by rw [length_map]; omega)]
    simp only [build, length_map, none, if_true, List.dropLast_nil]
  · rw [levels_build none, List.dropLast_concat]

theorem proof_build (hasher : Hasher) (payloads : List Str) {index : Int} (lower : 0 ≤ index)
    (upper : index < payloads.length) :
    (build hasher payloads).proof index = some ⟨index, payloads.length,
      siblings default (below (hashNode hasher) (payloads.map (hashLeaf hasher))) index.toNat⟩ := by
  rw [proof, leafHashes_build, length_map, if_neg (by omega), dropLast_levels_build]

end MerkleTree

theorem verifyInclusion_iff :
    verifyInclusion hasher payload expected proof = true ↔
      0 ≤ proof.leafIndex ∧ proof.leafIndex < proof.leafCount ∧
      ∃ current, ascend (hashNode hasher) proof.path (hashLeaf hasher payload) proof.leafIndex.toNat
          proof.leafCount.toNat = some (current, 0, 1) ∧
        hashRoot hasher proof.leafCount current = expected := by
  unfold verifyInclusion
  split
  next refused =>
    constructor
    · intro accepted
      contradiction
    · intro fits
      omega
  next fits =>
    cases ascend (hashNode hasher) proof.path (hashLeaf hasher payload) proof.leafIndex.toNat
        proof.leafCount.toNat with
    | none => simp
    | some reached =>
      obtain ⟨current, index, nodeCount⟩ := reached
      have bounds : 0 ≤ proof.leafIndex ∧ proof.leafIndex < proof.leafCount := by omega
      by_cases single : nodeCount = 1 <;> by_cases zero : index = 0 <;> simp [single, zero, bounds]

variable {payloads : List Str}

theorem getD_hashLeaf (inside : index < payloads.length) :
    (payloads.map (hashLeaf hasher)).getD index default = hashLeaf hasher payloads[index] := by
  rw [List.getD_eq_getElem?_getD, List.getElem?_map, List.getElem?_eq_getElem inside]
  rfl

theorem verifyInclusion_proof (hasher : Hasher) (inside : index < payloads.length) :
    ∃ proof, (MerkleTree.build hasher payloads).proof index = some proof ∧
      verifyInclusion hasher payloads[index] (MerkleTree.build hasher payloads).root proof = true := by
  have reached := ascend_siblings (hashNode hasher) default (payloads.map (hashLeaf hasher)) index
    (by rwa [length_map])
  rw [getD_hashLeaf inside, length_map] at reached
  have content : contentRoot hasher payloads =
      (top (hashNode hasher) (payloads.map (hashLeaf hasher))).getD 0 default := by
    rw [contentRoot, if_neg (by omega)]
  rw [← content] at reached
  refine ⟨_, MerkleTree.proof_build hasher payloads (by omega) (by omega), ?_⟩
  refine (verifyInclusion_iff ..).mpr ⟨?_, ?_, contentRoot hasher payloads, reached, ?_⟩
  · show (0 : Int) ≤ index
    omega
  · show (index : Int) < payloads.length
    omega
  · exact MerkleTree.root_build.symm

/-- The loop of `build` ends with one node, a leaf has a proof exactly if it exists, and the proof is accepted. -/
theorem inclusion_complete (hasher : Hasher) (payloads : List Str) :
    (∃ rounds, (MerkleTree.build hasher payloads).root = hashRoot hasher payloads.length
      (if payloads = [] then hashEmpty hasher
        else ((parents (hashNode hasher))^[rounds] (payloads.map (hashLeaf hasher))).getD 0 default) ∧
      ((parents (hashNode hasher))^[rounds] (payloads.map (hashLeaf hasher))).length = min 1 payloads.length) ∧
    (∀ index : Int, ((MerkleTree.build hasher payloads).proof index).isSome = true ↔ 0 ≤ index ∧ index < payloads.length) ∧
    ∀ index : Fin payloads.length, ∃ proof, (MerkleTree.build hasher payloads).proof index.val = some proof ∧
      verifyInclusion hasher payloads[index] (MerkleTree.build hasher payloads).root proof = true := by
  refine ⟨?_, fun index => ?_, fun index => verifyInclusion_proof hasher index.isLt⟩
  · obtain ⟨rounds, same⟩ := exists_iterate_top (hashNode hasher) (payloads.map (hashLeaf hasher))
    refine ⟨rounds, ?_, ?_⟩
    · simp only [MerkleTree.root_build, contentRoot, same, List.length_eq_zero_iff]
    · rw [same]
      cases payloads with
      | nil => simp [top_few]
      | cons first rest => simpa using length_top (hashNode hasher) _ (by simp)
  · unfold MerkleTree.proof
    rw [MerkleTree.leafHashes_build, length_map]
    split <;> simp <;> omega

theorem root_injective (injective : hasher.CollisionFree)
    (same : (MerkleTree.build hasher payloads).root = (MerkleTree.build hasher others).root) : payloads = others := by
  rw [MerkleTree.root_build, MerkleTree.root_build] at same
  obtain ⟨counts, contents⟩ := hashRoot_inj injective same
  have lengths : payloads.length = others.length := by omega
  unfold contentRoot at contents
  by_cases none : payloads.length = 0
  · have noneOther : others.length = 0 := by omega
    rw [List.length_eq_zero_iff.mp none, List.length_eq_zero_iff.mp noneOther]
  · have someOther : others.length ≠ 0 := by omega
    rw [if_neg none, if_neg someOther] at contents
    apply List.map_injective_iff.mpr (hashLeaf_injective injective)
    apply top_injective (hashNode_injective injective) (by simpa using lengths)
    obtain ⟨first, isFirst⟩ := List.length_eq_one_iff.mp
      (length_top (hashNode hasher) (payloads.map (hashLeaf hasher)) (by rw [length_map]; omega))
    obtain ⟨second, isSecond⟩ := List.length_eq_one_iff.mp
      (length_top (hashNode hasher) (others.map (hashLeaf hasher)) (by rw [length_map]; omega))
    rw [isFirst, isSecond] at contents ⊢
    simpa using contents

theorem verifyInclusion_sound {hasher : Hasher} (injective : hasher.CollisionFree)
    (accepted : verifyInclusion hasher payload (MerkleTree.build hasher payloads).root proof = true) :
    0 ≤ proof.leafIndex ∧ proof.leafIndex < payloads.length ∧ proof.leafCount = payloads.length ∧
      payloads[proof.leafIndex.toNat]? = some payload ∧
      (MerkleTree.build hasher payloads).proof proof.leafIndex = some proof := by
  obtain ⟨lower, upper, current, reached, rooted⟩ := (verifyInclusion_iff ..).mp accepted
  rw [MerkleTree.root_build] at rooted
  obtain ⟨counted, content⟩ := hashRoot_inj injective rooted
  have inside : proof.leafIndex.toNat < payloads.length := by omega
  have counts : proof.leafCount.toNat = (payloads.map (hashLeaf hasher)).length := by
    rw [counted, length_map]
    rfl
  rw [contentRoot, if_neg (by omega)] at content
  rw [content, counts] at reached
  obtain ⟨leaf, path⟩ := ascend_sound (hashNode_injective injective) default
    (by rwa [length_map]) reached
  rw [getD_hashLeaf inside] at leaf
  refine ⟨lower, by omega, counted, ?_, ?_⟩
  · rw [List.getElem?_eq_getElem inside, hashLeaf_injective injective leaf]
  · rw [MerkleTree.proof_build hasher payloads lower (by omega), ← path, ← counted]

/-- A root accepts at most one payload at a position, also if no list of payloads is known behind it. -/
theorem verifyInclusion_unique (injective : hasher.CollisionFree)
    (first : verifyInclusion hasher payload expected proof = true)
    (second : verifyInclusion hasher other expected otherProof = true)
    (position : proof.leafIndex = otherProof.leafIndex) : payload = other := by
  obtain ⟨_, _, current, reached, rooted⟩ := (verifyInclusion_iff ..).mp first
  obtain ⟨_, _, otherCurrent, otherReached, otherRooted⟩ := (verifyInclusion_iff ..).mp second
  obtain ⟨counts, contents⟩ := hashRoot_inj injective (rooted.trans otherRooted.symm)
  rw [position, counts, contents] at reached
  obtain ⟨leaves, _⟩ := ascend_injective (hashNode_injective injective) reached otherReached
  exact hashLeaf_injective injective leaves

/-- Acceptance against the root of a list pins the payload, its position and the whole proof. -/
theorem inclusion_sound_and_binding (hasher : Hasher) (injective : hasher.CollisionFree) :
    (∀ (payloads : List Str) (payload : Str) (proof : MerkleProof),
      verifyInclusion hasher payload (MerkleTree.build hasher payloads).root proof = true →
      0 ≤ proof.leafIndex ∧ proof.leafIndex < payloads.length ∧ proof.leafCount = payloads.length ∧
      payloads[proof.leafIndex.toNat]? = some payload ∧
      (MerkleTree.build hasher payloads).proof proof.leafIndex = some proof) ∧
    ∀ payloads others : List Str,
      (MerkleTree.build hasher payloads).root = (MerkleTree.build hasher others).root → payloads = others := by
  refine ⟨?_, fun payloads others same => root_injective injective same⟩
  intro payloads payload proof accepted
  exact verifyInclusion_sound injective accepted

theorem inclusion_sound_and_binding_three_leaves :
    ∃ proof, verifyInclusion identity "c" (MerkleTree.build identity ["a", "b", "c"]).root proof = true ∧
      proof.leafIndex = 2 ∧ proof.leafCount = 3 ∧
      (MerkleTree.build identity ["a", "b", "c"]).root ≠
        (MerkleTree.build identity ["a", "b", "c", "c"]).root := by
  have sound := inclusion_sound_and_binding identity identity_collisionFree
  have three : 2 < (["a", "b", "c"] : List Str).length := by decide
  obtain ⟨proof, made, accepted⟩ := verifyInclusion_proof identity three
  obtain ⟨_, _, counted, _, again⟩ := sound.1 _ _ _ accepted
  refine ⟨proof, accepted, ?_, counted, ?_⟩
  · rw [MerkleTree.proof_build identity _ (by decide) (by decide), Option.some.injEq] at made
    rw [← made]
    rfl
  · intro same
    have lengths := congrArg List.length (sound.2 _ _ same)
    contradiction

end ConvergeAudit.Merkle
