import ConvergeAudit.AuthMap.Objects

/-!
Climbing the search path of a key recomputes the digest of the root; and if digests do not collide, a path that climbs
to the digest of a tree is a search path of that tree.
-/

namespace ConvergeAudit.AuthMap
open Moon Bft Lib KeyTree

theorem taggedPreimage_eq : taggedPreimage tag values = fields (tag :: values) := by
  rw [taggedPreimage, foldl_appendField, appendField_eq, Str.empty_append, fields_cons]

theorem taggedPreimage_inj (same : taggedPreimage tag values = taggedPreimage tag' values') :
    tag = tag' ∧ values = values' := by
  rw [taggedPreimage_eq, taggedPreimage_eq] at same
  exact List.cons.inj (fields_injective same)

theorem serializeAuthmapRoot_inj (same : serializeAuthmapRoot count digest = serializeAuthmapRoot count' digest') :
    count = count' ∧ digest = digest' := by
  have parts := (taggedPreimage_inj same).2
  simpa only [List.cons.injEq, Str.ofInt_inj, Digest.text_inj, and_true] using parts

theorem serializeAuthmapEmpty_ne_node : serializeAuthmapEmpty ≠ serializeAuthmapNode key value left right := by
  intro same
  cases (taggedPreimage_inj same).2

def treeDigest (hasher : Hasher) (tree : KeyTree Str Str) : Digest :=
  (render hasher tree).digest (hasher.hashString serializeAuthmapEmpty)

theorem treeDigest_node :
    treeDigest hasher (.node key value left right) =
      hasher.hashString (serializeAuthmapNode key value (treeDigest hasher left) (treeDigest hasher right)) := rfl

theorem node_of_treeDigest (injective : hasher.CollisionFree)
    (same : treeDigest hasher tree = hasher.hashString (serializeAuthmapNode key value left right)) :
    ∃ first second, tree = .node key value first second ∧ treeDigest hasher first = left ∧
      treeDigest hasher second = right := by
  cases tree with
  | leaf => exact absurd (injective same) serializeAuthmapEmpty_ne_node
  | node other stored first second =>
    have parts := (taggedPreimage_inj (injective same)).2
    simp only [List.cons.injEq, Digest.text_inj, and_true] at parts
    obtain ⟨rfl, rfl, lefts, rights⟩ := parts
    exact ⟨first, second, rfl, lefts, rights⟩

theorem leaf_of_treeDigest (injective : hasher.CollisionFree)
    (same : treeDigest hasher tree = hasher.hashString serializeAuthmapEmpty) : tree = .leaf := by
  cases tree with
  | leaf => rfl
  | node key value left right => exact absurd (injective same).symm serializeAuthmapEmpty_ne_node

theorem climb_append (start : Digest) :
    climb hasher valid (front ++ back) start = (climb hasher valid front start).bind (climb hasher valid back) := by
  induction front generalizing start with
  | nil => rfl
  | cons step rest ih =>
    rw [List.cons_append, climb, climb]
    split
    · rfl
    · exact ih _

section
variable [StrOrder] (hasher : Hasher)

/-- The parents on the search for a key, from the root down, and the subtree where the search ends. -/
def searchPath (key : Str) : KeyTree Str Str → List AuthMapStep × KeyTree Str Str
  | .leaf => ([], .leaf)
  | .node nodeKey value left right =>
    match compare key nodeKey with
    | .eq => ([], .node nodeKey value left right)
    | .lt =>
      let (steps, found) := searchPath key left
      (.descendedLeft nodeKey value (treeDigest hasher right) :: steps, found)
    | .gt =>
      let (steps, found) := searchPath key right
      (.descendedRight nodeKey value (treeDigest hasher left) :: steps, found)

theorem membershipStepValid_eq : membershipStepValid = absenceStepSearchValid := by
  funext key step
  cases step <;> rfl

theorem verifyMembership_iff :
    verifyMembership hasher expectedRoot proof = true ↔ 0 < proof.entryCount ∧
      ∃ current, climb hasher (absenceStepSearchValid proof.key) proof.path.reverse
          (hasher.hashString (serializeAuthmapNode proof.key proof.value proof.leftDigest proof.rightDigest)) =
            some current ∧ mapRoot hasher proof.entryCount current = expectedRoot := by
  unfold verifyMembership
  rw [membershipStepValid_eq]
  dsimp only
  cases climb hasher (absenceStepSearchValid proof.key) proof.path.reverse
      (hasher.hashString (serializeAuthmapNode proof.key proof.value proof.leftDigest proof.rightDigest)) <;> simp

theorem verifyNonMembership_iff :
    verifyNonMembership hasher expectedRoot proof = true ↔ absenceProofShapeValid proof = true ∧
      ∃ current, climb hasher (absenceStepSearchValid proof.key) proof.path.reverse
          (hasher.hashString serializeAuthmapEmpty) = some current ∧
        mapRoot hasher proof.entryCount current = expectedRoot := by
  unfold verifyNonMembership
  dsimp only
  cases climb hasher (absenceStepSearchValid proof.key) proof.path.reverse
      (hasher.hashString serializeAuthmapEmpty) <;> simp

theorem climb_searchPath (key : Str) (tree : KeyTree Str Str) :
    climb hasher (absenceStepSearchValid key) (searchPath hasher key tree).1.reverse
      (treeDigest hasher (searchPath hasher key tree).2) = some (treeDigest hasher tree) := by
  induction tree with
  | leaf => rfl
  | node nodeKey value left right leftIh rightIh =>
    rw [searchPath]
    cases order : compare key nodeKey with
    | eq => rfl
    | lt | gt =>
      simp [climb_append, leftIh, rightIh, climb, absenceStepSearchValid, order, parentDigest, treeDigest_node]

theorem lookup_searchPath (key : Str) (tree : KeyTree Str Str) :
    tree.lookup key = match (searchPath hasher key tree).2 with
      | .leaf => none
      | .node _ value _ _ => some value := by
  induction tree with
  | leaf => rfl
  | node nodeKey value left right leftIh rightIh =>
    rw [lookup, searchPath]
    cases compare key nodeKey with
    | eq => rfl
    | lt => exact leftIh
    | gt => exact rightIh

theorem searchPath_key (ends : (searchPath hasher key tree).2 = .node found value left right) : found = key := by
  induction tree with
  | leaf => cases ends
  | node nodeKey nodeValue first second leftIh rightIh =>
    rw [searchPath] at ends
    split at ends
    case h_1 order =>
      cases ends
      exact (compare_eq_iff_eq.mp order).symm
    case h_2 => exact leftIh ends
    case h_3 => exact rightIh ends

theorem collectProof_render (tree : KeyTree Str Str) (path : List AuthMapStep) :
    collectProof (hasher.hashString serializeAuthmapEmpty) key count (render hasher tree) path =
      match (searchPath hasher key tree).2 with
      | .leaf => none
      | .node found value left right => some
        { key := found
          value := value
          leftDigest := treeDigest hasher left
          rightDigest := treeDigest hasher right
          entryCount := count
          path := path ++ (searchPath hasher key tree).1 } := by
  induction tree generalizing path with
  | leaf => rfl
  | node nodeKey value left right leftIh rightIh =>
    rw [render, makeBranch, collectProof, searchPath]
    cases compare key nodeKey with
    | eq => simp [treeDigest]
    | lt | gt => simp [leftIh, rightIh, treeDigest]

theorem collectAbsenceProof_render (tree : KeyTree Str Str) (path : List AuthMapStep) :
    collectAbsenceProof (hasher.hashString serializeAuthmapEmpty) key count (render hasher tree) path =
      match (searchPath hasher key tree).2 with
      | .leaf => some { key := key, entryCount := count, path := path ++ (searchPath hasher key tree).1 }
      | .node _ _ _ _ => none := by
  induction tree generalizing path with
  | leaf => simp [render, collectAbsenceProof, searchPath]
  | node nodeKey value left right leftIh rightIh =>
    rw [render, makeBranch, collectAbsenceProof, searchPath]
    cases compare key nodeKey with
    | eq => rfl
    | lt | gt => simp [leftIh, rightIh, treeDigest]

variable {hasher} (treap : Treap Str Str (Above hasher))

theorem proof_complete (found : (ofTreap hasher treap).get key = some value) :
    (∃ proof, (ofTreap hasher treap).proof key = some proof ∧ proof.key = key ∧ proof.value = value ∧
      verifyMembership hasher (ofTreap hasher treap).root proof = true) ∧
    (ofTreap hasher treap).absenceProof key = none := by
  have climbed := climb_searchPath hasher key treap.tree
  have occupied : 0 < (treap.tree.size : Int) := by
    rw [get_ofTreap] at found
    cases shape : treap.tree with
    | leaf =>
      rw [shape] at found
      cases found
    | node nodeKey nodeValue left right =>
      rw [size]
      omega
  rw [get_ofTreap, lookup_searchPath hasher] at found
  unfold AuthenticatedMap.proof AuthenticatedMap.absenceProof
  unfold ofTreap
  rw [collectProof_render, collectAbsenceProof_render]
  cases ends : (searchPath hasher key treap.tree).2 with
  | leaf =>
    rw [ends] at found
    cases found
  | node foundKey foundValue left right =>
    rw [ends] at found climbed
    cases found
    have same := searchPath_key hasher ends
    subst same
    refine ⟨⟨_, rfl, rfl, rfl, ?_⟩, rfl⟩
    exact (verifyMembership_iff hasher).mpr ⟨occupied, _, climbed, rfl⟩

theorem absenceProof_complete (missing : (ofTreap hasher treap).get key = none) :
    (∃ proof, (ofTreap hasher treap).absenceProof key = some proof ∧ proof.key = key ∧
      verifyNonMembership hasher (ofTreap hasher treap).root proof = true) ∧
    (ofTreap hasher treap).proof key = none := by
  have climbed := climb_searchPath hasher key treap.tree
  have shape : ∀ count : Int, count = treap.tree.size → absenceProofShapeValid
      { key := key, entryCount := count, path := (searchPath hasher key treap.tree).1 } = true := by
    rintro count rfl
    rw [get_ofTreap] at missing
    cases tree : treap.tree with
    | leaf => rfl
    | node nodeKey nodeValue left right =>
      rw [tree, lookup] at missing
      rw [searchPath, size]
      cases order : compare key nodeKey with
      | eq =>
        rw [order] at missing
        cases missing
      | lt | gt =>
        simp [absenceProofShapeValid]
        omega
  rw [get_ofTreap, lookup_searchPath hasher] at missing
  unfold AuthenticatedMap.proof AuthenticatedMap.absenceProof
  unfold ofTreap
  rw [collectProof_render, collectAbsenceProof_render]
  cases ends : (searchPath hasher key treap.tree).2 with
  | leaf =>
    rw [ends] at climbed
    refine ⟨⟨_, rfl, rfl, ?_⟩, rfl⟩
    exact (verifyNonMembership_iff hasher).mpr ⟨shape _ rfl, _, climbed, rfl⟩
  | node foundKey foundValue left right =>
    rw [ends] at missing
    cases missing

/-- A valid path that climbs to the digest of a tree leads to a subtree with the starting digest, in which
the search for the key goes on. -/
theorem climb_sound (injective : hasher.CollisionFree) {path : List AuthMapStep}
    (climbed : climb hasher (absenceStepSearchValid key) path.reverse start = some (treeDigest hasher tree)) :
    ∃ subtree, treeDigest hasher subtree = start ∧ tree.lookup key = subtree.lookup key := by
  induction path generalizing tree with
  | nil => exact ⟨tree, (Option.some.inj climbed).symm, rfl⟩
  | cons step rest ih =>
    rw [List.reverse_cons, climb_append] at climbed
    obtain ⟨child, below, last⟩ := Option.bind_eq_some_iff.mp climbed
    rw [climb] at last
    split at last
    · cases last
    · rename_i valid
      have parent := Option.some.inj last
      cases step with
      | descendedLeft parentKey parentValue sibling =>
        obtain ⟨left, right, rfl, rfl, -⟩ := node_of_treeDigest injective parent.symm
        obtain ⟨subtree, reached, table⟩ := ih below
        have less : key < parentKey := by
          simpa [absenceStepSearchValid, compare_lt_iff_lt] using valid
        exact ⟨subtree, reached, (lookup_lt less _ _ _).trans table⟩
      | descendedRight parentKey parentValue sibling =>
        obtain ⟨left, right, rfl, -, rfl⟩ := node_of_treeDigest injective parent.symm
        obtain ⟨subtree, reached, table⟩ := ih below
        have greater : parentKey < key := by
          simpa [absenceStepSearchValid, compare_gt_iff_gt] using valid
        exact ⟨subtree, reached, (lookup_gt greater _ _ _).trans table⟩

theorem verifyMembership_sound (injective : hasher.CollisionFree)
    (accepted : verifyMembership hasher (ofTreap hasher treap).root proof = true) :
    (ofTreap hasher treap).get proof.key = some proof.value ∧ proof.entryCount = (ofTreap hasher treap).size := by
  obtain ⟨-, current, climbed, root⟩ := (verifyMembership_iff hasher).mp accepted
  obtain ⟨counts, rfl⟩ := serializeAuthmapRoot_inj (injective root)
  obtain ⟨subtree, reached, table⟩ := climb_sound injective climbed
  obtain ⟨left, right, rfl, -, -⟩ := node_of_treeDigest injective reached
  rw [get_ofTreap, table, lookup_self]
  exact ⟨rfl, counts⟩

theorem verifyNonMembership_sound (injective : hasher.CollisionFree)
    (accepted : verifyNonMembership hasher (ofTreap hasher treap).root proof = true) :
    (ofTreap hasher treap).get proof.key = none := by
  obtain ⟨-, current, climbed, root⟩ := (verifyNonMembership_iff hasher).mp accepted
  obtain ⟨-, rfl⟩ := serializeAuthmapRoot_inj (injective root)
  obtain ⟨subtree, reached, table⟩ := climb_sound injective climbed
  have leaf := leaf_of_treeDigest injective reached
  subst leaf
  rw [get_ofTreap, table]
  rfl

/-- For every reachable map a key has exactly one of the two proofs, and it is accepted under any hasher.
With a collision-free hasher, whatever proof is accepted under the root of the map tells the truth
about the map. -/
theorem map_proofs_complete_and_sound {hasher : Hasher} {map : AuthenticatedMap} (reachable : Reachable hasher map) :
    (∀ key, match map.get key with
      | some value => (∃ proof, map.proof key = some proof ∧ proof.key = key ∧ proof.value = value ∧
          verifyMembership hasher map.root proof = true) ∧ map.absenceProof key = none
      | none => (∃ proof, map.absenceProof key = some proof ∧ proof.key = key ∧
          verifyNonMembership hasher map.root proof = true) ∧ map.proof key = none) ∧
    (hasher.CollisionFree →
      (∀ proof, verifyMembership hasher map.root proof = true →
        map.get proof.key = some proof.value ∧ proof.entryCount = map.size) ∧
      (∀ proof, verifyNonMembership hasher map.root proof = true → map.get proof.key = none) ∧
      ∀ member absent, verifyMembership hasher map.root member = true →
        verifyNonMembership hasher map.root absent = true → member.key ≠ absent.key) := by
  obtain ⟨treap, rfl⟩ := reachable.treap
  refine ⟨fun key => ?_, fun injective => ⟨?_, ?_, ?_⟩⟩
  · cases found : (ofTreap hasher treap).get key with
    | some value => exact proof_complete treap found
    | none => exact absenceProof_complete treap found
  · exact fun proof accepted => verifyMembership_sound treap injective accepted
  · exact fun proof accepted => verifyNonMembership_sound treap injective accepted
  · intro member absent accepted refused same
    have present := (verifyMembership_sound treap injective accepted).1
    rw [same, verifyNonMembership_sound treap injective refused] at present
    cases present

end

section
open Shortlex

def threeKeys : AuthenticatedMap :=
  ((((AuthenticatedMap.new .identity).put "a" "1").1.put "b" "2").1.put "c" "3").1

theorem map_proofs_complete_and_sound_three_keys : Reachable .identity threeKeys ∧
    (∃ proof, threeKeys.proof "c" = some proof ∧ proof.key = "c" ∧ proof.value = "3" ∧
      verifyMembership .identity threeKeys.root proof = true) ∧
    ∀ proof, verifyMembership .identity threeKeys.root proof = true → threeKeys.get proof.key = some proof.value := by
  have reachable : Reachable .identity threeKeys :=
    ⟨[.put 0 "a" "1", .put 0 "b" "2", .put 0 "c" "3"], List.mem_singleton_self _⟩
  obtain ⟨complete, sound⟩ := map_proofs_complete_and_sound reachable
  have last := complete "c"
  rw [show threeKeys.get "c" = some (lit "3") by decide +kernel] at last
  exact ⟨reachable, last.1, fun proof accepted => ((sound Hasher.identity_collisionFree).1 proof accepted).1⟩

end

theorem serializeAuthmapNode_inj
    (same : serializeAuthmapNode key value left right = serializeAuthmapNode key' value' left' right') :
    key = key' ∧ value = value' ∧ left = left' ∧ right = right' := by
  have parts := (taggedPreimage_inj same).2
  simpa only [List.cons.injEq, Digest.text_inj, and_true] using parts

theorem climb_reverse_cons (climbed : climb hasher valid (step :: rest).reverse start = some top) :
    ∃ child, climb hasher valid rest.reverse start = some child ∧ valid step = true ∧
      parentDigest hasher child step = top := by
  rw [List.reverse_cons, climb_append] at climbed
  obtain ⟨child, below, last⟩ := Option.bind_eq_some_iff.mp climbed
  rw [climb, passes_not (by simp)] at last
  exact ⟨child, below, last.1, Option.some.inj last.2⟩

section
variable [StrOrder] {hasher : Hasher} (injective : hasher.CollisionFree)

/-- A digest at which the search for a key ends: of an entry with that key, or of the empty tree. -/
def SearchEnds (hasher : Hasher) (key : Str) (digest : Digest) : Prop :=
  digest = hasher.hashString serializeAuthmapEmpty ∨
    ∃ value left right, digest = hasher.hashString (serializeAuthmapNode key value left right)

include injective

theorem SearchEnds.ne_parentDigest (ends : SearchEnds hasher key digest)
    (valid : absenceStepSearchValid key step = true) : parentDigest hasher child step ≠ digest := by
  intro same
  rcases ends with rfl | ⟨value, left, right, rfl⟩
  · cases step <;> exact serializeAuthmapEmpty_ne_node (injective same).symm
  · cases step <;> obtain ⟨rfl, -⟩ := serializeAuthmapNode_inj (injective same) <;>
      simp [absenceStepSearchValid] at valid

theorem parentDigest_inj (valid : absenceStepSearchValid key step = true)
    (valid' : absenceStepSearchValid key step' = true)
    (same : parentDigest hasher child step = parentDigest hasher child' step') : step = step' ∧ child = child' := by
  -- the parents have one key, so both steps go to one side of it
  cases step <;> cases step' <;> obtain ⟨rfl, rfl, rfl, rfl⟩ := serializeAuthmapNode_inj (injective same) <;>
    simp_all [absenceStepSearchValid]

/-- Below one digest, of a map or not, the search for a key goes only one way. -/
theorem climb_unique {path path' : List AuthMapStep} (ends : SearchEnds hasher key start)
    (climbed : climb hasher (absenceStepSearchValid key) path.reverse start = some top)
    (ends' : SearchEnds hasher key start')
    (climbed' : climb hasher (absenceStepSearchValid key) path'.reverse start' = some top) :
    path = path' ∧ start = start' := by
  induction path generalizing path' top with
  | nil =>
    cases climbed
    cases path' with
    | nil => exact ⟨rfl, (Option.some.inj climbed').symm⟩
    | cons step' rest' =>
      obtain ⟨child', -, valid', parent'⟩ := climb_reverse_cons climbed'
      exact absurd parent' (ends.ne_parentDigest injective valid')
  | cons step rest ih =>
    obtain ⟨child, below, valid, parent⟩ := climb_reverse_cons climbed
    cases path' with
    | nil =>
      cases climbed'
      exact absurd parent (ends'.ne_parentDigest injective valid)
    | cons step' rest' =>
      obtain ⟨child', below', valid', parent'⟩ := climb_reverse_cons climbed'
      obtain ⟨rfl, rfl⟩ := parentDigest_inj injective valid valid' (parent.trans parent'.symm)
      obtain ⟨rfl, starts⟩ := ih below below'
      exact ⟨rfl, starts⟩

/-- A root commits to one answer for each key, whoever made it, also if it is the root of no map: no two membership
proofs for a key are accepted under it, and no membership proof beside a proof of absence. -/
theorem roots_commit_to_one_answer {root : Digest} {proof : AuthMapProof}
    (accepted : verifyMembership hasher root proof = true) :
    (∀ other, verifyMembership hasher root other = true → other.key = proof.key → other = proof) ∧
    ∀ absent, verifyNonMembership hasher root absent = true → absent.key ≠ proof.key := by
  obtain ⟨-, top, climbed, rfl⟩ := (verifyMembership_iff hasher).mp accepted
  refine ⟨fun other accepted' keys => ?_, fun absent accepted' keys => ?_⟩
  · obtain ⟨-, top', climbed', roots⟩ := (verifyMembership_iff hasher).mp accepted'
    obtain ⟨counts, rfl⟩ := serializeAuthmapRoot_inj (injective roots)
    rw [keys] at climbed'
    obtain ⟨paths, starts⟩ := climb_unique injective (Or.inr ⟨_, _, _, rfl⟩) climbed' (Or.inr ⟨_, _, _, rfl⟩) climbed
    obtain ⟨-, values, lefts, rights⟩ := serializeAuthmapNode_inj (injective starts)
    exact (AuthMapProof.mk.injEq ..).mpr ⟨keys, values, lefts, rights, counts, paths⟩
  · obtain ⟨-, top', climbed', roots⟩ := (verifyNonMembership_iff hasher).mp accepted'
    obtain ⟨-, rfl⟩ := serializeAuthmapRoot_inj (injective roots)
    rw [keys] at climbed'
    obtain ⟨-, starts⟩ := climb_unique injective (Or.inl rfl) climbed' (Or.inr ⟨_, _, _, rfl⟩) climbed
    exact serializeAuthmapEmpty_ne_node (injective starts)

end

open Shortlex in
/-- The key is two steps below the root. -/
theorem roots_commit_to_one_answer_three_keys : ∃ proof, threeKeys.proof "c" = some proof ∧ proof.path.length = 2 ∧
    ∀ other, verifyMembership .identity threeKeys.root other = true → other.key = proof.key → other = proof := by
  have checked : (threeKeys.proof "c").any (fun proof =>
      verifyMembership .identity threeKeys.root proof && proof.path.length == 2) = true := by decide +kernel
  obtain ⟨made, accepted⟩ := (Option.any_eq_true_iff_get _ _).mp checked
  obtain ⟨accepted, deep⟩ := Bool.and_eq_true_iff.mp accepted
  exact ⟨_, (Option.some_get made).symm, beq_iff_eq.mp deep,
    (roots_commit_to_one_answer Hasher.identity_collisionFree accepted).1⟩

end ConvergeAudit.AuthMap
