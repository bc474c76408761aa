import ConvergeAudit.AuthMap.Model
import ConvergeAudit.Lib.Treap

/-!
An authenticated node is a tree of entries with priorities and digests filled in. Every operation on
nodes is the operation of the treap library on the entries, for the order of the key priorities.
-/

namespace ConvergeAudit.AuthMap
open Moon Bft Lib

variable [StrOrder]

theorem priorityBefore_iff :
    priorityBefore leftPriority leftKey rightPriority rightKey = true ↔
      leftPriority.text < rightPriority.text ∨ (leftPriority.text = rightPriority.text ∧ leftKey < rightKey) := by
  simp [priorityBefore, compare_lt_iff_lt]

/-- The key has the smaller priority, or the same one and is smaller itself. -/
def Above (hasher : Hasher) (key other : Str) : Prop :=
  priorityBefore (keyPriority hasher key) key (keyPriority hasher other) other = true

instance (hasher : Hasher) : DecidableRel (Above hasher) := fun _ _ => inferInstanceAs (Decidable (_ = true))

instance (hasher : Hasher) : IsStrictTotalOrder Str (Above hasher) where
  irrefl key := by simp [Above, priorityBefore_iff]
  trans first second third := by
    simp only [Above, priorityBefore_iff]
    rintro (less | ⟨same, less⟩) (also | ⟨equal, further⟩)
    · exact Or.inl (less.trans also)
    · exact Or.inl (equal ▸ less)
    · exact Or.inl (same ▸ also)
    · exact Or.inr ⟨same.trans equal, less.trans further⟩
  trichotomous key other := by
    simp only [Above, priorityBefore_iff, not_or, not_and, not_lt]
    rintro ⟨most, rest⟩ ⟨least, further⟩
    have same := le_antisymm least most
    exact le_antisymm (further same.symm) (rest same)

def render (hasher : Hasher) : KeyTree Str Str → AuthNode
  | .leaf => .empty
  | .node key value left right =>
    makeBranch hasher (hasher.hashString serializeAuthmapEmpty) key value (keyPriority hasher key)
      (render hasher left) (render hasher right)

variable (hasher : Hasher)

omit [StrOrder] in
theorem rotateRight_render :
    rotateRight hasher (hasher.hashString serializeAuthmapEmpty) (render hasher tree) =
      render hasher tree.rotateRight := by
  cases tree with
  | leaf => rfl
  | node key value left right => cases left <;> rfl

omit [StrOrder] in
theorem rotateLeft_render :
    rotateLeft hasher (hasher.hashString serializeAuthmapEmpty) (render hasher tree) =
      render hasher tree.rotateLeft := by
  cases tree with
  | leaf => rfl
  | node key value left right => cases right <;> rfl

theorem rotate_if_above :
    (match render hasher subtree with
      | .branch childKey _ childPriority _ _ _ =>
        if priorityBefore childPriority childKey (keyPriority hasher nodeKey) nodeKey then rotated else rebuilt
      | .empty => rebuilt) = if subtree.rootAbove (Above hasher) nodeKey then rotated else rebuilt := by
  cases subtree with
  | leaf => rfl
  | node key value left right =>
    have test : (KeyTree.node key value left right).rootAbove (Above hasher) nodeKey =
        priorityBefore (keyPriority hasher key) key (keyPriority hasher nodeKey) nodeKey := by
      rw [Bool.eq_iff_iff]
      exact decide_eq_true_iff
    rw [test]
    rfl

theorem putNode_render :
    putNode hasher (hasher.hashString serializeAuthmapEmpty) (render hasher tree) key value =
      (render hasher (tree.insert (Above hasher) key value), (tree.lookup key).isNone,
        decide (tree.lookup key ≠ some value)) := by
  induction tree with
  | leaf => simp [render, putNode, KeyTree.insert, KeyTree.lookup]
  | node nodeKey nodeValue left right leftIh rightIh =>
    rw [render, makeBranch, putNode, KeyTree.insert, KeyTree.lookup]
    cases compare key nodeKey with
    | eq =>
      dsimp only
      split
      · rename_i same
        simp [same, render]
      · rename_i different
        simp [render, Ne.symm different]
    | lt =>
      rw [leftIh]
      refine Prod.ext ?_ rfl
      refine (rotate_if_above hasher).trans ?_
      rw [apply_ite (render hasher), ← rotateRight_render]
      rfl
    | gt =>
      rw [rightIh]
      refine Prod.ext ?_ rfl
      refine (rotate_if_above hasher).trans ?_
      rw [apply_ite (render hasher), ← rotateLeft_render]
      rfl

theorem mergeNodes_render :
    mergeNodes hasher (hasher.hashString serializeAuthmapEmpty) (render hasher left) (render hasher right) =
      render hasher (left.merge (Above hasher) right) := by
  fun_induction KeyTree.merge (Above hasher) left right with
  | case1 other => rw [render, mergeNodes]
  | case2 key value left right => rw [render, render, makeBranch, mergeNodes]
  | case3 leftKey leftValue leftLeft leftRight rightKey rightValue rightLeft rightRight higher ih =>
    have first : priorityBefore (keyPriority hasher leftKey) leftKey (keyPriority hasher rightKey) rightKey = true :=
      higher
    rw [render, render, makeBranch, makeBranch, mergeNodes, if_pos first, render, ← ih]
    rfl
  | case4 leftKey leftValue leftLeft leftRight rightKey rightValue rightLeft rightRight lower ih =>
    have second : ¬ priorityBefore (keyPriority hasher leftKey) leftKey (keyPriority hasher rightKey) rightKey = true :=
      lower
    rw [render, render, makeBranch, makeBranch, mergeNodes, if_neg second, render, ← ih]
    rfl

theorem removeNode_render :
    removeNode hasher (hasher.hashString serializeAuthmapEmpty) (render hasher tree) key =
      (render hasher (tree.erase (Above hasher) key), (tree.lookup key).isSome) := by
  induction tree with
  | leaf => rfl
  | node nodeKey nodeValue left right leftIh rightIh =>
    rw [render, makeBranch, removeNode, KeyTree.erase, KeyTree.lookup]
    cases compare key nodeKey with
    | eq =>
      rw [mergeNodes_render]
      rfl
    | lt =>
      rw [leftIh]
      rfl
    | gt =>
      rw [rightIh]
      rfl

theorem get_render : (render hasher tree).get key = tree.lookup key := by
  induction tree with
  | leaf => rfl
  | node nodeKey nodeValue left right leftIh rightIh =>
    rw [render, makeBranch, AuthNode.get, KeyTree.lookup]
    cases compare key nodeKey with
    | eq => rfl
    | lt => exact leftIh
    | gt => exact rightIh

def ofTreap (treap : Treap Str Str (Above hasher)) : AuthenticatedMap where
  hasher := hasher
  emptyDigest := hasher.hashString serializeAuthmapEmpty
  rootNode := render hasher treap.tree
  entryCount := treap.tree.size

variable {hasher} (treap : Treap Str Str (Above hasher))

theorem put_ofTreap : (ofTreap hasher treap).put key value =
    (ofTreap hasher (treap.insert key value),
      if treap.tree.lookup key = none then .inserted
      else if treap.tree.lookup key = some value then .unchanged
      else .updated) := by
  have size := KeyTree.size_insert (Above hasher) treap.tree key value
  unfold AuthenticatedMap.put ofTreap Treap.insert
  rw [putNode_render]
  cases found : treap.tree.lookup key with
  | none =>
    rw [found] at size
    simp [size]
  | some old =>
    by_cases same : old = value
    · simp_all
    · simp_all

theorem remove_ofTreap : (ofTreap hasher treap).remove key =
    (ofTreap hasher (treap.erase key), (treap.tree.lookup key).isSome) := by
  have size := KeyTree.size_erase (Above hasher) treap.tree key
  unfold AuthenticatedMap.remove ofTreap Treap.erase
  rw [removeNode_render]
  cases found : treap.tree.lookup key with
  | none =>
    rw [found] at size
    simp [← size]
  | some old =>
    rw [found] at size
    simp [← size]

theorem get_ofTreap (key : Str) : (ofTreap hasher treap).get key = treap.tree.lookup key :=
  get_render hasher

theorem ofTreap_eq_of_get (same : ∀ key, (ofTreap hasher first).get key = (ofTreap hasher second).get key) :
    ofTreap hasher first = ofTreap hasher second := by
  simp only [get_ofTreap] at same
  have trees := KeyTree.eq_of_lookup first.search second.search first.heap second.heap same
  unfold ofTreap
  rw [trees]

end ConvergeAudit.AuthMap
