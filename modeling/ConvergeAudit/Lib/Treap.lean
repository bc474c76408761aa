import Mathlib.Order.Lattice
import Mathlib.Order.Defs.Unbundled
import Mathlib.Data.List.Basic

/-!
Search trees over linearly ordered keys that are also heaps for a strict total order `above` on the
keys. The two orders determine the shape: a treap is a function of its lookup table.
-/

namespace ConvergeAudit.Lib

open List

inductive KeyTree (κ ν : Type) where
  | leaf
  | node (key : κ) (value : ν) (left right : KeyTree κ ν)

namespace KeyTree
variable {κ ν : Type}

def toList : KeyTree κ ν → List (κ × ν)
  | leaf => []
  | node key value left right => left.toList ++ (key, value) :: right.toList

def size : KeyTree κ ν → Nat
  | leaf => 0
  | node _ _ left right => left.size + right.size + 1

theorem mem_node : entry ∈ (node key value left right : KeyTree κ ν).toList ↔
    entry ∈ left.toList ∨ entry = (key, value) ∨ entry ∈ right.toList := by
  simp [toList]

theorem size_eq_length (tree : KeyTree κ ν) : tree.size = tree.toList.length := by
  induction tree with
  | leaf => rfl
  | node key value left right leftIh rightIh =>
    rw [size, toList, length_append, length_cons, leftIh, rightIh]
    omega

def rotateRight : KeyTree κ ν → KeyTree κ ν
  | node key value (node leftKey leftValue leftLeft leftRight) right =>
    node leftKey leftValue leftLeft (node key value leftRight right)
  | tree => tree

def rotateLeft : KeyTree κ ν → KeyTree κ ν
  | node key value left (node rightKey rightValue rightLeft rightRight) =>
    node rightKey rightValue (node key value left rightLeft) rightRight
  | tree => tree

@[simp] theorem toList_rotateRight (tree : KeyTree κ ν) : tree.rotateRight.toList = tree.toList := by
  unfold rotateRight
  split <;> simp [toList]

@[simp] theorem toList_rotateLeft (tree : KeyTree κ ν) : tree.rotateLeft.toList = tree.toList := by
  unfold rotateLeft
  split <;> simp [toList]

def rootAbove (above : κ → κ → Prop) [DecidableRel above] (tree : KeyTree κ ν) (key : κ) : Bool :=
  match tree with
  | node root _ _ _ => decide (above root key)
  | leaf => false

def merge (above : κ → κ → Prop) [DecidableRel above] : KeyTree κ ν → KeyTree κ ν → KeyTree κ ν
  | leaf, other => other
  | node key value left right, leaf => node key value left right
  | node leftKey leftValue leftLeft leftRight, node rightKey rightValue rightLeft rightRight =>
    if above leftKey rightKey then
      node leftKey leftValue leftLeft (merge above leftRight (node rightKey rightValue rightLeft rightRight))
    else node rightKey rightValue (merge above (node leftKey leftValue leftLeft leftRight) rightLeft) rightRight

theorem toList_merge (above : κ → κ → Prop) [DecidableRel above] (left right : KeyTree κ ν) :
    (merge above left right).toList = left.toList ++ right.toList := by
  fun_induction merge above left right with
  | case1 other => rfl
  | case2 key value left right => simp [toList]
  | case3 leftKey leftValue leftLeft leftRight rightKey rightValue rightLeft rightRight higher ih =>
    rw [toList, ih]
    simp [toList]
  | case4 leftKey leftValue leftLeft leftRight rightKey rightValue rightLeft rightRight lower ih =>
    rw [toList, ih]
    simp [toList]

section Operations
variable [LinearOrder κ] (above : κ → κ → Prop) [DecidableRel above]

/-- Insertion at the leaf, then rotations up while the child stands above its parent. -/
def insert : KeyTree κ ν → κ → ν → KeyTree κ ν
  | leaf, key, value => node key value leaf leaf
  | node nodeKey nodeValue left right, key, value =>
    match compare key nodeKey with
    | .eq => node nodeKey value left right
    | .lt =>
      let inserted := left.insert key value
      let rebuilt := node nodeKey nodeValue inserted right
      if inserted.rootAbove above nodeKey then rebuilt.rotateRight else rebuilt
    | .gt =>
      let inserted := right.insert key value
      let rebuilt := node nodeKey nodeValue left inserted
      if inserted.rootAbove above nodeKey then rebuilt.rotateLeft else rebuilt

def erase : KeyTree κ ν → κ → KeyTree κ ν
  | leaf, _ => leaf
  | node nodeKey nodeValue left right, key =>
    match compare key nodeKey with
    | .eq => merge above left right
    | .lt => node nodeKey nodeValue (left.erase key) right
    | .gt => node nodeKey nodeValue left (right.erase key)

def lookup : KeyTree κ ν → κ → Option ν
  | leaf, _ => none
  | node nodeKey value left right, key =>
    match compare key nodeKey with
    | .eq => some value
    | .lt => left.lookup key
    | .gt => right.lookup key

theorem lookup_lt (less : key < nodeKey) (value : ν) (left right : KeyTree κ ν) :
    (node nodeKey value left right).lookup key = left.lookup key := by
  rw [lookup, compare_lt_iff_lt.mpr less]

theorem lookup_gt (greater : nodeKey < key) (value : ν) (left right : KeyTree κ ν) :
    (node nodeKey value left right).lookup key = right.lookup key := by
  rw [lookup, compare_gt_iff_gt.mpr greater]

theorem lookup_self (key : κ) (value : ν) (left right : KeyTree κ ν) :
    (node key value left right).lookup key = some value := by
  rw [lookup, compare_eq_iff_eq.mpr rfl]

end Operations

section Search
variable [LinearOrder κ]

def Search (tree : KeyTree κ ν) : Prop := tree.toList.Pairwise (·.1 < ·.1)

theorem search_leaf : Search (leaf : KeyTree κ ν) := List.Pairwise.nil

theorem search_node {key : κ} : Search (node key value left right) ↔ Search left ∧ Search right ∧
    (∀ entry ∈ left.toList, entry.1 < key) ∧ ∀ entry ∈ right.toList, key < entry.1 := by
  unfold Search
  rw [toList, pairwise_append, pairwise_cons]
  constructor
  · rintro ⟨ordered, ⟨below, also⟩, across⟩
    exact ⟨ordered, also, fun x member => across x member _ mem_cons_self, below⟩
  · rintro ⟨ordered, also, before, after⟩
    refine ⟨ordered, ⟨after, also⟩, fun x member y other => ?_⟩
    rcases mem_cons.mp other with rfl | later
    · exact before x member
    · exact (before x member).trans (after y later)

theorem Search.congr {tree other : KeyTree κ ν} (search : Search tree) (same : other.toList = tree.toList) :
    Search other := by
  unfold Search at *
  rwa [same]

theorem lookup_eq_some_iff {tree : KeyTree κ ν} (search : Search tree) :
    tree.lookup key = some value ↔ (key, value) ∈ tree.toList := by
  induction tree with
  | leaf => simp [lookup, toList]
  | node nodeKey nodeValue left right leftIh rightIh =>
    obtain ⟨ordered, also, before, after⟩ := search_node.mp search
    have inLeft := before (key, value)
    have inRight := after (key, value)
    rw [mem_node, Prod.mk.injEq]
    rcases lt_trichotomy key nodeKey with less | rfl | greater
    · rw [lookup_lt less, leftIh ordered]
      grind
    · rw [lookup_self]
      grind
    · rw [lookup_gt greater, rightIh also]
      grind

end Search

section Entries
variable [LinearOrder κ] (above : κ → κ → Prop) [DecidableRel above]

theorem toList_insert_lt (less : key < nodeKey) (value nodeValue : ν) (left right : KeyTree κ ν) :
    (insert above (node nodeKey nodeValue left right) key value).toList =
      (node nodeKey nodeValue (insert above left key value) right).toList := by
  rw [insert, compare_lt_iff_lt.mpr less]
  dsimp only
  split
  · exact toList_rotateRight _
  · rfl

theorem toList_insert_gt (greater : nodeKey < key) (value nodeValue : ν) (left right : KeyTree κ ν) :
    (insert above (node nodeKey nodeValue left right) key value).toList =
      (node nodeKey nodeValue left (insert above right key value)).toList := by
  rw [insert, compare_gt_iff_gt.mpr greater]
  dsimp only
  split
  · exact toList_rotateLeft _
  · rfl

theorem toList_insert_eq (key : κ) (value nodeValue : ν) (left right : KeyTree κ ν) :
    insert above (node key nodeValue left right) key value = node key value left right := by
  rw [insert, compare_eq_iff_eq.mpr rfl]

section
variable {tree : KeyTree κ ν} (search : Search tree) (key : κ) (value : ν)
include search

theorem insert_spec : Search (insert above tree key value) ∧ ∀ entry, entry ∈ (insert above tree key value).toList ↔
    entry = (key, value) ∨ entry ∈ tree.toList ∧ entry.1 ≠ key := by
  induction tree with
  | leaf => simp [insert, toList, search_node, search_leaf]
  | node nodeKey nodeValue left right leftIh rightIh =>
    obtain ⟨ordered, also, before, after⟩ := search_node.mp search
    rcases lt_trichotomy key nodeKey with less | rfl | greater
    · obtain ⟨inserted, members⟩ := leftIh ordered
      have entries := toList_insert_lt above less value nodeValue left right
      refine ⟨(search_node.mpr ⟨inserted, also, ?_, after⟩).congr entries, fun entry => ?_⟩
      · grind
      · rw [entries, mem_node, mem_node, members]
        grind
    · rw [toList_insert_eq]
      refine ⟨search_node.mpr ⟨ordered, also, before, after⟩, fun entry => ?_⟩
      rw [mem_node, mem_node]
      grind
    · obtain ⟨inserted, members⟩ := rightIh also
      have entries := toList_insert_gt above greater value nodeValue left right
      refine ⟨(search_node.mpr ⟨ordered, inserted, before, ?_⟩).congr entries, fun entry => ?_⟩
      · grind
      · rw [entries, mem_node, mem_node, members]
        grind

theorem lookup_insert (x : κ) :
    (insert above tree key value).lookup x = if x = key then some value else tree.lookup x := by
  refine Option.ext fun found => ?_
  obtain ⟨inserted, members⟩ := insert_spec above search key value
  rw [lookup_eq_some_iff inserted, members, Prod.mk.injEq]
  split
  · simp [*, eq_comm]
  · simp [*, lookup_eq_some_iff search]

end

theorem toList_erase_sublist (tree : KeyTree κ ν) (key : κ) : (erase above tree key).toList.Sublist tree.toList := by
  induction tree with
  | leaf => exact List.Sublist.refl _
  | node nodeKey nodeValue left right leftIh rightIh =>
    unfold erase
    split
    · rw [toList_merge, toList]
      exact (List.Sublist.refl _).append (sublist_cons_self _ _)
    · exact leftIh.append_right _
    · exact (List.Sublist.refl _).append (rightIh.cons_cons _)

theorem search_erase (search : Search tree) (key : κ) : Search (erase above tree key) :=
  List.Pairwise.sublist (toList_erase_sublist above tree key) search

theorem mem_toList_erase {tree : KeyTree κ ν} (search : Search tree) :
    entry ∈ (erase above tree key).toList ↔ entry ∈ tree.toList ∧ entry.1 ≠ key := by
  induction tree with
  | leaf => simp [erase, toList]
  | node nodeKey nodeValue left right leftIh rightIh =>
    obtain ⟨ordered, also, before, after⟩ := search_node.mp search
    have inLeft := before entry
    have inRight := after entry
    rw [mem_node]
    rcases lt_trichotomy key nodeKey with less | rfl | greater
    · rw [erase, compare_lt_iff_lt.mpr less, mem_node, leftIh ordered]
      grind
    · rw [erase, compare_eq_iff_eq.mpr rfl, toList_merge, mem_append]
      grind
    · rw [erase, compare_gt_iff_gt.mpr greater, mem_node, rightIh also]
      grind

theorem lookup_erase {tree : KeyTree κ ν} (search : Search tree) (key : κ) (x : κ) :
    (erase above tree key).lookup x = if x = key then none else tree.lookup x := by
  refine Option.ext fun found => ?_
  rw [lookup_eq_some_iff (search_erase above search key), mem_toList_erase above search]
  split
  · simp [*]
  · simp [*, lookup_eq_some_iff search]

theorem size_insert (tree : KeyTree κ ν) (key : κ) (value : ν) :
    (insert above tree key value).size = tree.size + if (tree.lookup key).isSome then 0 else 1 := by
  induction tree with
  | leaf => rfl
  | node nodeKey nodeValue left right leftIh rightIh =>
    rcases lt_trichotomy key nodeKey with less | rfl | greater
    · rw [size_eq_length, toList_insert_lt above less, ← size_eq_length, size, size, leftIh,
        lookup_lt less]
      omega
    · rw [toList_insert_eq, lookup_self]
      rfl
    · rw [size_eq_length, toList_insert_gt above greater, ← size_eq_length, size, size, rightIh,
        lookup_gt greater]
      omega

theorem size_erase (tree : KeyTree κ ν) (key : κ) :
    (erase above tree key).size + (if (tree.lookup key).isSome then 1 else 0) = tree.size := by
  induction tree with
  | leaf => rfl
  | node nodeKey nodeValue left right leftIh rightIh =>
    rw [erase, lookup]
    cases compare key nodeKey with
    | eq =>
      rw [size_eq_length, toList_merge, size, size_eq_length left, size_eq_length right, length_append]
      rfl
    | lt =>
      dsimp only
      rw [size, size]
      omega
    | gt =>
      dsimp only
      rw [size, size]
      omega

end Entries

section Heap
variable {above : κ → κ → Prop}

def Heap (above : κ → κ → Prop) : KeyTree κ ν → Prop
  | leaf => True
  | node key _ left right =>
    (∀ entry ∈ left.toList, above key entry.1) ∧ (∀ entry ∈ right.toList, above key entry.1) ∧ left.Heap above ∧
      right.Heap above

theorem Heap.root (heap : (node key value left right).Heap above)
    (member : entry ∈ (node key value left right).toList) : entry.1 = key ∨ above key entry.1 := by
  rcases mem_node.mp member with inLeft | same | inRight
  · exact Or.inr (heap.1 entry inLeft)
  · exact Or.inl (congrArg Prod.fst same)
  · exact Or.inr (heap.2.1 entry inRight)

variable [IsStrictTotalOrder κ above]

theorem Heap.root_below (heap : (node key value left right).Heap above) (higher : above top key)
    (member : entry ∈ (node key value left right).toList) : above top entry.1 := by
  rcases heap.root member with same | lower
  · exact same ▸ higher
  · exact trans_of above higher lower

variable [DecidableRel above]

theorem heap_merge {left right : KeyTree κ ν} (heap : left.Heap above) (also : right.Heap above)
    (apart : ∀ x ∈ left.toList, ∀ y ∈ right.toList, x.1 ≠ y.1) : (merge above left right).Heap above := by
  fun_induction merge above left right with
  | case1 other => exact also
  | case2 key value left right => exact heap
  | case3 leftKey leftValue leftLeft leftRight rightKey rightValue rightLeft rightRight higher ih =>
    refine ⟨heap.1, fun x member => ?_, heap.2.2.1, ih heap.2.2.2 also fun x member => apart x (by simp [mem_node, member])⟩
    rw [toList_merge] at member
    rcases mem_append.mp member with inLeft | inRight
    · exact heap.2.1 x inLeft
    · exact also.root_below higher inRight
  | case4 leftKey leftValue leftLeft leftRight rightKey rightValue rightLeft rightRight lower ih =>
    have higher : above rightKey leftKey := by
      rcases trichotomous_of above leftKey rightKey with up | same | down
      · exact absurd up lower
      · exact absurd same (apart (leftKey, leftValue) (by simp [mem_node]) (rightKey, rightValue) (by simp [mem_node]))
      · exact down
    refine ⟨fun x member => ?_, also.2.1,
      ih heap also.2.2.1 fun x member y other => apart x member y (by simp [mem_node, other]), also.2.2.2⟩
    rw [toList_merge] at member
    rcases mem_append.mp member with inLeft | inRight
    · exact heap.root_below higher inLeft
    · exact also.1 x inRight

/-- A subtree that received a key: if its root now stands above the parent, that root is the new key and
the parent stands above the rest; otherwise the parent stands above all of it. -/
theorem rootAbove_cases {subtree : KeyTree κ ν} (heap : subtree.Heap above)
    (known : ∀ entry ∈ subtree.toList, entry.1 = key ∨ above parent entry.1) (different : key ≠ parent) :
    if subtree.rootAbove above parent then
      ∃ value left right, subtree = node key value left right ∧ above key parent ∧
        (∀ entry ∈ left.toList, above parent entry.1) ∧ ∀ entry ∈ right.toList, above parent entry.1
    else ∀ entry ∈ subtree.toList, above parent entry.1 := by
  cases subtree with
  | leaf => simp [rootAbove, toList]
  | node root value left right =>
    have top := known (root, value) (by simp [mem_node])
    split
    · rename_i higher
      have higher := of_decide_eq_true higher
      have same : root = key := top.resolve_right fun lower => irrefl_of above root (trans_of above higher lower)
      subst same
      refine ⟨value, left, right, rfl, higher, fun entry member => ?_, fun entry member => ?_⟩
      · exact (known entry (by simp [mem_node, member])).resolve_left fun same =>
          irrefl_of above root (same ▸ heap.1 entry member)
      · exact (known entry (by simp [mem_node, member])).resolve_left fun same =>
          irrefl_of above root (same ▸ heap.2.1 entry member)
    · rename_i lower
      have higher : above parent root := by
        rcases trichotomous_of above root parent with up | same | down
        · exact absurd (decide_eq_true up) lower
        · exact top.resolve_left fun isKey => different (isKey.symm.trans same)
        · exact down
      exact fun entry member => heap.root_below higher member

section Ordered
variable [LinearOrder κ]

theorem heap_insert {tree : KeyTree κ ν} (heap : tree.Heap above) (search : Search tree) (key : κ) (value : ν) :
    (insert above tree key value).Heap above := by
  induction tree with
  | leaf => exact ⟨by simp [toList], by simp [toList], trivial, trivial⟩
  | node nodeKey nodeValue left right leftIh rightIh =>
    obtain ⟨overLeft, overRight, leftHeap, rightHeap⟩ := heap
    obtain ⟨ordered, also, _⟩ := search_node.mp search
    rcases lt_trichotomy key nodeKey with less | rfl | greater
    · have inserted := leftIh leftHeap ordered
      have members := (insert_spec above ordered key value).2
      have cases := rootAbove_cases inserted (fun entry member => ((members entry).mp member).imp (congrArg Prod.fst)
        fun old => overLeft entry old.1) less.ne
      rw [insert, compare_lt_iff_lt.mpr less]
      split at cases
      · rename_i higher
        obtain ⟨other, near, far, shape, up, overNear, overFar⟩ := cases
        rw [if_pos higher, shape]
        rw [shape] at inserted
        obtain ⟨keyNear, keyFar, nearHeap, farHeap⟩ := inserted
        refine ⟨keyNear, fun x member => ?_, nearHeap, overFar, overRight, farHeap, rightHeap⟩
        rcases mem_node.mp member with inFar | rfl | inRight
        · exact keyFar x inFar
        · exact up
        · exact trans_of above up (overRight x inRight)
      · rename_i lower
        rw [if_neg lower]
        exact ⟨cases, overRight, inserted, rightHeap⟩
    · rw [toList_insert_eq]
      exact ⟨overLeft, overRight, leftHeap, rightHeap⟩
    · have inserted := rightIh rightHeap also
      have members := (insert_spec above also key value).2
      have cases := rootAbove_cases inserted (fun entry member => ((members entry).mp member).imp (congrArg Prod.fst)
        fun old => overRight entry old.1) greater.ne'
      rw [insert, compare_gt_iff_gt.mpr greater]
      split at cases
      · rename_i higher
        obtain ⟨other, near, far, shape, up, overNear, overFar⟩ := cases
        rw [if_pos higher, shape]
        rw [shape] at inserted
        obtain ⟨keyNear, keyFar, nearHeap, farHeap⟩ := inserted
        refine ⟨fun x member => ?_, keyFar, ⟨overLeft, overNear, leftHeap, nearHeap⟩, farHeap⟩
        rcases mem_node.mp member with inLeft | rfl | inNear
        · exact trans_of above up (overLeft x inLeft)
        · exact up
        · exact keyNear x inNear
      · rename_i lower
        rw [if_neg lower]
        exact ⟨overLeft, cases, leftHeap, inserted⟩

theorem heap_erase {tree : KeyTree κ ν} (heap : tree.Heap above) (search : Search tree) (key : κ) :
    (erase above tree key).Heap above := by
  induction tree with
  | leaf => trivial
  | node nodeKey nodeValue left right leftIh rightIh =>
    obtain ⟨overLeft, overRight, leftHeap, rightHeap⟩ := heap
    obtain ⟨ordered, also, before, after⟩ := search_node.mp search
    unfold erase
    split
    · refine heap_merge leftHeap rightHeap fun x member y other => ?_
      exact ((before x member).trans (after y other)).ne
    · exact ⟨fun x member => overLeft x ((toList_erase_sublist above left key).subset member), overRight,
        leftIh leftHeap ordered, rightHeap⟩
    · exact ⟨overLeft, fun x member => overRight x ((toList_erase_sublist above right key).subset member), leftHeap,
        rightIh rightHeap also⟩

omit [DecidableRel above] in
/-- The two orders and the entries determine the tree. -/
theorem eq_of_mem {tree other : KeyTree κ ν} (search : Search tree) (also : Search other) (heap : tree.Heap above)
    (otherHeap : other.Heap above) (same : ∀ entry, entry ∈ tree.toList ↔ entry ∈ other.toList) : tree = other := by
  induction tree generalizing other with
  | leaf =>
    cases other with
    | leaf => rfl
    | node key value left right => exact absurd ((same (key, value)).mpr (by simp [mem_node])) not_mem_nil
  | node key value left right leftIh rightIh =>
    cases other with
    | leaf => exact absurd ((same (key, value)).mp (by simp [mem_node])) not_mem_nil
    | node otherKey otherValue otherLeft otherRight =>
      have roots : key = otherKey := by
        rcases heap.root ((same (otherKey, otherValue)).mpr (by simp [mem_node])) with isRoot | down
        · exact isRoot.symm
        · rcases otherHeap.root ((same (key, value)).mp (by simp [mem_node])) with isRoot | up
          · exact isRoot
          · exact absurd (trans_of above down up) (irrefl_of above key)
      subst roots
      obtain ⟨leftSearch, rightSearch, before, after⟩ := search_node.mp search
      obtain ⟨leftAlso, rightAlso, otherBefore, otherAfter⟩ := search_node.mp also
      obtain ⟨-, -, leftHeap, rightHeap⟩ := heap
      obtain ⟨-, -, leftOther, rightOther⟩ := otherHeap
      simp only [mem_node] at same
      -- the order of the keys tells on which side of the root an entry stands
      have values : value = otherValue := by
        have found := (same (key, value)).mp (by simp)
        grind
      have sides : ∀ entry, (entry ∈ left.toList ↔ entry ∈ otherLeft.toList) ∧
          (entry ∈ right.toList ↔ entry ∈ otherRight.toList) := by
        intro entry
        have here := same entry
        grind
      rw [values, leftIh leftSearch leftAlso leftHeap leftOther fun entry => (sides entry).1,
        rightIh rightSearch rightAlso rightHeap rightOther fun entry => (sides entry).2]

omit [DecidableRel above] in
theorem eq_of_lookup {tree other : KeyTree κ ν} (search : Search tree) (also : Search other) (heap : tree.Heap above)
    (otherHeap : other.Heap above) (same : ∀ key, tree.lookup key = other.lookup key) : tree = other :=
  eq_of_mem search also heap otherHeap fun entry => by
    rw [← lookup_eq_some_iff search, same, lookup_eq_some_iff also]

end Ordered

end Heap

end KeyTree

structure Treap (κ ν : Type) [LinearOrder κ] (above : κ → κ → Prop) where
  tree : KeyTree κ ν
  search : tree.Search
  heap : tree.Heap above

namespace Treap
variable {κ ν : Type} [LinearOrder κ] {above : κ → κ → Prop}

def empty : Treap κ ν above := ⟨.leaf, KeyTree.search_leaf, trivial⟩

variable [DecidableRel above] [IsStrictTotalOrder κ above]

def insert (treap : Treap κ ν above) (key : κ) (value : ν) : Treap κ ν above :=
  ⟨treap.tree.insert above key value, (KeyTree.insert_spec above treap.search key value).1,
    KeyTree.heap_insert treap.heap treap.search key value⟩

def erase (treap : Treap κ ν above) (key : κ) : Treap κ ν above :=
  ⟨treap.tree.erase above key, KeyTree.search_erase above treap.search key,
    KeyTree.heap_erase treap.heap treap.search key⟩

end Treap

end ConvergeAudit.Lib
