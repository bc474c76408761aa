import ConvergeAudit.AuthMap.Refine
import ConvergeAudit.Lib.Concat

/-!
Maps are objects that `put` and `remove` change in place and `fork` copies. A store of such objects
refines a store of finite maps, and the contents of a map determine the whole object.
-/

namespace ConvergeAudit.AuthMap
open Moon Bft Lib
open List hiding map

def AuthNode.Every (P : Str → Str → Digest → Digest → AuthNode → AuthNode → Prop) : AuthNode → Prop
  | empty => True
  | branch key value priority digest left right =>
    P key value priority digest left right ∧ left.Every P ∧ right.Every P

def AuthNode.ranks : AuthNode → List (Digest × Str)
  | empty => []
  | branch key _ priority _ left right => left.ranks ++ (priority, key) :: right.ranks

def AuthNode.count (node : AuthNode) : Nat := node.ranks.length

theorem ranks_render : (render hasher tree).ranks = tree.toList.map fun entry => (keyPriority hasher entry.1, entry.1) := by
  induction tree with
  | leaf => rfl
  | node key value left right leftIh rightIh =>
    rw [render, makeBranch, AuthNode.ranks, leftIh, rightIh, KeyTree.toList, map_append, map_cons]

theorem every_render {Q : KeyTree Str Str → Prop}
    (parts : ∀ key value left right, Q (.node key value left right) → Q left ∧ Q right ∧
      P key value (keyPriority hasher key)
        (hasher.hashString (serializeAuthmapNode key value
          ((render hasher left).digest (hasher.hashString serializeAuthmapEmpty))
          ((render hasher right).digest (hasher.hashString serializeAuthmapEmpty))))
        (render hasher left) (render hasher right)) (holds : Q tree) : (render hasher tree).Every P := by
  induction tree with
  | leaf => trivial
  | node key value left right leftIh rightIh =>
    obtain ⟨onLeft, onRight, here⟩ := parts key value left right holds
    exact ⟨here, leftIh onLeft, rightIh onRight⟩

section
variable [StrOrder]

/-- The invariants of the map: search order on the keys, heap order on priority and key, priorities
derived from the keys, digests that match their branch, and the right count. -/
structure WellFormed (hasher : Hasher) (map : AuthenticatedMap) : Prop where
  sameHasher : map.hasher = hasher
  sameEmpty : map.emptyDigest = hasher.hashString serializeAuthmapEmpty
  search : map.rootNode.Every fun key _ _ _ left right =>
    (∀ rank ∈ left.ranks, rank.2 < key) ∧ ∀ rank ∈ right.ranks, key < rank.2
  heap : map.rootNode.Every fun key _ priority _ left right =>
    ∀ rank ∈ left.ranks ++ right.ranks, priorityBefore priority key rank.1 rank.2 = true
  priorities : map.rootNode.Every fun key _ priority _ _ _ => priority = keyPriority hasher key
  digests : map.rootNode.Every fun key value _ digest left right =>
    digest = hasher.hashString
      (serializeAuthmapNode key value (left.digest map.emptyDigest) (right.digest map.emptyDigest))
  count : map.entryCount = map.rootNode.count

theorem wellFormed_ofTreap {hasher : Hasher} (treap : Treap Str Str (Above hasher)) :
    WellFormed hasher (ofTreap hasher treap) where
  sameHasher := rfl
  sameEmpty := rfl
  search := by
    refine every_render (Q := KeyTree.Search) (fun key value left right search => ?_) treap.search
    obtain ⟨ordered, also, before, after⟩ := KeyTree.search_node.mp search
    simp only [ranks_render, mem_map, forall_exists_index, and_imp, forall_apply_eq_imp_iff₂]
    exact ⟨ordered, also, before, after⟩
  heap := by
    refine every_render (Q := KeyTree.Heap (Above hasher)) (fun key value left right heap => ?_) treap.heap
    obtain ⟨overLeft, overRight, leftHeap, rightHeap⟩ := heap
    refine ⟨leftHeap, rightHeap, fun rank member => ?_⟩
    rw [ranks_render, ranks_render, ← map_append] at member
    obtain ⟨other, occurs, rfl⟩ := mem_map.mp member
    rcases mem_append.mp occurs with inLeft | inRight
    · exact overLeft other inLeft
    · exact overRight other inRight
  priorities := every_render (Q := fun _ => True) (fun _ _ _ _ _ => ⟨trivial, trivial, rfl⟩) trivial
  digests := every_render (Q := fun _ => True) (fun _ _ _ _ _ => ⟨trivial, trivial, rfl⟩) trivial
  count := by
    unfold AuthNode.count ofTreap
    dsimp only
    rw [ranks_render, length_map, KeyTree.size_eq_length]

inductive MapCall where
  | put (object : Nat) (key value : Str)
  | remove (object : Nat) (key : Str)
  | fork (object : Nat)

inductive MapReply where
  | mutated (mutation : AuthMapMutation)
  | removed (found : Bool)
  | forked

def applyCall (store : List AuthenticatedMap) : MapCall → List AuthenticatedMap × Option MapReply
  | .put object key value =>
    match store[object]? with
    | none => (store, none)
    | some map => (store.set object (map.put key value).1, some (.mutated (map.put key value).2))
  | .remove object key =>
    match store[object]? with
    | none => (store, none)
    | some map => (store.set object (map.remove key).1, some (.removed (map.remove key).2))
  | .fork object =>
    match store[object]? with
    | none => (store, none)
    | some map => (store ++ [map.fork], some .forked)

def runCalls (store : List AuthenticatedMap) : List MapCall → List AuthenticatedMap × List (Option MapReply)
  | [] => (store, [])
  | call :: rest =>
    let (next, reply) := applyCall store call
    let (last, replies) := runCalls next rest
    (last, reply :: replies)

abbrev FiniteMap := Str → Option Str

def specCall (store : List FiniteMap) : MapCall → List FiniteMap × Option MapReply
  | .put object key value =>
    match store[object]? with
    | none => (store, none)
    | some map =>
      (store.set object (Function.update map key (some value)),
        some (.mutated (if map key = none then .inserted else if map key = some value then .unchanged else .updated)))
  | .remove object key =>
    match store[object]? with
    | none => (store, none)
    | some map => (store.set object (Function.update map key none), some (.removed (map key).isSome))
  | .fork object =>
    match store[object]? with
    | none => (store, none)
    | some map => (store ++ [map], some .forked)

def specCalls (store : List FiniteMap) : List MapCall → List FiniteMap × List (Option MapReply)
  | [] => (store, [])
  | call :: rest =>
    let (next, reply) := specCall store call
    let (last, replies) := specCalls next rest
    (last, reply :: replies)

def Represents (hasher : Hasher) (map : AuthenticatedMap) (contents : FiniteMap) : Prop :=
  ∃ treap : Treap Str Str (Above hasher), map = ofTreap hasher treap ∧ ∀ key, treap.tree.lookup key = contents key

section
variable (represents : Represents hasher map contents)
include represents

theorem Represents.put (key value : Str) :
    Represents hasher (map.put key value).1 (Function.update contents key (some value)) ∧
      (map.put key value).2 = if contents key = none then .inserted
        else if contents key = some value then .unchanged else .updated := by
  obtain ⟨treap, rfl, table⟩ := represents
  rw [put_ofTreap, table]
  refine ⟨⟨treap.insert key value, rfl, fun x => ?_⟩, rfl⟩
  rw [Treap.insert, KeyTree.lookup_insert (Above hasher) treap.search, Function.update_apply, table]

theorem Represents.remove (key : Str) :
    Represents hasher (map.remove key).1 (Function.update contents key none) ∧
      (map.remove key).2 = (contents key).isSome := by
  obtain ⟨treap, rfl, table⟩ := represents
  rw [remove_ofTreap, table]
  refine ⟨⟨treap.erase key, rfl, fun x => ?_⟩, rfl⟩
  rw [Treap.erase, KeyTree.lookup_erase (Above hasher) treap.search, Function.update_apply, table]

theorem Represents.get (key : Str) : map.get key = contents key := by
  obtain ⟨treap, rfl, table⟩ := represents
  rw [get_ofTreap, table]

end

theorem represents_new (hasher : Hasher) : Represents hasher (AuthenticatedMap.new hasher) fun _ => none :=
  ⟨Treap.empty, rfl, fun _ => rfl⟩

structure Related (hasher : Hasher) (store : List AuthenticatedMap) (maps : List FiniteMap) : Prop where
  length : store.length = maps.length
  each : ∀ (object : Nat) map contents, store[object]? = some map → maps[object]? = some contents →
    Represents hasher map contents

section
variable (related : Related hasher store maps)
include related

theorem Related.partner {object : Nat} (found : store[object]? = some map) :
    ∃ contents, maps[object]? = some contents ∧ Represents hasher map contents := by
  have bound := (List.getElem?_eq_some_iff.mp found).1
  rw [related.length] at bound
  have partner := getElem?_eq_getElem bound
  exact ⟨_, partner, related.each object map _ found partner⟩

theorem Related.set (object : Nat) (represents : Represents hasher map contents) :
    Related hasher (store.set object map) (maps.set object contents) where
  length := by rw [length_set, length_set, related.length]
  each := by
    intro other found expected here there
    rw [getElem?_set] at here there
    split at here
    · rename_i same
      rw [if_pos same, ← related.length] at there
      split at here
      · rename_i bound
        rw [if_pos bound] at there
        cases here
        cases there
        exact represents
      · cases here
    · rename_i different
      rw [if_neg different] at there
      exact related.each other found expected here there

theorem Related.push (represents : Represents hasher map contents) :
    Related hasher (store ++ [map]) (maps ++ [contents]) where
  length := by rw [length_append, length_append, related.length]; rfl
  each := by
    intro object found expected here there
    rcases Lib.getElem?_concat_iff.mp here with old | ⟨rfl, rfl⟩
    · rw [getElem?_append_left (related.length ▸ (List.getElem?_eq_some_iff.mp old).1)] at there
      exact related.each object found expected old there
    · rw [related.length, getElem?_concat_length] at there
      cases there
      exact represents

theorem Related.applyCall (call : MapCall) :
    Related hasher (applyCall store call).1 (specCall maps call).1 ∧
      (AuthMap.applyCall store call).2 = (specCall maps call).2 := by
  have absent : ∀ object : Nat, store[object]? = none → maps[object]? = none := by
    intro object missing
    rw [getElem?_eq_none_iff] at missing ⊢
    rwa [← related.length]
  cases call with
  | put object key value =>
    cases found : store[object]? with
    | none => simpa [AuthMap.applyCall, specCall, found, absent object found] using related
    | some map =>
      obtain ⟨contents, partner, represents⟩ := related.partner found
      obtain ⟨next, reply⟩ := represents.put key value
      simpa [AuthMap.applyCall, specCall, found, partner, reply] using related.set object next
  | remove object key =>
    cases found : store[object]? with
    | none => simpa [AuthMap.applyCall, specCall, found, absent object found] using related
    | some map =>
      obtain ⟨contents, partner, represents⟩ := related.partner found
      obtain ⟨next, reply⟩ := represents.remove key
      simpa [AuthMap.applyCall, specCall, found, partner, reply] using related.set object next
  | fork object =>
    cases found : store[object]? with
    | none => simpa [AuthMap.applyCall, specCall, found, absent object found] using related
    | some map =>
      obtain ⟨contents, partner, represents⟩ := related.partner found
      have copied : map.fork = map := rfl
      simpa [AuthMap.applyCall, specCall, found, partner, copied] using related.push represents

theorem Related.runCalls (calls : List MapCall) :
    Related hasher (runCalls store calls).1 (specCalls maps calls).1 ∧
      (AuthMap.runCalls store calls).2 = (specCalls maps calls).2 := by
  induction calls generalizing store maps with
  | nil => exact ⟨related, rfl⟩
  | cons call rest ih =>
    obtain ⟨next, reply⟩ := related.applyCall call
    obtain ⟨last, replies⟩ := ih next
    exact ⟨last, by rw [AuthMap.runCalls, specCalls]; exact congrArg₂ List.cons reply replies⟩

end

def MapCall.target : MapCall → Option Nat
  | .put object _ _ => some object
  | .remove object _ => some object
  | .fork _ => none

theorem applyCall_other (found : store[object]? = some map) (other : call.target ≠ some object) :
    (applyCall store call).1[object]? = some map := by
  have apart : ∀ target, (some target : Option Nat) ≠ some object → target ≠ object := fun _ different same =>
    different (congrArg some same)
  cases call with
  | put target | remove target =>
    unfold applyCall
    dsimp only
    split
    · exact found
    · rw [getElem?_set_ne (apart target other)]
      exact found
  | fork source =>
    unfold applyCall
    dsimp only
    split
    · exact found
    · rw [getElem?_append_left (List.getElem?_eq_some_iff.mp found).1]
      exact found

theorem runCalls_other (found : store[object]? = some map) (other : ∀ call ∈ calls, call.target ≠ some object) :
    (runCalls store calls).1[object]? = some map := by
  induction calls generalizing store with
  | nil => exact found
  | cons call rest ih =>
    exact ih (applyCall_other found (other call mem_cons_self))
      fun later member => other later (mem_cons_of_mem _ member)

theorem runCalls_append (store : List AuthenticatedMap) (front back : List MapCall) :
    (runCalls store (front ++ back)).1 = (runCalls (runCalls store front).1 back).1 := by
  induction front generalizing store with
  | nil => rfl
  | cons call rest ih => exact ih _

theorem related_new (hasher : Hasher) : Related hasher [AuthenticatedMap.new hasher] [fun _ => none] where
  length := rfl
  each object map contents here there := by
    cases object with
    | zero =>
      cases here
      cases there
      exact represents_new hasher
    | succ object => cases here

/-- Every run of calls from one empty map refines the run on finite maps. All replies are those of the
finite maps; every object is well formed and has the contents of its finite map; and an object, such
as a fork, that no later call addresses stays as it is. -/
theorem runCalls_refines_finite_maps (hasher : Hasher) (calls : List MapCall) :
    let store := (runCalls [AuthenticatedMap.new hasher] calls).1
    let maps := (specCalls [fun _ => none] calls).1
    (runCalls [AuthenticatedMap.new hasher] calls).2 = (specCalls [fun _ => none] calls).2 ∧
    store.length = maps.length ∧
    (∀ (object : Nat) map, store[object]? = some map → WellFormed hasher map ∧
      ∃ contents, maps[object]? = some contents ∧ ∀ key, map.get key = contents key) ∧
    ∀ before after (object : Nat) map, calls = before ++ after →
      (runCalls [AuthenticatedMap.new hasher] before).1[object]? = some map →
      (∀ call ∈ after, call.target ≠ some object) → store[object]? = some map := by
  intro store maps
  obtain ⟨related, replies⟩ := Related.runCalls (related_new hasher) calls
  refine ⟨replies, related.length, ?_, ?_⟩
  · intro object map found
    obtain ⟨contents, partner, treap, rfl, table⟩ := related.partner found
    exact ⟨wellFormed_ofTreap treap, contents, partner, Represents.get ⟨treap, rfl, table⟩⟩
  · rintro before after object map rfl found other
    have last := runCalls_other found other
    rwa [← runCalls_append] at last

/-- A map that some run of calls from one empty map produces. -/
def Reachable (hasher : Hasher) (map : AuthenticatedMap) : Prop :=
  ∃ calls, map ∈ (runCalls [AuthenticatedMap.new hasher] calls).1

theorem Reachable.treap (reachable : Reachable hasher map) :
    ∃ treap : Treap Str Str (Above hasher), map = ofTreap hasher treap := by
  obtain ⟨calls, member⟩ := reachable
  obtain ⟨object, found⟩ := mem_iff_getElem?.mp member
  obtain ⟨contents, -, treap, same, -⟩ := (Related.runCalls (related_new hasher) calls).1.partner found
  exact ⟨treap, same⟩

/-- The contents determine the tree, the root and every proof, whatever calls produced them. -/
theorem contents_determine_map (hasher : Hasher) (first second : List MapCall) {left right : AuthenticatedMap}
    (one : left ∈ (runCalls [AuthenticatedMap.new hasher] first).1)
    (other : right ∈ (runCalls [AuthenticatedMap.new hasher] second).1) (same : ∀ key, left.get key = right.get key) :
    left.rootNode = right.rootNode ∧ left.root = right.root ∧
      ∀ key, left.proof key = right.proof key ∧ left.absenceProof key = right.absenceProof key := by
  obtain ⟨treap, rfl⟩ := Reachable.treap ⟨first, one⟩
  obtain ⟨also, rfl⟩ := Reachable.treap ⟨second, other⟩
  rw [ofTreap_eq_of_get same]
  exact ⟨rfl, rfl, fun _ => ⟨rfl, rfl⟩⟩

end

section
open Shortlex

def constantHasher : Hasher := ⟨fun _ => ⟨"00"⟩⟩

/-- Two keys put in either order, under a hasher that collides everywhere. -/
theorem contents_determine_map_swapped_puts :
    let start := AuthenticatedMap.new constantHasher
    ((start.put "a" "1").1.put "b" "2").1.root = ((start.put "b" "2").1.put "a" "1").1.root := by
  have empty := represents_new constantHasher
  have one := ((empty.put "a" "1").1.put "b" "2").1
  have other := ((empty.put "b" "2").1.put "a" "1").1
  refine (contents_determine_map constantHasher [.put 0 "a" "1", .put 0 "b" "2"] [.put 0 "b" "2", .put 0 "a" "1"]
    (mem_singleton_self _) (mem_singleton_self _) ?_).2.1
  intro key
  rw [one.get, other.get, Function.update_comm (by decide)]

end

end ConvergeAudit.AuthMap
