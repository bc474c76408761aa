import ConvergeAudit.Moon.Scan
import ConvergeAudit.Moon.Sort

/-!
`sort((left, right) => key(left) - key(right))`, and the loops that push each item into the slot of its key in a `Map`.
-/

namespace ConvergeAudit.Js

open Moon List

variable {α κ : Type} [DecidableEq κ]

def sortOn (key : α → Int) (items : List α) : List α := sortBy (fun left right => compare (key left) (key right)) items

@[simp] theorem mem_sortOn : x ∈ sortOn key items ↔ x ∈ items := mem_sortBy

theorem sortOn_perm : (sortOn key items).Perm items := sortBy_perm _ _

theorem sortOn_eq_self (ordered : items.Pairwise fun x y => key x ≤ key y) : sortOn key items = items := by
  refine List.Pairwise.insertionSort_eq (ordered.imp ?_)
  intro x y below
  exact compare_le_iff_le.mpr below

/-- `start, start + 1, …`, `n` of them. -/
def countFrom (start : Int) (n : Nat) : List Int := (List.range n).map fun i : Nat => start + (i : Int)

@[simp] theorem length_countFrom : (countFrom start n).length = n := by simp [countFrom]

theorem countFrom_succ : countFrom start (n + 1) = countFrom start n ++ [start + n] := by
  simp [countFrom, range_succ]

theorem pairwise_countFrom (start : Int) (n : Nat) : (countFrom start n).Pairwise (· < ·) := by
  refine pairwise_map.mpr (pairwise_lt_range.imp ?_)
  omega

theorem nodup_countFrom : (countFrom start n).Nodup :=
  (pairwise_countFrom start n).imp fun below => below.ne

/-- `items.some((item, index) => key(item) !== start + index)` is false. -/
def numbered (key : α → Int) (start : Int) (items : List α) : Bool :=
  items.zipIdx.all fun entry => key entry.1 == start + entry.2

theorem numbered_iff : numbered key start items = true ↔ items.map key = countFrom start items.length := by
  unfold numbered
  rw [all_eq_true]
  constructor
  · intro each
    refine ext_getElem (by simp) ?_
    intro i below _
    rw [length_map] at below
    have here := each (items[i], i) (mem_zipIdx_iff_getElem?.mpr (getElem?_eq_getElem below))
    simpa [countFrom] using here
  · rintro same ⟨item, i⟩ member
    have found : items[i]? = some item := mem_zipIdx_iff_getElem?.mp member
    obtain ⟨below, rfl⟩ := List.getElem?_eq_some_iff.mp found
    have here : (items.map key)[i]? = (countFrom start items.length)[i]? := by rw [same]
    simpa [countFrom, below] using here

theorem sortOn_numbered (count : items.map key = countFrom start items.length) : sortOn key items = items := by
  refine sortOn_eq_self ?_
  have ordered := pairwise_countFrom start items.length
  rw [← count] at ordered
  exact (pairwise_map.mp ordered).imp le_of_lt

theorem mem_entries_iff {m : Map κ ν} (distinct : m.Distinct) : (k, v) ∈ m.entries ↔ m.get k = some v := by
  obtain ⟨entries⟩ := m
  unfold Map.Distinct at distinct
  unfold Map.get
  induction entries with
  | nil => simp
  | cons entry rest ih =>
    obtain ⟨first, value⟩ := entry
    simp only [map_cons, nodup_cons] at distinct
    rw [mem_cons, ih distinct.2, Map.lookup_cons_eq]
    by_cases same : k = first
    · subst same
      have absent : rest.lookup k ≠ some v := fun found =>
        distinct.1 (mem_map.mpr ⟨(k, v), (ih distinct.2).mpr found, rfl⟩)
      simp [absent, eq_comm]
    · simp [same]

/-- `slots.set(key, [...(slots.get(key) ?? []), item])`. -/
def pushSlot (key : α → κ) (slots : Map κ (List α)) (item : α) : Map κ (List α) :=
  slots.set (key item) ((slots.get (key item)).getD [] ++ [item])

def slotsOf (key : α → κ) (items : List α) : Map κ (List α) := items.foldl (pushSlot key) Map.empty

theorem slotsOf_append (key : α → κ) (items : List α) (item : α) :
    slotsOf key (items ++ [item]) = pushSlot key (slotsOf key items) item := by
  simp [slotsOf]

theorem get_slotsOf (items : List α) (k : κ) :
    (slotsOf key items).get k =
      if items.filter (fun item => key item = k) = [] then none else some (items.filter fun item => key item = k) := by
  induction items using List.reverseRecOn with
  | nil => rfl
  | append_singleton items item ih =>
    rw [slotsOf_append, pushSlot, Map.get_set, filter_append]
    by_cases same : k = key item
    · subst same
      rw [ih]
      by_cases none : items.filter (fun other => key other = key item) = []
      · simp [none]
      · simp [none]
    · have other : ¬key item = k := fun equal => same equal.symm
      simp [same, other, ih]

theorem distinct_slotsOf (key : α → κ) (items : List α) : (slotsOf key items).Distinct := by
  induction items using List.reverseRecOn with
  | nil => exact Map.distinct_empty
  | append_singleton items item ih =>
    rw [slotsOf_append, pushSlot]
    exact ih.set _ _

theorem mem_keys_slotsOf {key : α → κ} :
    k ∈ (slotsOf key items).entries.map Prod.fst ↔ ∃ item ∈ items, key item = k := by
  rw [Map.mem_keys_iff, get_slotsOf]
  split
  · rename_i none
    simp only [Option.isSome_none, Bool.false_eq_true, false_iff, not_exists, not_and]
    intro item member same
    exact absurd (mem_filter.mpr ⟨member, decide_eq_true same⟩) (none ▸ not_mem_nil)
  · rename_i some
    obtain ⟨item, member⟩ := exists_mem_of_ne_nil _ some
    simp only [Option.isSome_some, true_iff]
    exact ⟨item, (mem_filter.mp member).1, of_decide_eq_true (mem_filter.mp member).2⟩

theorem forall_slotsOf {P : κ → List α → Prop} :
    (∀ entry ∈ (slotsOf key items).entries, P entry.1 entry.2) ↔
      ∀ k, items.filter (fun item => key item = k) ≠ [] → P k (items.filter fun item => key item = k) := by
  have read : ∀ k slot, (k, slot) ∈ (slotsOf key items).entries ↔ (slotsOf key items).get k = some slot :=
    fun k slot => mem_entries_iff (distinct_slotsOf key items)
  constructor
  · intro each k occurs
    exact each (k, _) ((read k _).mpr (by rw [get_slotsOf, if_neg occurs]))
  · rintro each ⟨k, slot⟩ member
    have found := (read k slot).mp member
    rw [get_slotsOf] at found
    split at found
    · exact absurd found (by simp)
    · rename_i occurs
      cases found
      exact each k occurs

end ConvergeAudit.Js
