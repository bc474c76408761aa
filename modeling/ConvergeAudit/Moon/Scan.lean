import ConvergeAudit.Moon.Map
import Mathlib.Data.List.Induction

/-!
Many validators of the code read an array into a map and return early when an element fails its check or has the key
of an element before it.
-/

namespace ConvergeAudit.Moon

open List

variable {α κ ν : Type} [DecidableEq κ]

/-- `none` when the loop returns early, otherwise the map it has filled. -/
def collectDistinct (key : α → κ) (value : α → ν) (check : α → Bool) (seen : Map κ ν) : List α → Option (Map κ ν)
  | [] => some seen
  | item :: rest =>
    if !check item || seen.contains (key item) then none
    else collectDistinct key value check (seen.set (key item) (value item)) rest

/-- The same loop when only its verdict is used. -/
def allDistinct (key : α → κ) (check : α → Bool) (items : List α) : Bool :=
  (collectDistinct key (fun _ => true) check Map.empty items).isSome

theorem collectDistinct_isSome_iff (key : α → κ) (value : α → ν) (check : α → Bool) (seen : Map κ ν)
    (items : List α) :
    (collectDistinct key value check seen items).isSome = true ↔
      (∀ item ∈ items, check item = true) ∧ (items.map key).Nodup ∧
        ∀ item ∈ items, seen.contains (key item) = false := by
  induction items generalizing seen with
  | nil => simp [collectDistinct]
  | cons item rest ih =>
    unfold collectDistinct
    by_cases refused : (!check item || seen.contains (key item)) = true
    · rw [if_pos refused]
      constructor
      · intro answered
        cases answered
      · rintro ⟨checks, _, unseen⟩
        have check := checks item mem_cons_self
        have fresh := unseen item mem_cons_self
        simp [check, fresh] at refused
    · rw [if_neg refused, ih]
      have passed : check item = true ∧ seen.contains (key item) = false := by
        simpa using refused
      simp only [mem_cons, forall_eq_or_imp, map_cons, nodup_cons, Map.contains_set, Bool.or_eq_false_iff,
        decide_eq_false_iff_not, passed, true_and]
      constructor
      · rintro ⟨checks, distinct, unseen⟩
        refine ⟨checks, ⟨?_, distinct⟩, fun other member => (unseen other member).2⟩
        intro member
        obtain ⟨other, present, same⟩ := mem_map.mp member
        exact (unseen other present).1 same
      · rintro ⟨checks, ⟨fresh, distinct⟩, unseen⟩
        refine ⟨checks, distinct, fun other member => ⟨fun same => fresh ?_, unseen other member⟩⟩
        exact mem_map.mpr ⟨other, member, same⟩

theorem allDistinct_iff (key : α → κ) (check : α → Bool) (items : List α) :
    allDistinct key check items = true ↔ (∀ item ∈ items, check item = true) ∧ (items.map key).Nodup := by
  unfold allDistinct
  rw [collectDistinct_isSome_iff]
  simp [Map.contains]

theorem get_collectDistinct (collected : collectDistinct key value check seen items = some filled) (k : κ) :
    filled.get k = ((items.find? fun item => key item = k).map value).or (seen.get k) := by
  induction items generalizing seen with
  | nil =>
    rw [collectDistinct, Option.some_inj] at collected
    rw [← collected]
    rfl
  | cons item rest ih =>
    have distinct := (collectDistinct_isSome_iff key value check seen (item :: rest)).mp (by rw [collected]; rfl)
    have fresh : key item ∉ rest.map key := (nodup_cons.mp distinct.2.1).1
    unfold collectDistinct at collected
    split at collected
    · cases collected
    · rw [ih collected, find?_cons, Map.get_set]
      by_cases here : key item = k
      · have absent : rest.find? (fun other => key other = k) = none := by
          rw [find?_eq_none]
          intro other member same
          exact fresh (mem_map.mpr ⟨other, member, by simpa [here] using same⟩)
        simp [here, absent]
      · simp [here, Ne.symm here]

theorem get_collectDistinct_iff (collected : collectDistinct key id check Map.empty items = some filled) (k : κ)
    (item : α) : filled.get k = some item ↔ item ∈ items ∧ key item = k := by
  have distinct := (collectDistinct_isSome_iff key id check Map.empty items).mp (by rw [collected]; rfl)
  rw [get_collectDistinct collected]
  simp only [Map.get_empty, Option.or_none, Option.map_id, id_eq]
  constructor
  · intro found
    exact ⟨mem_of_find?_eq_some found, by simpa using find?_some found⟩
  · rintro ⟨member, rfl⟩
    cases search : items.find? fun other => key other = key item with
    | none =>
      have missed := find?_eq_none.mp search item member
      simp at missed
    | some other =>
      have same : key other = key item := by simpa using find?_some search
      rw [inj_on_of_nodup_map distinct.2.1 (mem_of_find?_eq_some search) member same]

/-- The loop over a roster: members are found under one key and no two of them share a second one. -/
def collectRoster (key second : α → κ) (check : α → Bool) (byKey : Map κ α) (used : Map κ Bool) :
    List α → Option (Map κ α)
  | [] => some byKey
  | item :: rest =>
    if !check item || byKey.contains (key item) || used.contains (second item) then none
    else collectRoster key second check (byKey.set (key item) item) (used.set (second item) true) rest

theorem collectRoster_eq (byKey : Map κ α) (used : Map κ Bool) (items : List α) :
    collectRoster key second check byKey used items =
      if (collectDistinct second (fun _ => true) (fun _ => true) used items).isSome then
        collectDistinct key id check byKey items
      else none := by
  induction items generalizing byKey used with
  | nil => rfl
  | cons item rest ih =>
    unfold collectRoster collectDistinct
    by_cases shared : used.contains (second item) = true
    · simp [shared]
    · rw [ih]
      by_cases refused : (!check item || byKey.contains (key item)) = true <;> simp [shared, refused]

/-- What a roster that was read stands for. -/
structure RosterOf (key second : α → κ) (check : α → Bool) (byKey : Map κ α) (items : List α) : Prop where
  checked : ∀ item ∈ items, check item = true
  keys_distinct : (items.map key).Nodup
  seconds_distinct : (items.map second).Nodup
  get_iff : ∀ k item, byKey.get k = some item ↔ item ∈ items ∧ key item = k

theorem collectRoster_rosterOf {key second : α → κ}
    (collected : collectRoster key second check Map.empty Map.empty items = some byKey) :
    RosterOf key second check byKey items := by
  rw [collectRoster_eq] at collected
  split at collected
  · rename_i seconds
    have distinct := (collectDistinct_isSome_iff key id check Map.empty items).mp (by rw [collected]; rfl)
    exact ⟨distinct.1, distinct.2.1, ((collectDistinct_isSome_iff second _ _ _ items).mp seconds).2.1,
      get_collectDistinct_iff collected⟩
  · cases collected

theorem collectRoster_isSome_iff (key second : α → κ) (check : α → Bool) (items : List α) :
    (collectRoster key second check Map.empty Map.empty items).isSome = true ↔
      (∀ item ∈ items, check item = true) ∧ (items.map key).Nodup ∧ (items.map second).Nodup := by
  rw [collectRoster_eq]
  have seconds := collectDistinct_isSome_iff second (fun _ => true) (fun _ => true) (Map.empty : Map κ Bool) items
  have keys := collectDistinct_isSome_iff key id check (Map.empty : Map κ α) items
  simp only [Map.contains, Map.get_empty, Option.isSome_none, implies_true, and_true, true_and] at seconds keys
  split
  · rename_i read
    rw [keys, and_iff_left (seconds.mp read)]
  · rename_i unread
    rw [seconds] at unread
    simp [unread]

theorem get_eq_of_mem_iff {key : α → κ} {items others : List α} (same : ∀ item, item ∈ items ↔ item ∈ others)
    {byKey othersByKey : Map κ α} (told : ∀ k item, byKey.get k = some item ↔ item ∈ items ∧ key item = k)
    (told' : ∀ k item, othersByKey.get k = some item ↔ item ∈ others ∧ key item = k) (k : κ) :
    byKey.get k = othersByKey.get k := by
  refine Option.ext fun item => ?_
  rw [told, told', same]

theorem collectDistinct_of_perm {key : α → κ} {check : α → Bool} {items others : List α} (perm : items.Perm others)
    (read : collectDistinct key id check Map.empty items = some byKey) :
    ∃ othersByKey, collectDistinct key id check Map.empty others = some othersByKey ∧
      ∀ k, byKey.get k = othersByKey.get k := by
  obtain ⟨valid, keys, fresh⟩ := (collectDistinct_isSome_iff key id check Map.empty items).mp (by rw [read]; rfl)
  have collected := (collectDistinct_isSome_iff key id check Map.empty others).mpr
    ⟨fun item member => valid item (perm.mem_iff.mpr member), (perm.map _).nodup_iff.mp keys,
      fun item member => fresh item (perm.mem_iff.mpr member)⟩
  obtain ⟨othersByKey, read'⟩ := Option.isSome_iff_exists.mp collected
  exact ⟨othersByKey, read', get_eq_of_mem_iff (fun _ => perm.mem_iff) (get_collectDistinct_iff read)
    (get_collectDistinct_iff read')⟩

theorem collectRoster_of_perm {key second : α → κ} {check : α → Bool} {items others : List α}
    (perm : items.Perm others) (read : collectRoster key second check Map.empty Map.empty items = some byKey) :
    ∃ othersByKey, collectRoster key second check Map.empty Map.empty others = some othersByKey ∧
      ∀ k, byKey.get k = othersByKey.get k := by
  have roster := collectRoster_rosterOf read
  have collected := (collectRoster_isSome_iff key second check others).mpr
    ⟨fun item member => roster.checked item (perm.mem_iff.mpr member), (perm.map _).nodup_iff.mp roster.keys_distinct,
      (perm.map _).nodup_iff.mp roster.seconds_distinct⟩
  obtain ⟨othersByKey, read'⟩ := Option.isSome_iff_exists.mp collected
  exact ⟨othersByKey, read', get_eq_of_mem_iff (fun _ => perm.mem_iff) roster.get_iff (collectRoster_rosterOf read').get_iff⟩

/-- The closure that pushes a text unless it has been pushed before. -/
def addUnseen (state : Map κ Bool × List κ) (item : κ) : Map κ Bool × List κ :=
  if state.1.contains item then state else (state.1.set item true, state.2 ++ [item])

def unseen (items : List κ) : List κ := (items.foldl addUnseen (Map.empty, [])).2

theorem unseen_invariant (items : List κ) :
    let state := items.foldl addUnseen (Map.empty, [])
    state.2.Nodup ∧ (∀ item, item ∈ state.2 ↔ item ∈ items) ∧ ∀ item, state.1.contains item = true ↔ item ∈ items := by
  induction items using List.reverseRecOn with
  | nil => simp [Map.contains]
  | append_singleton items item ih =>
    obtain ⟨distinct, pushed, seen⟩ := ih
    rw [foldl_append, foldl_cons, foldl_nil, addUnseen]
    split
    · rename_i known
      have member := (seen item).mp known
      have both : ∀ other, other ∈ items ↔ other ∈ items ++ [item] := by
        intro other
        rw [mem_append, mem_singleton, or_iff_left_of_imp]
        exact fun same => same ▸ member
      exact ⟨distinct, fun other => (pushed other).trans (both other), fun other => (seen other).trans (both other)⟩
    · rename_i unknown
      rw [seen] at unknown
      refine ⟨?_, ?_, ?_⟩
      · exact Lib.nodup_concat distinct fun member => unknown ((pushed _).mp member)
      · intro other
        rw [mem_append, mem_append, pushed]
      · intro other
        rw [Map.contains_set, Bool.or_eq_true, decide_eq_true_eq, seen, mem_append, mem_singleton, or_comm]

/-- The texts that were pushed, up to their order, depend on the set of texts that were offered. -/
theorem unseen_perm {items others : List κ} (same : ∀ item, item ∈ items ↔ item ∈ others) :
    (unseen items).Perm (unseen others) := by
  obtain ⟨distinct, pushed, _⟩ := unseen_invariant items
  obtain ⟨distinct', pushed', _⟩ := unseen_invariant others
  unfold unseen
  rw [perm_ext_iff_of_nodup distinct distinct']
  intro item
  rw [pushed, pushed', same]

end ConvergeAudit.Moon
