import ConvergeAudit.Lib.Concat
import Mathlib.Data.List.Basic
import Mathlib.Data.List.Perm.Subperm

/-!
`Map` keeps its entries in insertion order; assigning an existing key replaces the value in place.
-/

namespace ConvergeAudit.Moon

open List

/-- A MoonBit `Map[K, V]`, as the list of its entries in iteration order. -/
structure Map (κ ν : Type) where
  entries : List (κ × ν)

namespace Map

variable {κ ν : Type} [DecidableEq κ]

def empty : Map κ ν := ⟨[]⟩

instance : Inhabited (Map κ ν) := ⟨empty⟩

def get (m : Map κ ν) (key : κ) : Option ν := m.entries.lookup key

def contains (m : Map κ ν) (key : κ) : Bool := (m.get key).isSome

def assign (key : κ) (value : ν) : List (κ × ν) → List (κ × ν)
  | [] => [(key, value)]
  | entry :: rest => if entry.1 = key then (key, value) :: rest else entry :: assign key value rest

def set (m : Map κ ν) (key : κ) (value : ν) : Map κ ν := ⟨assign key value m.entries⟩

def remove (m : Map κ ν) (key : κ) : Map κ ν := ⟨m.entries.filter fun entry => entry.1 ≠ key⟩

def copyEntry (m source : Map κ ν) (key : κ) : Map κ ν :=
  match source.get key with
  | some value => m.set key value
  | none => m

def assignSome (m : Map κ ν) (key : κ) : Option ν → Map κ ν
  | some value => m.set key value
  | none => m

def length (m : Map κ ν) : Nat := m.entries.length

@[simp] theorem get_empty : (empty : Map κ ν).get key = none := rfl

theorem lookup_cons_eq (key : κ) (entry : κ × ν) (rest : List (κ × ν)) :
    (entry :: rest).lookup key = if key = entry.1 then some entry.2 else rest.lookup key := by
  rw [lookup_cons]
  by_cases hit : key = entry.1
  · simp [hit]
  · simp [hit, beq_eq_false_iff_ne.mpr hit]

theorem get_set (m : Map κ ν) (key other : κ) (value : ν) :
    (m.set key value).get other = if other = key then some value else m.get other := by
  obtain ⟨entries⟩ := m
  simp only [get, set]
  induction entries with
  | nil => simp [assign, lookup_cons_eq]
  | cons entry rest ih =>
    simp only [assign]
    by_cases hit : entry.1 = key
    · by_cases same : other = key <;> simp [hit, lookup_cons_eq, same]
    · rw [if_neg hit, lookup_cons_eq, lookup_cons_eq, ih]
      by_cases found : other = entry.1 <;> simp [found, hit]

@[simp] theorem get_set_self (m : Map κ ν) (key : κ) (value : ν) : (m.set key value).get key = some value := by
  simp [get_set]

theorem get_set_other (m : Map κ ν) (value : ν) (different : other ≠ key) :
    (m.set key value).get other = m.get other := by
  simp [get_set, different]

theorem get_set_of_fresh {m : Map κ ν} (fresh : m.get key = none) (found : m.get other = some old) :
    (m.set key value).get other = some old := by
  rw [get_set_other, found]
  rintro rfl
  exact absurd found (by rw [fresh]; simp)

theorem contains_set (m : Map κ ν) (key other : κ) (value : ν) :
    (m.set key value).contains other = (decide (other = key) || m.contains other) := by
  by_cases same : other = key <;> simp [contains, get_set, same]

theorem entries_set_of_get_eq_none (m : Map κ ν) (absent : m.get key = none) :
    (m.set key value).entries = m.entries ++ [(key, value)] := by
  obtain ⟨entries⟩ := m
  simp only [get, set] at absent ⊢
  induction entries with
  | nil => rfl
  | cons entry rest ih =>
    rw [lookup_cons_eq] at absent
    split at absent
    · cases absent
    · rename_i different
      rw [assign, if_neg (Ne.symm different), ih absent, cons_append]

/-- No key occurs twice among the entries; the maps that are built by assignments are like that. -/
def Distinct (m : Map κ ν) : Prop := (m.entries.map Prod.fst).Nodup

omit [DecidableEq κ] in
theorem distinct_empty : (empty : Map κ ν).Distinct := nodup_nil

theorem mem_keys_iff (m : Map κ ν) (key : κ) : key ∈ m.entries.map Prod.fst ↔ (m.get key).isSome = true := by
  obtain ⟨entries⟩ := m
  simp only [get]
  induction entries with
  | nil => simp
  | cons entry rest ih =>
    by_cases hit : key = entry.1 <;> simp [hit]

theorem keys_set (m : Map κ ν) (key : κ) (value : ν) :
    (m.set key value).entries.map Prod.fst =
      if (m.get key).isSome then m.entries.map Prod.fst else m.entries.map Prod.fst ++ [key] := by
  obtain ⟨entries⟩ := m
  induction entries with
  | nil => rfl
  | cons entry rest ih =>
    simp only [get, set, assign, lookup_cons_eq] at ih ⊢
    by_cases hit : entry.1 = key
    · simp [hit]
    · simp only [hit, Ne.symm hit, if_false, map_cons, ih]
      by_cases found : (rest.lookup key).isSome = true <;> simp [found]

theorem Distinct.set {m : Map κ ν} (distinct : m.Distinct) (key : κ) (value : ν) : (m.set key value).Distinct := by
  unfold Distinct
  rw [keys_set]
  split
  · exact distinct
  · rename_i absent
    rw [← mem_keys_iff] at absent
    exact Lib.nodup_concat distinct absent

theorem Distinct.remove {m : Map κ ν} (distinct : m.Distinct) (key : κ) : (m.remove key).Distinct :=
  distinct.sublist (filter_sublist.map Prod.fst)

theorem Distinct.length_eq {m : Map κ ν} {other : Map κ ν'} (distinct : m.Distinct) (distinctOther : other.Distinct)
    (same : ∀ key, (m.get key).isSome = (other.get key).isSome) : m.length = other.length := by
  have keys : (m.entries.map Prod.fst).Perm (other.entries.map Prod.fst) := by
    rw [perm_ext_iff_of_nodup distinct distinctOther]
    intro key
    rw [mem_keys_iff, mem_keys_iff, same]
  have lengths := keys.length_eq
  rwa [List.length_map, List.length_map] at lengths

theorem Distinct.length_le {m : Map κ ν} (distinct : m.Distinct) {keys : List κ}
    (among : ∀ key, (m.get key).isSome = true → key ∈ keys) : m.length ≤ keys.length := by
  have counted : (m.entries.map Prod.fst).length ≤ keys.length := by
    refine (List.Nodup.subperm distinct ?_).length_le
    intro key member
    exact among key ((mem_keys_iff m key).mp member)
  rwa [List.length_map] at counted

theorem get_foldl_set {updates : Map κ ν} (distinct : updates.Distinct) (base : Map κ ν) (key : κ) :
    (updates.entries.foldl (fun m entry => m.set entry.1 entry.2) base).get key =
      match updates.get key with
      | some value => some value
      | none => base.get key := by
  obtain ⟨entries⟩ := updates
  induction entries generalizing base with
  | nil => rfl
  | cons entry rest ih =>
    obtain ⟨first, assigned⟩ := entry
    obtain ⟨unseen, distinctRest⟩ := nodup_cons.mp distinct
    have later := ih (base.set first assigned) distinctRest
    rw [foldl_cons, later]
    by_cases hit : key = first
    · have absent : (⟨rest⟩ : Map κ ν).get first = none := by
        rw [← Option.not_isSome_iff_eq_none, ← mem_keys_iff]
        exact unseen
      rw [hit, absent, get_set_self]
      simp [get]
    · have same : (⟨(first, assigned) :: rest⟩ : Map κ ν).get key = (⟨rest⟩ : Map κ ν).get key := by
        simp only [get, lookup_cons_eq, hit, if_false]
      rw [same, get_set_other base assigned hit]

section
variable {α : Type} (key : α → κ) (value : α → ν) {items : List α}

theorem get_assignSome (m : Map κ ν) (k other : κ) (v : Option ν) :
    (m.assignSome k v).get other = if other = k then v.or (m.get k) else m.get other := by
  cases v with
  | none => by_cases here : other = k <;> simp [assignSome, here]
  | some v => simp [assignSome, get_set]

theorem get_foldl_assignSome_other (value : α → Option ν) (base : Map κ ν) (absent : ∀ item ∈ items, key item ≠ k) :
    (items.foldl (fun m item => m.assignSome (key item) (value item)) base).get k = base.get k := by
  induction items generalizing base with
  | nil => rfl
  | cons item rest ih =>
    rw [foldl_cons, ih _ fun other member => absent other (mem_cons_of_mem _ member), get_assignSome,
      if_neg (Ne.symm (absent item mem_cons_self))]

theorem get_foldl_assignSome (value : α → Option ν) (base : Map κ ν) (distinct : (items.map key).Nodup)
    (member : item ∈ items) :
    (items.foldl (fun m item => m.assignSome (key item) (value item)) base).get (key item) =
      (value item).or (base.get (key item)) := by
  induction items generalizing base with
  | nil => cases member
  | cons first rest ih =>
    obtain ⟨fresh, distinct⟩ := nodup_cons.mp distinct
    rw [foldl_cons]
    rcases mem_cons.mp member with rfl | later
    · rw [get_foldl_assignSome_other key value _ fun other found same => fresh (mem_map.mpr ⟨other, found, same⟩),
        get_assignSome, if_pos rfl]
    · have different : key item ≠ key first := fun same => fresh (mem_map.mpr ⟨item, later, same⟩)
      rw [ih _ distinct later, get_assignSome, if_neg different]

theorem get_foldl_assign_other (base : Map κ ν) (absent : ∀ item ∈ items, key item ≠ k) :
    (items.foldl (fun m item => m.set (key item) (value item)) base).get k = base.get k :=
  get_foldl_assignSome_other key (some <| value ·) base absent

theorem get_foldl_assign (base : Map κ ν) (distinct : (items.map key).Nodup) (member : item ∈ items) :
    (items.foldl (fun m item => m.set (key item) (value item)) base).get (key item) = some (value item) :=
  get_foldl_assignSome key (some <| value ·) base distinct member

omit [DecidableEq κ] in
theorem assigned_or_absent (items : List α) (k : κ) : (∃ item ∈ items, key item = k) ∨ ∀ item ∈ items, key item ≠ k :=
  (Classical.em _).imp_right fun absent item member same => absent ⟨item, member, same⟩

theorem get_foldl_assign_iff (distinct : (items.map key).Nodup) :
    (items.foldl (fun m item => m.set (key item) item) empty).get k = some item ↔ item ∈ items ∧ key item = k := by
  constructor
  · intro found
    rcases assigned_or_absent key items k with ⟨other, member, rfl⟩ | absent
    · have same := Option.some.inj (found.symm.trans (get_foldl_assign key id empty distinct member))
      exact ⟨same ▸ member, same ▸ rfl⟩
    · cases found.symm.trans (get_foldl_assign_other key id empty absent)
  · rintro ⟨member, rfl⟩
    exact get_foldl_assign key id empty distinct member

theorem get_foldl_assign_perm (perm : items.Perm others) (distinct : (items.map key).Nodup) (base : Map κ ν) (k : κ) :
    (items.foldl (fun m item => m.set (key item) (value item)) base).get k =
      (others.foldl (fun m item => m.set (key item) (value item)) base).get k := by
  rcases assigned_or_absent key items k with ⟨item, member, rfl⟩ | absent
  · rw [get_foldl_assign key value base distinct member,
      get_foldl_assign key value base ((perm.map key).nodup_iff.mp distinct) (perm.mem_iff.mp member)]
  · rw [get_foldl_assign_other key value base absent,
      get_foldl_assign_other key value base fun item member => absent item (perm.mem_iff.mpr member)]

theorem get_foldl_copyEntry (base : Map κ ν) (k : κ) :
    (items.foldl (fun m item => m.copyEntry source (key item)) base).get k =
      if k ∈ items.map key then (source.get k).or (base.get k) else base.get k := by
  induction items generalizing base with
  | nil => rfl
  | cons item rest ih =>
    rw [foldl_cons, ih, map_cons, copyEntry]
    cases found : source.get (key item) with
    | none => by_cases here : k = key item <;> simp [here, found]
    | some value => by_cases here : k = key item <;> simp [here, found, get_set]

end

theorem get_foldl_update (f : Option ν → ν) {keys : List κ} (distinct : keys.Nodup) (base : Map κ ν) (k : κ) :
    (keys.foldl (fun m key => m.set key (f (m.get key))) base).get k =
      if k ∈ keys then some (f (base.get k)) else base.get k := by
  induction keys generalizing base with
  | nil => rfl
  | cons key rest ih =>
    obtain ⟨fresh, distinct⟩ := nodup_cons.mp distinct
    rw [foldl_cons, ih distinct, get_set]
    by_cases here : k = key <;> simp [here, fresh]

theorem contains_foldl_set (value : ν) (keys : List κ) (base : Map κ ν) (k : κ) :
    (keys.foldl (fun m key => m.set key value) base).contains k = true ↔ k ∈ keys ∨ base.contains k = true := by
  induction keys generalizing base with
  | nil => simp
  | cons key rest ih =>
    rw [foldl_cons, ih, contains_set, Bool.or_eq_true, decide_eq_true_eq, mem_cons, or_left_comm, or_assoc]

theorem distinct_foldl_set (keys : List κ) {base : Map κ ν} (distinct : base.Distinct) :
    (keys.foldl (fun m key => m.set key value) base).Distinct := by
  induction keys generalizing base with
  | nil => exact distinct
  | cons key rest ih => exact ih (distinct.set key value)

theorem Distinct.length_eq_one_iff {m : Map κ ν} (distinct : m.Distinct) {k : κ} (contains : m.contains k = true) :
    m.length = 1 ↔ ∀ key, m.contains key = true → key = k := by
  have keys : ∀ key, m.contains key = true ↔ key ∈ m.entries.map Prod.fst := fun key => (mem_keys_iff m key).symm
  rw [keys] at contains
  constructor
  · intro one key found
    rw [keys] at found
    obtain ⟨only, all⟩ := List.length_eq_one_iff.mp ((List.length_map Prod.fst).trans one)
    rw [all, mem_singleton] at contains found
    rw [found, contains]
  · intro only
    have most := distinct.length_le fun key found => mem_singleton.mpr (only key found)
    have some : 0 < m.length := by
      have nonempty := length_pos_of_mem contains
      rwa [List.length_map] at nonempty
    rw [length_singleton] at most
    omega

theorem get_remove (m : Map κ ν) (key other : κ) :
    (m.remove key).get other = if other = key then none else m.get other := by
  obtain ⟨entries⟩ := m
  simp only [get, remove]
  induction entries with
  | nil => simp
  | cons entry rest ih =>
    by_cases hit : entry.1 = key
    · rw [filter_cons_of_neg (by simp [hit]), ih, lookup_cons_eq]
      by_cases same : other = key <;> simp [same, hit]
    · rw [filter_cons_of_pos (by simp [hit]), lookup_cons_eq, lookup_cons_eq, ih]
      by_cases found : other = entry.1 <;> simp [found, hit]

/-- The entries are right answers of `f`, found under a key of the question. -/
def Answers {α : Type} (m : Map κ ν) (key : α → κ) (f : α → ν) : Prop :=
  ∀ question answer, m.get (key question) = some answer → answer = f question

theorem Answers.set {m : Map κ ν} {key : α → κ} (answers : m.Answers key f) (injective : Function.Injective key)
    (question : α) : (m.set (key question) (f question)).Answers key f := by
  intro other answer found
  rw [get_set] at found
  split at found
  · rename_i same
    rw [← Option.some.inj found, injective same]
  · exact answers other answer found

end Map

end ConvergeAudit.Moon
