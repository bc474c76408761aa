import Mathlib.Data.List.Sort

/-!
`Array::sort_by` takes a three-way comparison. Where the comparison is a total order on the elements, the sorted array is
determined by them. The columns of a serialized operation are sorted by name alone; for repeated names the order is the
one of this insertion sort.
-/

namespace ConvergeAudit.Moon

variable {α : Type}

def sortBy (compare : α → α → Ordering) (items : List α) : List α :=
  items.insertionSort fun x y => compare x y ≠ .gt

theorem sortBy_perm (compare : α → α → Ordering) (items : List α) : (sortBy compare items).Perm items :=
  List.perm_insertionSort _ _

@[simp] theorem mem_sortBy {compare : α → α → Ordering} : x ∈ sortBy compare items ↔ x ∈ items :=
  (sortBy_perm compare items).mem_iff

theorem sortBy_eq_of_perm [LinearOrder α] {items others : List α} (perm : items.Perm others) :
    sortBy compare items = sortBy compare others := by
  have below : (fun x y : α => compare x y ≠ .gt) = fun x y => x ≤ y := by
    funext x y
    exact propext compare_le_iff_le
  have sorted : ∀ l : List α, (sortBy compare l).Pairwise (· ≤ ·) := by
    intro l
    have := List.pairwise_insertionSort (fun x y : α => x ≤ y) l
    simpa only [sortBy, below] using this
  exact List.Perm.eq_of_pairwise (fun _ _ _ _ => le_antisymm) (sorted items) (sorted others)
    ((sortBy_perm _ _).trans (perm.trans (sortBy_perm _ _).symm))

theorem pairwise_sortBy_desc [LinearOrder α] (items : List α) :
    (sortBy (fun left right => compare right left) items).Pairwise (· ≥ ·) := by
  have above : (fun x y : α => compare y x ≠ .gt) = fun x y => x ≥ y := by
    funext x y
    exact propext compare_le_iff_le
  have := List.pairwise_insertionSort (fun x y : α => x ≥ y) items
  simpa only [sortBy, above] using this

theorem pairwise_sortBy (compare : α → α → Ordering) [Std.TransCmp compare] (items : List α) :
    (sortBy compare items).Pairwise fun x y => compare x y ≠ .gt := by
  have total : Std.Total fun x y : α => compare x y ≠ .gt := ⟨by
    intro x y
    rw [@Std.OrientedCmp.eq_swap α compare _ y x]
    cases compare x y <;> simp⟩
  have transitive : IsTrans α fun x y : α => compare x y ≠ .gt := ⟨by
    intro x y z below above
    simp only [ne_eq, ← Ordering.isLE_iff_ne_gt] at below above ⊢
    exact Std.TransCmp.isLE_trans below above⟩
  exact List.pairwise_insertionSort _ items

theorem mem_take_sortBy {compare : α → α → Ordering} [Std.TransCmp compare] (chosen : later ∈ (sortBy compare items).take n)
    (member : item ∈ items) (before : compare item later = .lt) : item ∈ (sortBy compare items).take n := by
  have sorted := pairwise_sortBy compare items
  have present : item ∈ sortBy compare items := mem_sortBy.mpr member
  rw [← List.take_append_drop n (sortBy compare items)] at sorted present
  refine (List.mem_append.mp present).resolve_right fun left => ?_
  exact (List.pairwise_append.mp sorted).2.2 later chosen item left (Std.OrientedCmp.gt_of_lt before)

/-- A comparison that tells the elements of an array apart sorts every arrangement of them to one array. -/
theorem sortBy_eq_of_perm_of_separates {compare : α → α → Ordering} [Std.TransCmp compare] (perm : items.Perm others)
    (separates : ∀ x ∈ items, ∀ y ∈ items, compare x y = .eq → x = y) :
    sortBy compare items = sortBy compare others := by
  refine List.Perm.eq_of_pairwise ?_ (pairwise_sortBy compare items) (pairwise_sortBy compare others)
    ((sortBy_perm _ _).trans (perm.trans (sortBy_perm _ _).symm))
  intro x y memberX memberY below above
  have memberY := perm.mem_iff.mpr (mem_sortBy.mp memberY)
  refine separates x (mem_sortBy.mp memberX) y memberY ?_
  rw [@Std.OrientedCmp.eq_swap α compare _ y x] at above
  cases order : compare x y with
  | lt => simp [order] at above
  | eq => rfl
  | gt => exact absurd order below

/-- The single elements that the code does not sort are sorted. -/
theorem ite_sortBy (compare : α → α → Ordering) (items : List α) :
    (if items.length > 1 then sortBy compare items else items) = sortBy compare items := by
  match items with
  | [] => rfl
  | [_] => rfl
  | _ :: _ :: _ => exact if_pos (by simp)

theorem sortBy_eq_iff {compare : α → α → Ordering} [Std.TransCmp compare]
    (separates : ∀ x y, compare x y = .eq → x = y) :
    sortBy compare items = sortBy compare others ↔ items.Perm others := by
  constructor
  · intro same
    exact (sortBy_perm compare items).symm.trans (same ▸ sortBy_perm compare others)
  · exact fun perm => sortBy_eq_of_perm_of_separates perm fun x _ y _ => separates x y

instance transCmp_desc {β : Type} [LinearOrder β] (key : α → β) :
    Std.TransCmp fun x y : α => compare (key y) (key x) :=
  @Std.TransCmp.opposite α (compareOn key) inferInstance

theorem ite_compare_eq_then [LinearOrder β] (x y : β) (later : Ordering) :
    (if x ≠ y then compare x y else later) = (compare x y).then later := by
  by_cases same : x = y
  · simp [same]
  · have decided : compare x y ≠ .eq := fun equal => same (compare_eq_iff_eq.mp equal)
    rw [if_pos same]
    cases order : compare x y with
    | lt => rfl
    | eq => exact absurd order decided
    | gt => rfl

theorem sortBy_desc_eq_of_perm {β : Type} [LinearOrder β] (key : α → β) (perm : items.Perm others)
    (distinct : (items.map key).Nodup) :
    sortBy (fun x y => compare (key y) (key x)) items = sortBy (fun x y => compare (key y) (key x)) others := by
  refine sortBy_eq_of_perm_of_separates perm ?_
  intro x memberX y memberY same
  exact List.inj_on_of_nodup_map distinct memberX memberY (compare_eq_iff_eq.mp same).symm

theorem sortBy_desc_map [LinearOrder β] {key : α → β} {key' : γ → β} {f : α → γ} {items : List α}
    (keeps : ∀ item, key' (f item) = key item) (sorted : items.Pairwise fun x y => compare (key y) (key x) ≠ .gt) :
    sortBy (fun x y => compare (key' y) (key' x)) (items.map f) = items.map f := by
  refine List.Pairwise.insertionSort_eq (List.pairwise_map.mpr ?_)
  simpa only [keeps] using sorted

theorem sortBy_desc_map_key [LinearOrder β] {key : α → β} {items : List α}
    (sorted : items.Pairwise fun x y => compare (key y) (key x) ≠ .gt) :
    sortBy (fun x y => compare y x) (items.map key) = items.map key :=
  @sortBy_desc_map α β β _ key id key items (fun _ => rfl) sorted

end ConvergeAudit.Moon
