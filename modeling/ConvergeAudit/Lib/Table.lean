import ConvergeAudit.Lib.Concat

/-!
A table is the list of its rows; a row is written under its key, in the place of the row that had the key before.
-/

namespace ConvergeAudit.Lib.Table

open List

variable {α κ : Type} [DecidableEq κ]

theorem find_some [DecidablePred P] {rows : List α} (found : rows.find? (fun row => decide (P row)) = some row) :
    row ∈ rows ∧ P row :=
  ⟨mem_of_find?_eq_some found, of_decide_eq_true (@find?_some _ (fun row => decide (P row)) _ _ found)⟩

theorem find_none [DecidablePred P] {rows : List α} (missed : rows.find? (fun row => decide (P row)) = none) :
    ∀ row ∈ rows, ¬P row := by
  intro row member holds
  exact find?_eq_none.mp missed row member (decide_eq_true holds)

theorem find_of_nodup {key : α → κ} {rows : List α} (distinct : (rows.map key).Nodup) (member : row ∈ rows) :
    rows.find? (fun other => key other = key row) = some row := by
  cases search : rows.find? (fun other => key other = key row) with
  | none => exact absurd rfl (find_none search row member)
  | some other =>
    obtain ⟨stored, same⟩ := find_some search
    rw [inj_on_of_nodup_map distinct stored member same]

/-- `INSERT … ON CONFLICT(key) DO UPDATE`. -/
def upsert (key : α → κ) (rows : List α) (row : α) : List α :=
  if rows.any fun old => key old = key row then rows.map fun old => if key old = key row then row else old
  else rows ++ [row]

theorem mem_upsert {key : α → κ} : x ∈ upsert key rows row ↔ x = row ∨ x ∈ rows ∧ key x ≠ key row := by
  unfold upsert
  split
  · rename_i present
    obtain ⟨old, member, same⟩ := any_eq_true.mp present
    rw [mem_map]
    constructor
    · rintro ⟨source, found, rfl⟩
      split
      · exact Or.inl rfl
      · exact Or.inr ⟨found, by assumption⟩
    · rintro (rfl | ⟨found, other⟩)
      · exact ⟨old, member, if_pos (of_decide_eq_true same)⟩
      · exact ⟨x, found, if_neg other⟩
  · rename_i absent
    rw [mem_append, mem_singleton, or_comm]
    refine or_congr_right ⟨fun found => ⟨found, fun same => ?_⟩, And.left⟩
    exact absent (any_eq_true.mpr ⟨x, found, decide_eq_true same⟩)

theorem mem_foldl_upsert {key : α → κ} {rows news : List α} (distinct : (news.map key).Nodup) :
    x ∈ news.foldl (upsert key) rows ↔ x ∈ news ∨ x ∈ rows ∧ key x ∉ news.map key := by
  induction news generalizing rows with
  | nil => simp
  | cons row rest ih =>
    obtain ⟨fresh, distinct⟩ := nodup_cons.mp distinct
    rw [foldl_cons, ih distinct, mem_upsert, mem_cons, map_cons, mem_cons]
    constructor
    · rintro (later | ⟨rfl | ⟨found, other⟩, unwritten⟩)
      · exact Or.inl (Or.inr later)
      · exact Or.inl (Or.inl rfl)
      · exact Or.inr ⟨found, fun written => written.elim other unwritten⟩
    · rintro ((rfl | later) | ⟨found, unwritten⟩)
      · exact Or.inr ⟨Or.inl rfl, fresh⟩
      · exact Or.inl later
      · exact Or.inr ⟨Or.inr ⟨found, fun same => unwritten (Or.inl same)⟩, fun written => unwritten (Or.inr written)⟩

/-- `INSERT OR IGNORE`. -/
def insertOrIgnore (key : α → κ) (rows : List α) (row : α) : List α :=
  if rows.any fun old => key old = key row then rows else rows ++ [row]

theorem mem_insertOrIgnore {key : α → κ} :
    x ∈ insertOrIgnore key rows row ↔ x ∈ rows ∨ x = row ∧ ∀ old ∈ rows, key old ≠ key row := by
  unfold insertOrIgnore
  split
  · rename_i present
    obtain ⟨old, member, same⟩ := any_eq_true.mp present
    exact (or_iff_left fun absent => absent.2 old member (of_decide_eq_true same)).symm
  · rename_i absent
    have fresh : ∀ old ∈ rows, key old ≠ key row := fun old member same =>
      absent (any_eq_true.mpr ⟨old, member, decide_eq_true same⟩)
    rw [mem_append, mem_singleton, and_iff_left fresh]

theorem mem_map_insertOrIgnore {key : α → κ} :
    x ∈ (insertOrIgnore key rows row).map key ↔ x ∈ rows.map key ∨ x = key row := by
  unfold insertOrIgnore
  split
  · rename_i present
    obtain ⟨old, member, same⟩ := any_eq_true.mp present
    refine (or_iff_left_of_imp ?_).symm
    rintro rfl
    exact of_decide_eq_true same ▸ mem_map_of_mem member
  · rw [map_append, mem_append, map_singleton, mem_singleton]

theorem exists_insertOrIgnore (key : α → κ) (rows : List α) (row : α) :
    ∃ x ∈ insertOrIgnore key rows row, key x = key row :=
  mem_map.mp (mem_map_insertOrIgnore.mpr (.inr rfl))

theorem insertOrIgnore_nodup {key : α → κ} (distinct : (rows.map key).Nodup) (row : α) :
    ((insertOrIgnore key rows row).map key).Nodup := by
  unfold insertOrIgnore
  split
  · exact distinct
  · rename_i absent
    refine nodup_map_concat distinct fun old found same => ?_
    exact absent (any_eq_true.mpr ⟨old, found, decide_eq_true same⟩)

/-- `UPDATE … SET … WHERE …`, with the number of rows that were changed. -/
def updateWhere (selected : α → Bool) (change : α → α) (rows : List α) : List α × Nat :=
  (rows.map fun row => if selected row then change row else row, rows.countP selected)

theorem mem_updateWhere :
    x ∈ (updateWhere selected change rows).1 ↔
      (x ∈ rows ∧ selected x = false) ∨ ∃ row ∈ rows, selected row = true ∧ change row = x := by
  simp only [updateWhere, mem_map]
  constructor
  · rintro ⟨row, member, rfl⟩
    cases here : selected row with
    | false => exact Or.inl ⟨by simpa using member, by simpa using here⟩
    | true => exact Or.inr ⟨row, member, here, by simp⟩
  · rintro (⟨member, here⟩ | ⟨row, member, here, rfl⟩)
    · exact ⟨x, member, by simp [here]⟩
    · exact ⟨row, member, by simp [here]⟩

omit [DecidableEq κ] in
theorem exists_of_map_eq {rows others : List α} (same : others.map key = rows.map key) (member : row ∈ rows) :
    ∃ kept ∈ others, key kept = key row :=
  mem_map.mp (same ▸ mem_map_of_mem member)

theorem updateWhere_map (keeps : ∀ row ∈ rows, selected row = true → key (change row) = key row) :
    (updateWhere selected change rows).1.map key = rows.map key := by
  rw [updateWhere, map_map]
  refine map_congr_left fun row member => ?_
  rw [Function.comp_apply]
  split
  · exact keeps row member (by assumption)
  · rfl

end ConvergeAudit.Lib.Table
