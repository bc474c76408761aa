import Mathlib.Data.List.Nodup

/-!
# A list and one more item
-/

namespace ConvergeAudit.Lib

open List

theorem forall_mem_concat {P : α → Prop} (old : ∀ x ∈ items, P x) (new : P item) : ∀ x ∈ items ++ [item], P x :=
  forall_mem_append.mpr ⟨old, forall_mem_singleton.mpr new⟩

theorem exists_mem_concat {P : α → Prop} : (∃ x ∈ items ++ [item], P x) ↔ (∃ x ∈ items, P x) ∨ P item := by
  simp only [mem_append, mem_singleton, or_and_right, exists_or, exists_eq_left]

theorem getElem?_concat_iff : (items ++ [item])[i]? = some x ↔ items[i]? = some x ∨ i = items.length ∧ item = x := by
  rcases Nat.lt_trichotomy i items.length with inside | rfl | beyond
  · rw [getElem?_append_left inside, or_iff_left fun here => Nat.ne_of_lt inside here.1]
  · simp
  · have none := getElem?_eq_none (Nat.le_of_lt beyond)
    rw [getElem?_append_right (Nat.le_of_lt beyond), none, getElem?_eq_none (by simp; omega)]
    simp [Nat.ne_of_gt beyond]

theorem nodup_concat (distinct : items.Nodup) (fresh : item ∉ items) : (items ++ [item]).Nodup :=
  concat_eq_append ▸ distinct.concat fresh

theorem nodup_map_concat (distinct : (items.map key).Nodup) (fresh : ∀ known ∈ items, key known ≠ key item) :
    ((items ++ [item]).map key).Nodup := by
  rw [map_append, map_singleton]
  refine nodup_concat distinct fun member => ?_
  obtain ⟨known, present, same⟩ := mem_map.mp member
  exact fresh known present same

end ConvergeAudit.Lib
