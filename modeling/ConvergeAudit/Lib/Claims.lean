import Mathlib.Data.List.Basic

/-!
Every item of a list claims one slot and carries a mark. A slot is contested if two of its claims differ in their
marks; whether it is depends on the set of items alone.
-/

namespace ConvergeAudit.Lib.Claims

open List

variable {α κ δ β : Type*} [DecidableEq κ] {slot : α → κ}

def first (slot : α → κ) (items : List α) (k : κ) : Option α := items.find? fun item => slot item = k

def Contested (slot : α → κ) (mark : α → δ) (items : List α) (k : κ) : Prop :=
  ∃ a ∈ items, ∃ b ∈ items, slot a = k ∧ slot b = k ∧ mark a ≠ mark b

omit [DecidableEq κ] in
theorem not_contested_nil (k : κ) : ¬ Contested slot mark [] k := by
  rintro ⟨a, member, _⟩
  cases member

theorem first_concat (items : List α) (item : α) (k : κ) :
    first slot (items ++ [item]) k = (first slot items k).or (if slot item = k then some item else none) := by
  unfold first
  by_cases here : slot item = k <;> simp [here]

theorem first_eq_some (found : first slot items k = some a) : a ∈ items ∧ slot a = k :=
  ⟨mem_of_find?_eq_some found, by simpa using find?_some found⟩

theorem first_eq_none_iff : first slot items k = none ↔ ∀ a ∈ items, slot a ≠ k := by
  simp [first, find?_eq_none]

theorem exists_first (slot : α → κ) (member : a ∈ items) : ∃ b, first slot items (slot a) = some b := by
  cases found : first slot items (slot a) with
  | some b => exact ⟨b, rfl⟩
  | none => exact absurd rfl (first_eq_none_iff.mp found a member)

theorem first_filter (bySlot : ∀ a ∈ items, ∀ b ∈ items, slot a = slot b → keep a = keep b) (k : κ) :
    first slot (items.filter keep) k = (first slot items k).filter keep := by
  induction items with
  | nil => rfl
  | cons item rest ih =>
    have later := ih fun a memberA b memberB => bySlot a (mem_cons_of_mem _ memberA) b (mem_cons_of_mem _ memberB)
    unfold first at later ⊢
    by_cases here : slot item = k
    · rw [find?_cons_of_pos (by simpa using here)]
      cases kept : keep item with
      | true => rw [filter_cons_of_pos kept, find?_cons_of_pos (by simpa using here), Option.filter_some_pos kept]
      | false =>
        rw [filter_cons_of_neg (by simp [kept]), later, Option.filter_some_neg (by simp [kept])]
        cases found : rest.find? fun other => slot other = k with
        | none => rfl
        | some other =>
          have claims : slot other = k := by simpa using find?_some found
          have dropped := bySlot other (mem_cons_of_mem _ (mem_of_find?_eq_some found)) item mem_cons_self
            (claims.trans here.symm)
          rw [Option.filter_some_neg (by simp [dropped, kept])]
    · rw [find?_cons_of_neg (by simpa using here), ← later]
      cases kept : keep item with
      | true => rw [filter_cons_of_pos kept, find?_cons_of_neg (by simpa using here)]
      | false => rw [filter_cons_of_neg (by simp [kept])]

theorem contested_iff_first :
    Contested slot mark items k ↔ ∃ a, first slot items k = some a ∧ ∃ b ∈ items, slot b = k ∧ mark a ≠ mark b := by
  constructor
  · rintro ⟨a, memberA, b, memberB, slotA, slotB, different⟩
    obtain ⟨c, found⟩ := exists_first slot memberA
    rw [slotA] at found
    refine ⟨c, found, ?_⟩
    by_cases agree : mark c = mark a
    · exact ⟨b, memberB, slotB, fun same => different (agree.symm.trans same)⟩
    · exact ⟨a, memberA, slotA, agree⟩
  · rintro ⟨a, found, b, memberB, slotB, different⟩
    obtain ⟨memberA, slotA⟩ := first_eq_some found
    exact ⟨a, memberA, b, memberB, slotA, slotB, different⟩

theorem contested_concat :
    Contested slot mark (items ++ [item]) k ↔
      Contested slot mark items k ∨ slot item = k ∧ ∃ a, first slot items k = some a ∧ mark a ≠ mark item := by
  constructor
  · intro contested
    obtain ⟨a, found, b, memberB, slotB, different⟩ := contested_iff_first.mp contested
    rw [first_concat] at found
    cases before : first slot items k with
    | none =>
      -- the new item is the only claim of the slot
      rw [before, Option.none_or] at found
      split at found
      · have only : b = item := by
          rcases mem_append.mp memberB with old | new
          · exact absurd slotB (first_eq_none_iff.mp before b old)
          · exact mem_singleton.mp new
        rw [only, Option.some.inj found] at different
        exact absurd rfl different
      · cases found
    | some c =>
      rw [before, Option.some_or, Option.some_inj] at found
      subst found
      rcases mem_append.mp memberB with old | new
      · exact .inl (contested_iff_first.mpr ⟨c, before, b, old, slotB, different⟩)
      · rw [mem_singleton.mp new] at slotB different
        exact .inr ⟨slotB, c, rfl, different⟩
  · rintro (⟨a, memberA, b, memberB, rest⟩ | ⟨here, a, found, different⟩)
    · exact ⟨a, mem_append_left _ memberA, b, mem_append_left _ memberB, rest⟩
    · obtain ⟨member, slotA⟩ := first_eq_some found
      exact ⟨a, mem_append_left _ member, item, mem_append_right _ mem_cons_self, slotA, here, different⟩

omit [DecidableEq κ] in
theorem contested_congr (slot : α → κ) (mark : α → δ) (same : ∀ a, a ∈ items ↔ a ∈ others) (k : κ) :
    Contested slot mark items k ↔ Contested slot mark others k := by
  simp only [Contested, same]

/-- What the marks determine is read off the first claim of an uncontested slot, whichever claim comes first. -/
theorem map_first_eq (same : ∀ a, a ∈ items ↔ a ∈ others) (uncontested : ¬ Contested slot mark items k)
    (determined : ∀ a ∈ items, ∀ b ∈ items, slot a = k → slot b = k → mark a = mark b → f a = f b) :
    (first slot items k).map f = (first slot others k).map f := by
  cases found : first slot items k with
  | none =>
    have absent : first slot others k = none := by
      rw [first_eq_none_iff] at found ⊢
      exact fun a member => found a ((same a).mpr member)
    rw [absent]
  | some a =>
    obtain ⟨memberA, slotA⟩ := first_eq_some found
    obtain ⟨b, foundB⟩ := exists_first slot ((same a).mp memberA)
    rw [slotA] at foundB
    obtain ⟨memberB, slotB⟩ := first_eq_some foundB
    have memberB := (same b).mpr memberB
    have agree : mark a = mark b := by
      by_contra different
      exact uncontested ⟨a, memberA, b, memberB, slotA, slotB, different⟩
    rw [foundB, Option.map_some, Option.map_some, determined a memberA b memberB slotA slotB agree]

end ConvergeAudit.Lib.Claims
