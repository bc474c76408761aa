import Mathlib.Data.List.Basic

/-!
A history is a list in order of time. `Throughout P` says that `P` holds of every entry and the
entries before it.
-/

namespace ConvergeAudit.Lib

open List

variable {α : Type}

def Throughout (P : List α → α → Prop) (history : List α) : Prop :=
  ∀ before x after, history = before ++ x :: after → P before x

theorem throughout_nil (P : List α → α → Prop) : Throughout P [] := by
  intro before x after split
  simp at split

theorem Throughout.snoc (past : Throughout P history) (now : P history x) : Throughout P (history ++ [x]) := by
  intro before y after split
  rcases eq_nil_or_concat after with rfl | ⟨inner, last, rfl⟩
  · obtain ⟨same, entry⟩ := append_inj' split rfl
    obtain rfl : x = y := by simpa using entry
    rw [← same]
    exact now
  · rw [concat_eq_append, ← cons_append, ← append_assoc] at split
    exact past before y inner (append_inj' split rfl).1

theorem Throughout.mono (past : Throughout P history) (imp : ∀ before x, P before x → Q before x) :
    Throughout Q history :=
  fun before x after split => imp before x (past before x after split)

theorem Throughout.of_mem (past : Throughout P history) (member : x ∈ history) :
    ∃ before after, history = before ++ x :: after ∧ P before x := by
  obtain ⟨before, after, split⟩ := append_of_mem member
  exact ⟨before, after, split, past before x after split⟩

/-- A property that passes from the past to the next entry holds of every entry. -/
theorem Throughout.all {Q : α → Prop} (past : Throughout P history)
    (step : ∀ before x, before ⊆ history → P before x → (∀ y ∈ before, Q y) → Q x) : ∀ x ∈ history, Q x := by
  have shorter : ∀ n before x after, before.length = n → history = before ++ x :: after → Q x := by
    intro n
    induction n using Nat.strongRecOn with
    | ind n ih =>
      intro before x after length split
      refine step before x (split ▸ subset_append_left _ _) (past before x after split) ?_
      intro y member
      obtain ⟨front, back, rfl⟩ := append_of_mem member
      refine ih front.length ?_ front y (back ++ x :: after) rfl (by simp [split])
      rw [← length, length_append, length_cons]
      omega
  intro x member
  obtain ⟨before, after, split⟩ := append_of_mem member
  exact shorter before.length before x after rfl split

theorem eq_of_nodup_filterMap {history : List α} (distinct : (history.filterMap mark).Nodup) (here : x ∈ history)
    (there : y ∈ history) (left : mark x = some b) (right : mark y = some b) : x = y := by
  induction history with
  | nil => cases here
  | cons z rest ih =>
    have tail : ∀ {w}, w ∈ rest → mark w = some b → b ∈ rest.filterMap mark :=
      fun member marked => mem_filterMap.mpr ⟨_, member, marked⟩
    rcases mem_cons.mp here with rfl | inRest <;> rcases mem_cons.mp there with rfl | alsoInRest
    · rfl
    · rw [filterMap_cons_some left, nodup_cons] at distinct
      exact absurd (tail alsoInRest right) distinct.1
    · rw [filterMap_cons_some right, nodup_cons] at distinct
      exact absurd (tail inRest left) distinct.1
    · refine ih ?_ inRest alsoInRest
      cases marked : mark z with
      | none => rwa [filterMap_cons_none marked] at distinct
      | some c =>
        rw [filterMap_cons_some marked] at distinct
        exact (nodup_cons.mp distinct).2

end ConvergeAudit.Lib
