import Mathlib.Data.Finset.Lattice.Fold
import Mathlib.Order.Irreducible

/-!
Each update joins a value into one cell. After any updates a cell is the join of the values addressed to it, so the
table depends on the set of updates alone.
-/

namespace ConvergeAudit.Lib

open List

variable {L : Type*} [SemilatticeSup L] [OrderBot L]

namespace JoinTable

def absorb (cells : List L) (update : ℕ × L) : List L :=
  cells.modify update.1 (· ⊔ update.2)

def absorbAll (cells : List L) (updates : List (ℕ × L)) : List L :=
  updates.foldl absorb cells

/-- The cell at `position` before anything was joined into it is `⊥`. -/
def blank (positions : ℕ) : List L := List.replicate positions ⊥

/-- What a list of updates amounts to at one position. -/
def joined [DecidableEq L] (updates : List (ℕ × L)) (position : ℕ) : L :=
  updates.toFinset.sup fun update => if update.1 = position then update.2 else ⊥

omit [OrderBot L] in
@[simp] theorem length_absorb (cells : List L) (update : ℕ × L) : (absorb cells update).length = cells.length := by
  simp [absorb]

omit [OrderBot L] in
@[simp] theorem length_absorbAll (cells : List L) (updates : List (ℕ × L)) :
    (absorbAll cells updates).length = cells.length := by
  induction updates generalizing cells with
  | nil => rfl
  | cons update rest ih =>
    exact (ih _).trans (length_absorb cells update)

theorem set_sup_eq_absorb (cells : List L) (position : ℕ) (value : L) :
    cells.set position (cells.getD position ⊥ ⊔ value) = absorb cells (position, value) := by
  apply ext_getElem?
  intro other
  rw [absorb, getElem?_modify, getElem?_set]
  by_cases here : position = other
  · subst here
    by_cases inside : position < cells.length
    · simp [inside]
    · simp [inside]
  · simp [here]

theorem absorb_of_le {cells : List L} (contained : value ≤ cells.getD position ⊥) :
    absorb cells (position, value) = cells := by
  rw [← set_sup_eq_absorb, sup_eq_left.mpr contained]
  apply ext_getElem?
  intro other
  by_cases here : position = other
  · subst here
    by_cases inside : position < cells.length <;> simp [inside]
  · simp [here]

variable [DecidableEq L]

theorem joined_concat (updates : List (ℕ × L)) (update : ℕ × L) (position : ℕ) :
    joined (updates ++ [update]) position =
      joined updates position ⊔ if update.1 = position then update.2 else ⊥ := by
  unfold joined
  rw [toFinset_append, Finset.sup_union]
  simp

theorem le_joined_iff (prime : SupPrime value) (updates : List (ℕ × L)) (position : ℕ) :
    value ≤ joined updates position ↔ ∃ brought, (position, brought) ∈ updates ∧ value ≤ brought := by
  unfold joined
  rw [prime.le_finset_sup]
  constructor
  · rintro ⟨⟨target, brought⟩, member, below⟩
    by_cases here : target = position
    · subst here
      exact ⟨brought, mem_toFinset.mp member, by simpa using below⟩
    · rw [if_neg here] at below
      exact absurd (isMin_bot.mono below) prime.not_isMin
  · rintro ⟨brought, member, below⟩
    exact ⟨(position, brought), mem_toFinset.mpr member, by simpa using below⟩

/-- The run lemma: every cell of a table filled from blank is the join of its updates. -/
theorem getElem?_absorbAll_blank (positions : ℕ) (updates : List (ℕ × L)) (position : ℕ)
    (inside : position < positions) :
    (absorbAll (blank positions) updates)[position]? = some (joined updates position) := by
  induction updates using List.reverseRecOn with
  | nil => simp [absorbAll, blank, joined, inside]
  | append_singleton updates update ih =>
    have step : absorbAll (blank positions) (updates ++ [update]) =
        absorb (absorbAll (blank positions) updates) update := by
      simp [absorbAll]
    rw [step, joined_concat, absorb, getElem?_modify, ih]
    by_cases here : update.1 = position
    · simp [here]
    · simp [here]

end JoinTable

end ConvergeAudit.Lib
