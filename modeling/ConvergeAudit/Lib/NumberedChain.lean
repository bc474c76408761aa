import Mathlib.Data.List.Basic
import Mathlib.Data.List.Nodup
import Mathlib.Data.Int.Order.Basic

/-!
Items that are numbered one after the other, each of which names the root of the item before it. A chain leads from a
position, a number with its root, to a position.
-/

namespace ConvergeAudit.Lib.NumberedChain

open List

variable {α ρ : Type} (number : α → Int) (root parent : α → ρ)

inductive Chain : Int × ρ → List α → Int × ρ → Prop
  | nil (position : Int × ρ) : Chain position [] position
  | cons {start last : Int × ρ} {item : α} {rest : List α} (next : number item = start.1 + 1)
      (linked : parent item = start.2) (tail : Chain (number item, root item) rest last) : Chain start (item :: rest) last

variable {number root parent} {start middle last : Int × ρ} {items early late : List α}

theorem Chain.append (front : Chain number root parent start early middle) (back : Chain number root parent middle late last) :
    Chain number root parent start (early ++ late) last := by
  induction front with
  | nil => exact back
  | cons next linked _ ih => exact .cons next linked (ih back)

theorem Chain.snoc (front : Chain number root parent start items last) (next : number item = last.1 + 1)
    (linked : parent item = last.2) : Chain number root parent start (items ++ [item]) (number item, root item) :=
  front.append (.cons next linked (.nil _))

section
variable (chain : Chain number root parent start items last)
include chain

theorem Chain.bounds : start.1 ≤ last.1 ∧ ∀ item ∈ items, start.1 < number item ∧ number item ≤ last.1 := by
  induction chain with
  | nil => simp
  | @cons start last item rest next _ _ ih =>
    obtain ⟨behind, each⟩ := ih
    refine ⟨by omega, fun other member => ?_⟩
    rcases mem_cons.mp member with rfl | later
    · exact ⟨by omega, behind⟩
    · have bounds := each other later
      exact ⟨by omega, bounds.2⟩

theorem Chain.pairwise : items.Pairwise fun first second => number first < number second := by
  induction chain with
  | nil => exact .nil
  | cons _ _ tail ih => exact pairwise_cons.mpr ⟨fun other member => (tail.bounds.2 other member).1, ih⟩

theorem Chain.eq_of_number (here : first ∈ items) (there : second ∈ items) (same : number first = number second) :
    first = second := by
  have distinct := pairwise_map.mpr (chain.pairwise.imp fun below => Int.ne_of_lt below)
  exact inj_on_of_nodup_map distinct here there same

theorem Chain.reaches (behind : start.1 < n) (within : n ≤ last.1) : ∃ item ∈ items, number item = n := by
  induction chain with
  | nil => omega
  | @cons start last item rest next _ _ ih =>
    by_cases here : number item = n
    · exact ⟨item, mem_cons_self, here⟩
    · obtain ⟨found, member, same⟩ := ih (by dsimp only; omega) within
      exact ⟨found, mem_cons_of_mem _ member, same⟩

theorem Chain.last_eq : (items = [] ∧ last = start) ∨ ∃ item ∈ items, last = (number item, root item) := by
  induction chain with
  | nil => exact Or.inl ⟨rfl, rfl⟩
  | @cons start last item rest _ _ _ ih =>
    rcases ih with ⟨_, same⟩ | ⟨found, member, same⟩
    · exact Or.inr ⟨item, mem_cons_self, same⟩
    · exact Or.inr ⟨found, mem_cons_of_mem _ member, same⟩

theorem Chain.last_number : last.1 = start.1 + items.length := by
  induction chain with
  | nil => simp
  | @cons start last item rest next _ _ ih =>
    rw [ih, length_cons]
    omega

theorem Chain.foldl_max : (items.map number).foldl max start.1 = last.1 := by
  induction chain with
  | nil => rfl
  | @cons start last item rest next _ _ ih => rw [map_cons, foldl_cons, next, max_eq_right (by omega), ← next, ih]

end

/-- The items behind a position of the chain. -/
theorem Chain.filter_late (front : Chain number root parent start early middle)
    (back : Chain number root parent middle late last) :
    (early ++ late).filter (fun item => decide (middle.1 < number item)) = late := by
  rw [filter_append]
  have none : early.filter (fun item => decide (middle.1 < number item)) = [] := by
    refine filter_eq_nil_iff.mpr fun item member => ?_
    have bound := (front.bounds.2 item member).2
    simpa using bound
  have all : late.filter (fun item => decide (middle.1 < number item)) = late := by
    refine filter_eq_self.mpr fun item member => ?_
    have bound := (back.bounds.2 item member).1
    simpa using bound
  rw [none, all, nil_append]

end ConvergeAudit.Lib.NumberedChain
