import Mathlib.Data.List.Basic
import Mathlib.Data.Nat.Log
import Mathlib.Logic.Function.Iterate

/-!
Binary trees kept as levels; an odd last node is paired with itself. A path is checked against the number of nodes, so
the root fixes every sibling.
-/

namespace ConvergeAudit.Lib.Levels

open List

inductive Step (δ : Type) where
  | siblingLeft (sibling : δ)
  | siblingRight (sibling : δ)
deriving DecidableEq

variable {δ : Type}

def parents (node : δ → δ → δ) : List δ → List δ
  | [] => []
  | [last] => [node last last]
  | left :: right :: rest => node left right :: parents node rest

theorem length_parents (node : δ → δ → δ) (level : List δ) :
    (parents node level).length = (level.length + 1) / 2 := by
  fun_induction parents node level with
  | case1 => simp
  | case2 => simp
  | case3 left right rest ih =>
    simp only [length_cons, ih]
    omega

/-- The levels above `current`, pushed after those already in `levels`, with the topmost level. -/
def raise (node : δ → δ → δ) (current : List δ) (levels : List (List δ)) : List δ × List (List δ) :=
  if 1 < current.length then
    raise node (parents node current) (levels ++ [parents node current])
  else (current, levels)
termination_by current.length
decreasing_by
  rw [length_parents]
  omega

/-- The sibling of position `index`; an even last position is its own sibling. -/
def sibling (level : List δ) (index : Nat) (absent : δ) : Step δ :=
  if index % 2 = 0 then
    .siblingRight (if index + 1 < level.length then level.getD (index + 1) absent else level.getD index absent)
  else .siblingLeft (level.getD (index - 1) absent)

def siblings (absent : δ) : List (List δ) → Nat → List (Step δ)
  | [], _ => []
  | level :: above, index => sibling level index absent :: siblings absent above (index / 2)

/-- Recompute the node above a position; `none` when the path does not fit the number of nodes. -/
def ascend [DecidableEq δ] (node : δ → δ → δ) : List (Step δ) → δ → Nat → Nat → Option (δ × Nat × Nat)
  | [], current, index, nodeCount => some (current, index, nodeCount)
  | step :: path, current, index, nodeCount =>
    if nodeCount ≤ 1 then none
    else if index % 2 = 0 then
      match step with
      | .siblingLeft _ => none
      | .siblingRight other =>
        if nodeCount ≤ index + 1 ∧ other ≠ current then none
        else ascend node path (node current other) (index / 2) ((nodeCount + 1) / 2)
    else
      match step with
      | .siblingRight _ => none
      | .siblingLeft other => ascend node path (node other current) (index / 2) ((nodeCount + 1) / 2)

def below (node : δ → δ → δ) (level : List δ) : List (List δ) :=
  if 1 < level.length then level :: below node (parents node level) else []
termination_by level.length
decreasing_by
  rw [length_parents]
  omega

def top (node : δ → δ → δ) (level : List δ) : List δ :=
  if 1 < level.length then top node (parents node level) else level
termination_by level.length
decreasing_by
  rw [length_parents]
  omega

theorem below_many (many : 1 < level.length) : below node level = level :: below node (parents node level) := by
  rw [below, if_pos many]

theorem below_few (few : ¬1 < level.length) : below node level = [] := by
  rw [below, if_neg few]

theorem top_many (many : 1 < level.length) : top node level = top node (parents node level) := by
  rw [top, if_pos many]

theorem top_few (few : ¬1 < level.length) : top node level = level := by
  rw [top, if_neg few]

theorem length_below (node : δ → δ → δ) (level : List δ) : (below node level).length = Nat.clog 2 level.length := by
  fun_induction below node level with
  | case1 level many ih =>
    rw [length_cons, ih, length_parents, Nat.clog_of_two_le Nat.one_lt_two many]
    rfl
  | case2 level few => rw [length_nil, Nat.clog_of_right_le_one (by omega)]

theorem length_siblings (absent : δ) (levels : List (List δ)) (index : Nat) :
    (siblings absent levels index).length = levels.length := by
  induction levels generalizing index with
  | nil => rfl
  | cons level above ih => rw [siblings, length_cons, ih, length_cons]

section
variable (node : δ → δ → δ) (level : List δ)

theorem raise_eq (earlier : List (List δ)) :
    raise node level (earlier ++ [level]) =
      (top node level, earlier ++ below node level ++ [top node level]) := by
  fun_induction below node level generalizing earlier with
  | case1 level many ih =>
    rw [raise, if_pos many, ih (earlier ++ [level]), top_many many]
    simp only [append_assoc, cons_append, nil_append]
  | case2 level few =>
    rw [raise, if_neg few, top_few few, append_nil]

theorem length_top (nonempty : 0 < level.length) :
    (top node level).length = 1 := by
  fun_induction top node level with
  | case1 level many ih =>
    apply ih
    rw [length_parents]
    omega
  | case2 level few => omega

theorem exists_iterate_top : ∃ rounds, (parents node)^[rounds] level = top node level := by
  fun_induction top node level with
  | case1 level many ih =>
    obtain ⟨rounds, same⟩ := ih
    exact ⟨rounds + 1, same⟩
  | case2 level few => exact ⟨0, rfl⟩

end

theorem getD_parents (node : δ → δ → δ) (absent : δ) (level : List δ) (index : Nat)
    (inside : 2 * index < level.length) :
    (parents node level).getD index absent =
      node (level.getD (2 * index) absent)
        (if 2 * index + 1 < level.length then level.getD (2 * index + 1) absent
          else level.getD (2 * index) absent) := by
  fun_induction parents node level generalizing index with
  | case1 => simp at inside
  | case2 last =>
    obtain rfl : index = 0 := by
      simp only [length_singleton] at inside
      omega
    simp
  | case3 left right rest ih =>
    cases index with
    | zero => simp
    | succ index =>
      have deeper : 2 * index < rest.length := by
        simp only [length_cons] at inside
        omega
      have doubled : 2 * (index + 1) = 2 * index + 1 + 1 := by omega
      simp only [doubled, getD_cons_succ, length_cons, Nat.add_lt_add_iff_right, ih index deeper]

theorem parents_injective (binding : Function.Injective2 node) (lengths : level.length = other.length)
    (same : parents node level = parents node other) : level = other := by
  fun_induction parents node level generalizing other with
  | case1 => exact (length_eq_zero_iff.mp lengths.symm).symm
  | case2 last =>
    obtain ⟨only, rfl⟩ := length_eq_one_iff.mp lengths.symm
    simp only [parents, List.cons.injEq, and_true] at same
    rw [(binding same).1]
  | case3 left right rest ih =>
    match other, lengths with
    | left' :: right' :: rest', lengths =>
      simp only [parents, List.cons.injEq] at same
      simp only [length_cons, Nat.add_right_cancel_iff] at lengths
      obtain ⟨sameLeft, sameRight⟩ := binding same.1
      rw [sameLeft, sameRight, ih lengths same.2]

theorem top_injective (binding : Function.Injective2 node) (lengths : level.length = other.length)
    (same : top node level = top node other) : level = other := by
  fun_induction top node level generalizing other with
  | case1 level many ih =>
    have manyOther : 1 < other.length := by omega
    rw [top_many manyOther] at same
    refine parents_injective binding lengths (ih ?_ same)
    rw [length_parents, length_parents, lengths]
  | case2 level few =>
    rwa [top_few (lengths ▸ few)] at same

section Paths
variable [DecidableEq δ]

theorem ascend_siblings (node : δ → δ → δ) (absent : δ) (level : List δ) (index : Nat) (inside : index < level.length) :
    ascend node (siblings absent (below node level) index) (level.getD index absent) index level.length =
      some ((top node level).getD 0 absent, 0, 1) := by
  fun_induction below node level generalizing index with
  | case1 level many ih =>
    have higher : index / 2 < (parents node level).length := by
      rw [length_parents]
      omega
    have next := ih (index / 2) higher
    rw [getD_parents node absent level (index / 2) (by omega), length_parents] at next
    rw [top_many many, siblings, sibling]
    by_cases even : index % 2 = 0
    · have doubled : 2 * (index / 2) = index := by omega
      rw [doubled] at next
      rw [if_pos even, ascend, if_neg (by omega), if_pos even]
      by_cases last : index + 1 < level.length
      · rw [if_pos last] at next ⊢
        simpa only [show ¬level.length ≤ index + 1 by omega, false_and, if_false] using next
      · rw [if_neg last] at next ⊢
        simpa only [ne_eq, not_true_eq_false, and_false, if_false] using next
    · have doubled : 2 * (index / 2) = index - 1 := by omega
      rw [doubled, if_pos (by omega), show index - 1 + 1 = index by omega] at next
      rw [if_neg even, ascend, if_neg (by omega), if_neg even]
      exact next
  | case2 level few =>
    obtain rfl : index = 0 := by omega
    have single : level.length = 1 := by omega
    rw [top_few few, siblings, ascend, single]

variable {node : δ → δ → δ}

theorem ascend_cons (reached : ascend node (step :: path) current index nodeCount = some result) :
    1 < nodeCount ∧ ∃ other parent, ascend node path parent (index / 2) ((nodeCount + 1) / 2) = some result ∧
      (index % 2 = 0 ∧ step = .siblingRight other ∧ parent = node current other ∨
        index % 2 ≠ 0 ∧ step = .siblingLeft other ∧ parent = node other current) := by
  unfold ascend at reached
  split at reached
  · contradiction
  refine ⟨by omega, ?_⟩
  split at reached
  next even =>
    cases step with
    | siblingLeft other => contradiction
    | siblingRight other =>
      dsimp only at reached
      split at reached
      · contradiction
      · exact ⟨other, _, reached, Or.inl ⟨even, rfl, rfl⟩⟩
  next odd =>
    cases step with
    | siblingLeft other => exact ⟨other, _, reached, Or.inr ⟨odd, rfl, rfl⟩⟩
    | siblingRight other => contradiction

/-- A path that reaches the topmost node starts at an entry and uses the siblings of the levels. -/
theorem ascend_sound (binding : Function.Injective2 node) (absent : δ)
    (inside : index < level.length)
    (reached : ascend node path current index level.length = some ((top node level).getD 0 absent, 0, 1)) :
    level.getD index absent = current ∧ path = siblings absent (below node level) index := by
  -- one step of the path climbs one level, whose entries name the pair below
  induction path generalizing current level index with
  | nil =>
    simp only [ascend, Option.some.injEq, Prod.mk.injEq] at reached
    obtain ⟨same, rfl, single⟩ := reached
    have few : ¬1 < level.length := by omega
    rw [top_few few] at same
    rw [below_few few, siblings]
    exact ⟨same.symm, rfl⟩
  | cons step path ih =>
    obtain ⟨many, other, parent, higher, side⟩ := ascend_cons reached
    have entry := getD_parents node absent level (index / 2) (by omega)
    rw [top_many many, ← length_parents node] at higher
    obtain ⟨named, rest⟩ := ih (by rw [length_parents]; omega) higher
    rw [below_many many, siblings, sibling, ← rest]
    rcases side with ⟨even, rfl, rfl⟩ | ⟨odd, rfl, rfl⟩
    · have doubled : 2 * (index / 2) = index := by omega
      rw [doubled] at entry
      obtain ⟨sameEntry, sameSibling⟩ := binding (entry.symm.trans named)
      rw [if_pos even, sameSibling]
      exact ⟨sameEntry, rfl⟩
    · have doubled : 2 * (index / 2) = index - 1 := by omega
      rw [doubled, if_pos (by omega), show index - 1 + 1 = index by omega] at entry
      obtain ⟨sameSibling, sameEntry⟩ := binding (entry.symm.trans named)
      rw [if_neg odd, sameSibling]
      exact ⟨sameEntry, rfl⟩

/-- Two paths from one position to one topmost node are the same path from the same entry, whatever is below the node. -/
theorem ascend_injective (binding : Function.Injective2 node)
    (first : ascend node path left index nodeCount = some (reached, 0, 1))
    (second : ascend node other right index nodeCount = some (reached, 0, 1)) : left = right ∧ path = other := by
  induction path generalizing left right other index nodeCount with
  | nil =>
    simp only [ascend, Option.some.injEq, Prod.mk.injEq] at first
    obtain ⟨same, _, single⟩ := first
    cases other with
    | nil =>
      simp only [ascend, Option.some.injEq, Prod.mk.injEq] at second
      exact ⟨same.trans second.1.symm, rfl⟩
    | cons step others =>
      have many := (ascend_cons second).1
      omega
  | cons step path ih =>
    obtain ⟨many, leftSibling, leftParent, leftHigher, leftSide⟩ := ascend_cons first
    cases other with
    | nil =>
      simp only [ascend, Option.some.injEq, Prod.mk.injEq] at second
      omega
    | cons otherStep others =>
      obtain ⟨_, rightSibling, rightParent, rightHigher, rightSide⟩ := ascend_cons second
      obtain ⟨parents, paths⟩ := ih leftHigher rightHigher
      rcases leftSide with ⟨even, rfl, rfl⟩ | ⟨odd, rfl, rfl⟩
      · rcases rightSide with ⟨_, rfl, rfl⟩ | ⟨odd, _⟩
        · obtain ⟨entries, siblings⟩ := binding parents
          rw [entries, siblings, paths]
          exact ⟨rfl, rfl⟩
        · exact absurd even odd
      · rcases rightSide with ⟨even, _⟩ | ⟨_, rfl, rfl⟩
        · exact absurd even odd
        · obtain ⟨siblings, entries⟩ := binding parents
          rw [entries, siblings, paths]
          exact ⟨rfl, rfl⟩

end Paths

end ConvergeAudit.Lib.Levels
