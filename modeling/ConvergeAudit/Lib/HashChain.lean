import Mathlib.Data.List.Induction
import Mathlib.Logic.Function.Defs

/-!
Items that name the root of the item before them. The root of the last item determines the chain, as far back as its
length goes.
-/

namespace ConvergeAudit.Lib.HashChain

open List

variable {α ρ : Type} (root parent : α → ρ)

/-- The first item names `base`, and each further one the root of the item before it. -/
def Linked : ρ → List α → Prop
  | _, [] => True
  | base, item :: rest => parent item = base ∧ Linked (root item) rest

def tip (base : ρ) (items : List α) : ρ := items.foldl (fun _ item => root item) base

variable {root parent}

theorem tip_append (base : ρ) (early late : List α) : tip root base (early ++ late) = tip root (tip root base early) late :=
  foldl_append

theorem linked_append :
    Linked root parent base (early ++ late) ↔
      Linked root parent base early ∧ Linked root parent (tip root base early) late := by
  induction early generalizing base with
  | nil => simp [Linked, tip]
  | cons item rest ih => simp only [cons_append, Linked, ih, tip, foldl_cons, and_assoc]

/-- Two chains of one length with one tip are the same, from whatever bases they start. -/
theorem eq_of_tip_eq (injective : Function.Injective root) (linked : Linked root parent base items)
    (linked' : Linked root parent base' others) (lengths : items.length = others.length)
    (tips : tip root base items = tip root base' others) : items = others := by
  -- From the end: the last items have one root, so they are equal and name the same root before them.
  induction items using List.reverseRecOn generalizing others with
  | nil => exact (length_eq_zero_iff.mp lengths.symm).symm
  | append_singleton items last ih =>
    cases others using List.reverseRecOn with
    | nil => simp at lengths
    | append_singleton others last' =>
      rw [linked_append] at linked linked'
      rw [tip_append, tip_append] at tips
      have same := injective tips
      subst same
      have tipsBefore := linked.2.1.symm.trans linked'.2.1
      rw [length_append, length_append, length_singleton] at lengths
      rw [ih linked.1 linked'.1 (by omega) tipsBefore]

end ConvergeAudit.Lib.HashChain
