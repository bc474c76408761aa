import Mathlib.Data.List.Induction

/-!
What is known of the state of a loop depends on the items it has read. Two loops that take the same steps on the
states of one of them end in the same state.
-/

namespace ConvergeAudit.Lib.Loops

variable {σ α : Type*} {xs done rest : List α} {s : σ}

theorem foldl_prefix (Inv : List α → σ → Prop)
    (step : ∀ done x rest s, xs = done ++ x :: rest → Inv done s → Inv (done ++ [x]) (f s x)) (start : Inv [] s)
    (split : xs = done ++ rest) : Inv done (done.foldl f s) := by
  induction done using List.reverseRecOn generalizing rest with
  | nil => exact start
  | append_singleton done x ih =>
    rw [List.append_assoc, List.singleton_append] at split
    rw [List.foldl_append]
    exact step done x rest _ split (ih split)

theorem foldl_congr (same : ∀ done x rest, xs = done ++ x :: rest → f (done.foldl g s) x = g (done.foldl g s) x) :
    xs.foldl f s = xs.foldl g s :=
  foldl_prefix (fun done state => state = done.foldl g s)
    (by
      intro done x rest state split reached
      rw [reached, List.foldl_append]
      exact same done x rest split)
    rfl (List.append_nil xs).symm

end ConvergeAudit.Lib.Loops
