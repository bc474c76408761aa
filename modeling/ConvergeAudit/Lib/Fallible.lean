import Mathlib.Data.List.Forall2

/-!
Steps that stop with an error, and loops over a list that stop at the first step that refuses.
-/

namespace ConvergeAudit.Lib.Fallible

open List

universe u

variable {ε ε' σ τ α : Type*}

/-- Go on only if a condition holds. -/
def require (condition : Prop) [Decidable condition] (reason : ε) : Except ε Unit :=
  if condition then .ok () else .error reason

/-- Go on with a value, if there is one. -/
def given (value : Option α) (reason : ε) : Except ε α := value.elim (.error reason) .ok

@[simp] theorem require_ok [Decidable condition] : require condition reason = .ok u ↔ condition := by
  unfold require
  by_cases holds : condition <;> simp [holds]

@[simp] theorem given_ok : given value reason = .ok a ↔ value = some a := by
  cases value <;> simp [given]

theorem bind_ok {x : Except ε β} {f : β → Except ε γ} : (x >>= f) = .ok c ↔ ∃ b, x = .ok b ∧ f b = .ok c := by
  cases x with
  | error reason => simp [bind, Except.bind]
  | ok b => simp [bind, Except.bind]

theorem map_ok {x : Except ε σ} : x.map f = .ok c ↔ ∃ b, x = .ok b ∧ f b = c := by
  cases x <;> simp [Except.map]

theorem require_bind {γ : Type} [Decidable condition] {f : Unit → Except ε γ} {c : γ} :
    (require condition reason >>= f) = .ok c ↔ condition ∧ f () = .ok c := by
  simp only [bind_ok, require_ok]
  exact ⟨fun ⟨_, holds⟩ => holds, fun holds => ⟨(), holds⟩⟩

theorem given_bind {value : Option β} {c : γ} :
    (given value reason >>= f) = .ok c ↔ ∃ b, value = some b ∧ f b = .ok c := by
  simp only [bind_ok, given_ok]

theorem require_error [Decidable condition] :
    require condition reason = .error other ↔ ¬condition ∧ reason = other := by
  unfold require
  by_cases holds : condition <;> simp [holds]

theorem given_error : given value reason = .error other ↔ value = none ∧ reason = other := by
  cases value <;> simp [given]

theorem bind_error {x : Except ε β} :
    (x >>= f) = .error reason ↔ x = .error reason ∨ ∃ b, x = .ok b ∧ f b = .error reason := by
  cases x with
  | error other => simp [bind, Except.bind]
  | ok b => simp [bind, Except.bind]

theorem mapM_ok {f : α → Except ε σ} {xs : List α} {ys : List σ} :
    xs.mapM f = .ok ys ↔ List.Forall₂ (fun x y => f x = .ok y) xs ys := by
  induction xs generalizing ys with
  | nil =>
    rw [mapM_nil, List.forall₂_nil_left_iff]
    exact ⟨fun done => (Except.ok.inj done).symm, fun empty => congrArg Except.ok empty.symm⟩
  | cons x xs ih =>
    rw [mapM_cons, bind_ok, List.forall₂_cons_left_iff]
    constructor
    · rintro ⟨y, first, done⟩
      obtain ⟨rest, later, done⟩ := bind_ok.mp done
      exact ⟨y, rest, first, ih.mp later, (Except.ok.inj done).symm⟩
    · rintro ⟨y, rest, first, later, rfl⟩
      exact ⟨y, first, bind_ok.mpr ⟨rest, ih.mpr later, rfl⟩⟩

theorem exists_of_forall₂ (each : List.Forall₂ R xs ys) (member : y ∈ ys) : ∃ x ∈ xs, R x y := by
  induction each with
  | nil => cases member
  | @cons x first _ _ related _ ih =>
    rcases mem_cons.mp member with rfl | later
    · exact ⟨x, mem_cons_self, related⟩
    · obtain ⟨found, there, same⟩ := ih later
      exact ⟨found, mem_cons_of_mem _ there, same⟩

theorem mapM_eq_map {f : α → Except ε σ} {xs : List α} (each : ∀ x ∈ xs, f x = .ok (g x)) :
    xs.mapM f = .ok (xs.map g) := by
  rw [mapM_ok, List.forall₂_map_right_iff, List.forall₂_same]
  exact each

/-- Both refused, or both answered with related values. -/
inductive Agree (R : σ → τ → Prop) : Except ε σ → Except ε' τ → Prop
  | ok {s : σ} {t : τ} (related : R s t) : Agree R (.ok s) (.ok t)
  | error (reason : ε) (other : ε') : Agree R (.error reason) (.error other)

theorem foldlM_cons_ok {f : σ → α → Except ε σ} {x : α} :
    (x :: xs).foldlM f s = .ok t ↔ ∃ m, f s x = .ok m ∧ xs.foldlM f m = .ok t := by
  rw [foldlM_cons, bind_ok]

theorem foldlM_append_ok {f : σ → α → Except ε σ} {xs ys : List α} {s t : σ} :
    (xs ++ ys).foldlM f s = .ok t ↔ ∃ m, xs.foldlM f s = .ok m ∧ ys.foldlM f m = .ok t := by
  rw [foldlM_append, bind_ok]

/-- What every step keeps, a loop that reaches its end keeps. -/
theorem foldlM_invariant (Inv : σ → Prop) {f : σ → α → Except ε σ} {xs : List α}
    (step : ∀ x ∈ xs, ∀ s s', Inv s → f s x = .ok s' → Inv s') (start : Inv s) (done : xs.foldlM f s = .ok t) :
    Inv t := by
  induction xs generalizing s with
  | nil =>
    cases done
    exact start
  | cons x xs ih =>
    obtain ⟨m, first, rest⟩ := foldlM_cons_ok.mp done
    exact ih (fun y member => step y (mem_cons_of_mem _ member)) (step x mem_cons_self s m start first) rest

theorem foldlM_agree {xs : List α} (step : ∀ x ∈ xs, ∀ s t, R s t → Agree R (f s x) (g t x)) (start : R s t) :
    Agree R (xs.foldlM f s) (xs.foldlM g t) := by
  induction xs generalizing s t with
  | nil => exact .ok start
  | cons x xs ih =>
    have first := step x mem_cons_self s t start
    rw [foldlM_cons, foldlM_cons]
    generalize f s x = here at first
    generalize g t x = there at first
    cases first with
    | ok related => exact ih (fun y member => step y (mem_cons_of_mem _ member)) related
    | error reason other => exact .error reason other

/-- What every step keeps about the state and the items that are left. -/
theorem foldlM_invariant_rest (Inv : List α → σ → Prop) {f : σ → α → Except ε σ}
    (step : ∀ x xs s s', Inv (x :: xs) s → f s x = .ok s' → Inv xs s') (start : Inv (xs ++ ys) s)
    (done : xs.foldlM f s = .ok t) : Inv ys t := by
  induction xs generalizing s with
  | nil =>
    cases done
    exact start
  | cons x xs ih =>
    obtain ⟨m, first, rest⟩ := foldlM_cons_ok.mp done
    exact ih (step x (xs ++ ys) s m start first) rest

theorem foldlM_prefix (Inv : List α → σ → Prop) {f : σ → α → Except ε σ}
    (step : ∀ front x s s', Inv front s → f s x = .ok s' → Inv (front ++ [x]) s') (start : Inv [] s)
    (done : xs.foldlM f s = .ok t) : Inv xs t := by
  have whole : ∃ front, front ++ [] = xs ∧ Inv front t := by
    refine foldlM_invariant_rest (fun rest s => ∃ front, front ++ rest = xs ∧ Inv front s) ?_ ⟨[], by simp, start⟩ done
    rintro x rest s s' ⟨front, split, holds⟩ next
    exact ⟨front ++ [x], by simpa using split, step front x s s' holds next⟩
  obtain ⟨front, same, holds⟩ := whole
  rw [append_nil] at same
  exact same ▸ holds

end ConvergeAudit.Lib.Fallible
