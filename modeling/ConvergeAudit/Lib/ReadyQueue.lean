import ConvergeAudit.Moon.Map
import Mathlib.Algebra.Order.BigOperators.Ring.List

/-!
Items wait for keys. An index lists the positions that wait for each missing key, once for each occurrence; a position
enters the queue when its count reaches zero. Reading a position settles its item, which may release one key.
-/

namespace ConvergeAudit.Lib.ReadyQueue
open Moon List

variable {κ σ : Type} [DecidableEq κ]

def enroll (waiters : Map κ (List Nat)) (key : κ) (i : Nat) : Map κ (List Nat) :=
  match waiters.get key with
  | some list => waiters.set key (list ++ [i])
  | none => waiters.set key [i]

/-- One item of the index: the waiters with position `i` enrolled, and its count of missing keys. -/
def indexItem (held : κ → Bool) (i : Nat) : List κ → Map κ (List Nat) × Int → Map κ (List Nat) × Int
  | [], acc => acc
  | key :: rest, (waiters, unmet) =>
    if held key then indexItem held i rest (waiters, unmet)
    else indexItem held i rest (enroll waiters key i, unmet + 1)

/-- The index of the items from position `i` on. -/
def indexFrom (held : κ → Bool) : Nat → List (List κ) → Map κ (List Nat) → Map κ (List Nat) × List Int
  | _, [], waiters => (waiters, [])
  | i, keys :: rest, waiters =>
    let (waiters, unmet) := indexItem held i keys (waiters, 0)
    let (waiters, counts) := indexFrom held (i + 1) rest waiters
    (waiters, unmet :: counts)

def seed (unmet : List Int) : List Nat := (List.range unmet.length).filter fun i => unmet.getD i 0 = 0

structure State (σ : Type) where
  world : σ
  unmetCount : List Int
  /-- The part of the queue that has not been read. -/
  queue : List Nat
  processed : List Bool

/-- Every waiting position misses one key less; those that miss none are queued. -/
def release : List Nat → List Int × List Nat → List Int × List Nat
  | [], acc => acc
  | w :: rest, (unmet, queue) =>
    let unmet := unmet.modify w (· - 1)
    release rest (unmet, if unmet.getD w 0 = 0 then queue ++ [w] else queue)

def step (settle : σ → Nat → σ × Option κ) (waiters : Map κ (List Nat)) (st : State σ) (idx : Nat) : State σ :=
  if st.processed.getD idx false then st
  else
    let (world, key) := settle st.world idx
    let st := { st with world := world, processed := st.processed.set idx true }
    match key with
    | none => st
    | some key =>
      match waiters.get key with
      | none => st
      | some waiting =>
        let (unmet, queue) := release waiting (st.unmetCount, st.queue)
        { st with unmetCount := unmet, queue := queue }

/-- The queue is read until it is empty; `fuel` bounds the number of reads. -/
def run (settle : σ → Nat → σ × Option κ) (waiters : Map κ (List Nat)) : Nat → State σ → State σ
  | 0, st => st
  | fuel + 1, st =>
    match st.queue with
    | [] => st
    | idx :: rest => run settle waiters fuel (step settle waiters { st with queue := rest } idx)

/-- Settling positions in the given order: the world after it and the keys released on the way. -/
def settleAll (settle : σ → Nat → σ × Option κ) : σ → List Nat → σ × List κ
  | world, [] => (world, [])
  | world, i :: rest =>
    let (next, key) := settle world i
    let (last, keys) := settleAll settle next rest
    (last, key.toList ++ keys)

omit [DecidableEq κ] in
theorem settleAll_append (settle : σ → Nat → σ × Option κ) (world : σ) (front back : List Nat) :
    settleAll settle world (front ++ back) =
      let (middle, keys) := settleAll settle world front
      let (last, more) := settleAll settle middle back
      (last, keys ++ more) := by
  induction front generalizing world with
  | nil => rfl
  | cons i rest ih => simp [settleAll, ih, append_assoc]

/-- Occurrences among `needs` that are not held. -/
def missing (held : κ → Bool) (needs : List κ) : Nat := needs.countP fun key => !held key

/-- Occurrences among `needs` that the released keys account for. -/
def supplied (held : κ → Bool) (released needs : List κ) : Nat :=
  (released.map fun key => if held key then 0 else needs.count key).sum

theorem supplied_append (held : κ → Bool) (front back needs : List κ) :
    supplied held (front ++ back) needs = supplied held front needs + supplied held back needs := by
  simp [supplied]

theorem supplied_cons_need (held : κ → Bool) (released needs : List κ) (key : κ) :
    supplied held released (key :: needs) =
      supplied held released needs + (if held key then 0 else released.count key) := by
  induction released with
  | nil => simp [supplied]
  | cons k rest ih =>
    simp only [supplied, map_cons, sum_cons] at ih ⊢
    rw [ih]
    by_cases same : k = key
    · subst k
      cases h : held key
      · simp only [count_cons_self, if_false, Bool.false_eq_true]
        omega
      · simp
    · have other : key ≠ k := fun h => same h.symm
      rw [count_cons_of_ne same, count_cons_of_ne other]
      omega

theorem missing_le_supplied {held : κ → Bool} (all : ∀ key ∈ needs, held key = false → key ∈ released) :
    missing held needs ≤ supplied held released needs := by
  induction needs with
  | nil => simp [missing]
  | cons key rest ih =>
    have tail := ih fun k member => all k (mem_cons_of_mem _ member)
    rw [supplied_cons_need]
    simp only [missing, countP_cons] at tail ⊢
    cases h : held key with
    | true => simpa [h] using tail
    | false =>
      have once := one_le_count_iff.mpr (all key mem_cons_self h)
      simp only [Bool.not_false, if_true, Bool.false_eq_true, if_false]
      omega

theorem supplied_le_missing {held : κ → Bool} (once : released.Nodup) :
    supplied held released needs ≤ missing held needs := by
  induction needs with
  | nil => simp [supplied]
  | cons key rest ih =>
    rw [supplied_cons_need]
    simp only [missing, countP_cons] at ih ⊢
    cases h : held key with
    | true => simpa [h] using ih
    | false =>
      have atMost := nodup_iff_count_le_one.mp once key
      simp only [Bool.not_false, if_true, Bool.false_eq_true, if_false]
      omega

theorem all_released_of_missing_le {held : κ → Bool} (once : released.Nodup)
    (enough : missing held needs ≤ supplied held released needs) :
    ∀ key ∈ needs, held key = true ∨ key ∈ released := by
  induction needs with
  | nil => simp
  | cons key rest ih =>
    rw [supplied_cons_need] at enough
    have bound : supplied held released rest ≤ missing held rest := supplied_le_missing once
    have atMost := nodup_iff_count_le_one.mp once key
    simp only [missing, countP_cons] at enough bound ih
    intro k member
    cases h : held key with
    | true =>
      rcases mem_cons.mp member with rfl | old
      · exact Or.inl h
      · exact ih (by simpa [h] using enough) k old
    | false =>
      simp only [h, Bool.not_false, if_true, Bool.false_eq_true, if_false] at enough
      rcases mem_cons.mp member with rfl | old
      · exact Or.inr (one_le_count_iff.mp (by omega))
      · exact ih (by omega) k old

def waitingFor (waiters : Map κ (List Nat)) (key : κ) : List Nat := (waiters.get key).getD []

theorem waitingFor_enroll (waiters : Map κ (List Nat)) (key other : κ) (i : Nat) :
    waitingFor (enroll waiters key i) other =
      if other = key then waitingFor waiters key ++ [i] else waitingFor waiters other := by
  unfold enroll waitingFor
  cases found : waiters.get key <;> by_cases same : other = key <;> simp [Map.get_set, same]

theorem indexItem_spec (held : κ → Bool) (i : Nat) (keys : List κ) (acc : Map κ (List Nat) × Int) :
    (indexItem held i keys acc).2 = acc.2 + missing held keys ∧
    ∀ key j, (waitingFor (indexItem held i keys acc).1 key).count j =
      (waitingFor acc.1 key).count j + (if held key = false ∧ j = i then keys.count key else 0) := by
  induction keys generalizing acc with
  | nil => simp [indexItem, missing]
  | cons k rest ih =>
    obtain ⟨waiters, unmet⟩ := acc
    cases h : held k with
    | true =>
      rw [indexItem, if_pos h]
      obtain ⟨count, waits⟩ := ih (waiters, unmet)
      refine ⟨by simpa [missing, countP_cons, h] using count, ?_⟩
      intro key j
      rw [waits key j]
      by_cases same : k = key
      · simp [← same, h]
      · simp [count_cons_of_ne same]
    | false =>
      rw [indexItem, if_neg (by simp [h])]
      obtain ⟨count, waits⟩ := ih (enroll waiters k i, unmet + 1)
      constructor
      · rw [count]
        simp only [missing, countP_cons, h, Bool.not_false, if_true]
        omega
      · intro key j
        rw [waits key j, waitingFor_enroll]
        by_cases same : key = k
        · subst k
          by_cases position : j = i
          · simp only [if_true, count_append, position, h, and_self, count_cons_self,
              count_nil]
            omega
          · simp [position, h, Ne.symm position]
        · rw [if_neg same, count_cons_of_ne (Ne.symm same)]

theorem indexFrom_spec (held : κ → Bool) (needs : List (List κ)) (i : Nat) (waiters : Map κ (List Nat)) :
    (indexFrom held i needs waiters).2 = needs.map (fun keys => (missing held keys : Int)) ∧
    ∀ key j, (waitingFor (indexFrom held i needs waiters).1 key).count j =
      (waitingFor waiters key).count j +
        (if held key = false ∧ i ≤ j then (needs.getD (j - i) []).count key else 0) := by
  induction needs generalizing i waiters with
  | nil => simp [indexFrom]
  | cons keys rest ih =>
    obtain ⟨count, waits⟩ := indexItem_spec held i keys (waiters, 0)
    obtain ⟨counts, later⟩ := ih (i + 1) (indexItem held i keys (waiters, 0)).1
    constructor
    · simp only [indexFrom, map_cons, counts, count, zero_add]
    · intro key j
      simp only [indexFrom]
      rw [later key j, waits key j]
      rcases Nat.lt_trichotomy j i with before | same | after
      · simp [show ¬ i ≤ j by omega, show ¬ i + 1 ≤ j by omega, show ¬ j = i by omega]
      · subst j
        simp
      · have shift : j - i = (j - (i + 1)) + 1 := by omega
        simp [show i ≤ j by omega, show i + 1 ≤ j by omega, show ¬ j = i by omega, shift]

theorem getD_modify (counts : List Int) (w j : Nat) (f : Int → Int) (bound : w < counts.length) :
    (counts.modify w f).getD j 0 = if j = w then f (counts.getD w 0) else counts.getD j 0 := by
  by_cases same : j = w
  · subst j
    simp [getElem?_eq_getElem bound]
  · simp [same, Ne.symm same]

/-- The positions that have been read or queued are exactly those that miss nothing. -/
structure Balanced (n : Nat) (order : List Nat) (unmet : List Int) (queue : List Nat) : Prop where
  length : unmet.length = n
  nodup : (order ++ queue).Nodup
  bound : ∀ i ∈ order ++ queue, i < n
  queued : ∀ i, i < n → (i ∈ order ++ queue ↔ unmet.getD i 0 ≤ 0)

theorem release_spec (balanced : Balanced n order unmet queue) (known : ∀ w ∈ waiting, w < n) :
    Balanced n order (release waiting (unmet, queue)).1 (release waiting (unmet, queue)).2 ∧
    ∀ j, j < n → (release waiting (unmet, queue)).1.getD j 0 = unmet.getD j 0 - waiting.count j := by
  induction waiting generalizing unmet queue with
  | nil => exact ⟨balanced, by simp [release]⟩
  | cons w rest ih =>
    have bound : w < n := known w mem_cons_self
    have entry : ∀ j, (unmet.modify w (· - 1)).getD j 0 =
        if j = w then unmet.getD w 0 - 1 else unmet.getD j 0 :=
      fun j => getD_modify unmet w j (· - 1) (balanced.length ▸ bound)
    have next : Balanced n order (unmet.modify w (· - 1))
        (if (unmet.modify w (· - 1)).getD w 0 = 0 then queue ++ [w] else queue) := by
      have before := balanced.queued w bound
      split
      · rename_i reached
        rw [entry w, if_pos rfl] at reached
        have fresh : w ∉ order ++ queue := fun member => by
          have := before.mp member
          omega
        refine ⟨by simpa using balanced.length, ?_, ?_, ?_⟩
        · rw [← append_assoc]
          exact List.Nodup.append balanced.nodup (nodup_singleton w) (by simpa using fresh)
        · intro i member
          rw [← append_assoc, mem_append] at member
          rcases member with old | new
          · exact balanced.bound i old
          · exact (mem_singleton.mp new) ▸ bound
        · intro i inside
          rw [← append_assoc, mem_append, mem_singleton, entry i]
          by_cases same : i = w
          · subst i
            exact ⟨fun _ => by omega, fun _ => Or.inr rfl⟩
          · simp only [same, or_false, if_false]
            exact balanced.queued i inside
      · rename_i notReached
        rw [entry w, if_pos rfl] at notReached
        refine ⟨by simpa using balanced.length, balanced.nodup, balanced.bound, ?_⟩
        intro i inside
        rw [entry i]
        by_cases same : i = w
        · subst i
          rw [if_pos rfl, before]
          omega
        · rw [if_neg same]
          exact balanced.queued i inside
    obtain ⟨kept, counts⟩ := ih next fun j member => known j (mem_cons_of_mem _ member)
    refine ⟨kept, ?_⟩
    intro j inside
    rw [release, counts j inside, entry j]
    by_cases same : j = w
    · subst j
      simp only [if_true, count_cons_self]
      omega
    · rw [if_neg same, count_cons_of_ne (Ne.symm same)]

theorem step_eq {settle : σ → Nat → σ × Option κ} (unread : st.processed.getD idx false = false) :
    step settle waiters st idx =
      let waiting := ((settle st.world idx).2.map (waitingFor waiters)).getD []
      { world := (settle st.world idx).1
        unmetCount := (release waiting (st.unmetCount, st.queue)).1
        queue := (release waiting (st.unmetCount, st.queue)).2
        processed := st.processed.set idx true } := by
  rw [step, if_neg (ne_true_of_eq_false unread)]
  cases key : (settle st.world idx).2 with
  | none => simp [key, release]
  | some k =>
    cases found : waiters.get k with
    | none => simp [key, found, waitingFor, release]
    | some waiting => simp [key, found, waitingFor]

section
variable (held : κ → Bool) (needs : List (List κ)) (settle : σ → Nat → σ × Option κ) (world : σ)

/-- The positions in `order` have been settled, in this order, and `st` is the state after it. -/
structure Settled (order : List Nat) (st : State σ) : Prop where
  balanced : Balanced needs.length order st.unmetCount st.queue
  processedLength : st.processed.length = needs.length
  processed : ∀ i, i < needs.length → (st.processed.getD i false = true ↔ i ∈ order)
  reached : st.world = (settleAll settle world order).1
  counts : ∀ i, i < needs.length → st.unmetCount.getD i 0 =
    (missing held (needs.getD i []) : Int) - supplied held (settleAll settle world order).2 (needs.getD i [])
  ready : ∀ before i after, order = before ++ i :: after →
    missing held (needs.getD i []) ≤ supplied held (settleAll settle world before).2 (needs.getD i [])

variable {held needs settle world}

section
variable {waiters : Map κ (List Nat)} (waits : ∀ key j, (waitingFor waiters key).count j =
    if held key = false then (needs.getD j []).count key else 0)
include waits

theorem step_settled (settled : Settled held needs settle world order st) (head : st.queue = idx :: rest) :
    Settled held needs settle world (order ++ [idx]) (step settle waiters { st with queue := rest } idx) := by
  have balanced := settled.balanced
  rw [head] at balanced
  have inside := balanced.bound idx (by simp)
  have fresh : idx ∉ order := fun member =>
    disjoint_of_nodup_append balanced.nodup member mem_cons_self
  have unread := eq_false_of_ne_true fun read => fresh ((settled.processed idx inside).mp read)
  have moved : Balanced needs.length (order ++ [idx]) st.unmetCount rest :=
    ⟨balanced.length, by simpa using balanced.nodup, by simpa using balanced.bound,
      by simpa using balanced.queued⟩
  rw [step_eq (by exact unread)]
  -- The released key, if there is one, and the positions waiting for it.
  generalize waitingEq : ((settle st.world idx).2.map (waitingFor waiters)).getD [] = waiting
  have keys : (settleAll settle world (order ++ [idx])).2 =
      (settleAll settle world order).2 ++ (settle st.world idx).2.toList := by
    rw [settleAll_append, settled.reached]
    simp [settleAll]
  have occurrences : ∀ j, waiting.count j = supplied held (settle st.world idx).2.toList (needs.getD j []) := by
    intro j
    rw [← waitingEq]
    cases key : (settle st.world idx).2 with
    | none => simp [supplied]
    | some k =>
      rw [Option.map_some, Option.getD_some, waits k j]
      cases h : held k <;> simp [supplied, h]
  have known : ∀ w ∈ waiting, w < needs.length := by
    intro w member
    by_contra outside
    have some := count_pos_iff.mpr member
    rw [occurrences w, getD_eq_getElem?_getD, getElem?_eq_none (by omega)] at some
    simp [supplied] at some
  obtain ⟨kept, lowered⟩ := release_spec moved known
  refine ⟨kept, by simpa using settled.processedLength, ?_, ?_, ?_, ?_⟩
  · intro i bound
    have entry : (st.processed.set idx true).getD i false = if i = idx then true else st.processed.getD i false := by
      by_cases same : idx = i
      · subst i
        simp [settled.processedLength, inside]
      · simp [same, Ne.symm same]
    simp only [entry, mem_append, mem_singleton]
    by_cases same : i = idx
    · simp [same]
    · simpa [same] using settled.processed i bound
  · rw [settleAll_append]
    simp [settleAll, settled.reached]
  · intro i bound
    rw [lowered i bound, keys, supplied_append, occurrences i, settled.counts i bound]
    omega
  · intro before i after split
    rcases eq_nil_or_concat after with rfl | ⟨inner, last, rfl⟩
    · -- The split point is the position just read: it was in the queue.
      obtain ⟨same, position⟩ := append_inj' split rfl
      obtain rfl : idx = i := by simpa using position
      rw [← same]
      have zero := (balanced.queued idx inside).mp (by simp)
      rw [settled.counts idx inside] at zero
      omega
    · rw [concat_eq_append, ← cons_append, ← append_assoc] at split
      exact settled.ready before i inner (append_inj' split rfl).1

theorem run_settled (settled : Settled held needs settle world order st) (enough : needs.length ≤ order.length + fuel) :
    ∃ final, Settled held needs settle world final (run settle waiters fuel st) ∧
      (run settle waiters fuel st).queue = [] := by
  induction fuel generalizing order st with
  | zero =>
    refine ⟨order, settled, ?_⟩
    -- Every position has been settled, so none is left for the queue.
    have all : (order ++ st.queue).length ≤ needs.length := by
      have subset : (order ++ st.queue) ⊆ List.range needs.length :=
        fun i member => mem_range.mpr (settled.balanced.bound i member)
      simpa using (subperm_of_subset settled.balanced.nodup subset).length_le
    rw [length_append] at all
    exact length_eq_zero_iff.mp (by simp only [run]; omega)
  | succ fuel ih =>
    cases head : st.queue with
    | nil =>
      have stopped : run settle waiters (fuel + 1) st = st := by rw [run, head]
      exact ⟨order, by rw [stopped]; exact settled, by rw [stopped]; exact head⟩
    | cons idx rest =>
      have continued : run settle waiters (fuel + 1) st =
          run settle waiters fuel (step settle waiters { st with queue := rest } idx) := by
        rw [run, head]
      rw [continued]
      refine ih (step_settled waits settled head) ?_
      simp only [length_append, length_singleton]
      omega

end

def start (held : κ → Bool) (needs : List (List κ)) (world : σ) : State σ :=
  let counts := (indexFrom held 0 needs Map.empty).2
  { world := world, unmetCount := counts, queue := seed counts, processed := List.replicate needs.length false }

theorem start_settled : Settled held needs settle world [] (start held needs world) := by
  have counts : (indexFrom held 0 needs Map.empty).2 = needs.map (fun keys => (missing held keys : Int)) :=
    (indexFrom_spec held needs 0 Map.empty).1
  have entry : ∀ i, i < needs.length →
      ((indexFrom held 0 needs Map.empty).2).getD i 0 = missing held (needs.getD i []) := by
    intro i bound
    simp [counts, getD_eq_getElem?_getD, getElem?_eq_getElem bound]
  refine ⟨⟨by simp [start, counts], ?_, ?_, ?_⟩, by simp [start], ?_, rfl, ?_, ?_⟩
  · exact (nodup_range).filter _
  · intro i member
    have found := mem_of_mem_filter member
    simpa [counts] using found
  · intro i bound
    have listed : i ∈ seed (indexFrom held 0 needs Map.empty).2 ↔
        ((indexFrom held 0 needs Map.empty).2).getD i 0 = 0 := by
      rw [seed, mem_filter]
      simp [counts, bound]
    simp only [start, nil_append]
    rw [listed, entry i bound]
    omega
  · intro i bound
    simp [start, getD_eq_getElem?_getD, bound]
  · intro i bound
    simp only [start, settleAll, supplied]
    rw [entry i bound]
    simp
  · intro before i after split
    simp at split

/-- The whole run settles some positions one after the other. A position that is left over still
misses a key; a settled one missed none, as long as the keys released before it are all different. -/
theorem run_spec (held : κ → Bool) (needs : List (List κ)) (settle : σ → Nat → σ × Option κ) (world : σ) :
    let final := run settle (indexFrom held 0 needs Map.empty).1 needs.length (start held needs world)
    ∃ order : List Nat, order.Nodup ∧ (∀ i ∈ order, i < needs.length) ∧
      final.world = (settleAll settle world order).1 ∧ final.queue = [] ∧
      final.processed.length = needs.length ∧
      (∀ i, i < needs.length → (final.processed.getD i false = true ↔ i ∈ order)) ∧
      (∀ i, i < needs.length → i ∉ order →
        ∃ key ∈ needs.getD i [], held key = false ∧ key ∉ (settleAll settle world order).2) ∧
      (∀ before i after, order = before ++ i :: after → (settleAll settle world before).2.Nodup →
        ∀ key ∈ needs.getD i [], held key = true ∨ key ∈ (settleAll settle world before).2) := by
  have waits : ∀ key j, (waitingFor (indexFrom held 0 needs Map.empty).1 key).count j =
      if held key = false then (needs.getD j []).count key else 0 := by
    intro key j
    rw [(indexFrom_spec held needs 0 Map.empty).2 key j]
    simp [waitingFor]
  obtain ⟨order, settled, drained⟩ : ∃ final, Settled held needs settle world final
      (run settle (indexFrom held 0 needs Map.empty).1 needs.length (start held needs world)) ∧
      (run settle (indexFrom held 0 needs Map.empty).1 needs.length (start held needs world)).queue = [] :=
    run_settled waits start_settled (by simp)
  have nodup : order.Nodup := (nodup_append.mp settled.balanced.nodup).1
  refine ⟨order, nodup, fun i member => settled.balanced.bound i (mem_append_left _ member),
    settled.reached, drained, settled.processedLength, settled.processed, ?_, ?_⟩
  · intro i bound left
    by_contra none
    have supply : missing held (needs.getD i []) ≤
        supplied held (settleAll settle world order).2 (needs.getD i []) := by
      apply missing_le_supplied
      intro key member notHeld
      by_contra unreleased
      exact none ⟨key, member, notHeld, unreleased⟩
    have unsettled : i ∉ order ++ (run settle (indexFrom held 0 needs Map.empty).1 needs.length
        (start held needs world)).queue := by
      rw [drained, append_nil]
      exact left
    have positive := mt (settled.balanced.queued i bound).mpr unsettled
    rw [settled.counts i bound] at positive
    omega
  · intro before i after split once
    exact all_released_of_missing_le once (settled.ready before i after split)

end

end ConvergeAudit.Lib.ReadyQueue
