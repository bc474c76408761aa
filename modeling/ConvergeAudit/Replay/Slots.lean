import ConvergeAudit.Bft.Types
import ConvergeAudit.Lib.Claims
import ConvergeAudit.Lib.Fallible
import ConvergeAudit.Moon.Map
import Mathlib.Data.Int.Notation
import Mathlib.Data.List.Induction

/-!
The loop with which `prepare_pvp_epoch` and `prepare_dungeon_raid` read their commands: the first command of a slot is
kept, a second receipt for its input refuses the replay, and another input is a conflict.
-/

namespace ConvergeAudit.Replay
open Moon Bft Lib List

variable {ε ρ : Type}

/-- How one kind of evidence is indexed. -/
structure Indexing (ε : Type) where
  slot : ε → Str
  /-- What a conflict is held against. -/
  conflict : ε → Str
  pair : ε → Str
  input : ε → Digest
  receipt : ε → Digest

structure SlotIndex (ε : Type) where
  bySlot : Map Str ε
  seenPairs : Map Str Bool
  conflicts : Map Str Bool

namespace SlotIndex

def empty : SlotIndex ε := ⟨Map.empty, Map.empty, Map.empty⟩

variable (indexing : Indexing ε)

def claim (index : SlotIndex ε) (evidence : ε) : Except Digest (SlotIndex ε) :=
  if index.seenPairs.contains (indexing.pair evidence) then .ok index
  else
    let seenPairs := index.seenPairs.set (indexing.pair evidence) true
    match index.bySlot.get (indexing.slot evidence) with
    | none => .ok { index with seenPairs, bySlot := index.bySlot.set (indexing.slot evidence) evidence }
    | some previous =>
      if indexing.input previous = indexing.input evidence then
        if indexing.receipt previous ≠ indexing.receipt evidence then .error (indexing.input evidence)
        else .ok { index with seenPairs }
      else .ok { index with seenPairs, conflicts := index.conflicts.set (indexing.conflict evidence) true }

/-- One turn of the loop, with the refusals of the replay that runs it. -/
def read (admitted : ε → Bool) (invalid : ℤ → ρ) (conflicting : Digest → ρ)
    (index : SlotIndex ε) (entry : ε × ℕ) : Except ρ (SlotIndex ε) :=
  if !admitted entry.1 then .error (invalid entry.2)
  else
    match index.claim indexing entry.1 with
    | .error digest => .error (conflicting digest)
    | .ok next => .ok next

def readAll (admitted : ε → Bool) (invalid : ℤ → ρ) (conflicting : Digest → ρ)
    (evidence : List ε) : Except ρ (SlotIndex ε) :=
  evidence.zipIdx.foldlM (read indexing admitted invalid conflicting) empty

end SlotIndex

namespace Indexing
variable (indexing : Indexing ε)

def first (items : List ε) (slot : Str) : Option ε := Claims.first indexing.slot items slot

/-- The item has another input than the one that is kept for its slot. -/
def Conflicts (items : List ε) (item : ε) : Prop :=
  ∃ kept, indexing.first items (indexing.slot item) = some kept ∧ indexing.input kept ≠ indexing.input item

/-- The item has another receipt for the input that is kept for its slot. -/
def Clashes (items : List ε) (item : ε) : Prop :=
  ∃ kept, indexing.first items (indexing.slot item) = some kept ∧ indexing.input kept = indexing.input item ∧
    indexing.receipt kept ≠ indexing.receipt item

/-- Pairs of digests name evidence, and the input of an item fixes its slot. -/
structure Faithful (items : List ε) : Prop where
  pair : ∀ a ∈ items, ∀ b ∈ items, indexing.pair a = indexing.pair b → a = b
  digests : ∀ a ∈ items, ∀ b ∈ items, indexing.input a = indexing.input b → indexing.receipt a = indexing.receipt b → a = b
  slot : ∀ a ∈ items, ∀ b ∈ items, indexing.input a = indexing.input b → indexing.slot a = indexing.slot b

end Indexing

/-- What the index says after some items. -/
structure SlotIndex.Tells (index : SlotIndex ε) (indexing : Indexing ε) (items : List ε) : Prop where
  bySlot : ∀ slot, index.bySlot.get slot = indexing.first items slot
  seenPairs : ∀ pair, index.seenPairs.contains pair = true ↔ ∃ item ∈ items, indexing.pair item = pair
  conflicts : ∀ key, index.conflicts.contains key = true ↔
    ∃ item ∈ items, indexing.conflict item = key ∧ indexing.Conflicts items item
  settled : ∀ item ∈ items, ¬ indexing.Clashes items item

section
open Indexing
variable {indexing : Indexing ε}

theorem Indexing.Faithful.sublist (faithful : indexing.Faithful items) (part : ∀ a ∈ others, a ∈ items) :
    indexing.Faithful others :=
  ⟨fun a memberA b memberB => faithful.pair a (part a memberA) b (part b memberB),
    fun a memberA b memberB => faithful.digests a (part a memberA) b (part b memberB),
    fun a memberA b memberB => faithful.slot a (part a memberA) b (part b memberB)⟩

theorem Indexing.first_concat (indexing : Indexing ε) (items : List ε) (item : ε) (slot : Str) :
    indexing.first (items ++ [item]) slot =
      (indexing.first items slot).or (if indexing.slot item = slot then some item else none) :=
  Claims.first_concat _ _ _

theorem Indexing.exists_first (indexing : Indexing ε) (member : item ∈ items) :
    ∃ kept, indexing.first items (indexing.slot item) = some kept :=
  Claims.exists_first indexing.slot member

theorem Indexing.first_concat_of_some {slot : Str} (found : indexing.first items slot = some kept) :
    indexing.first (items ++ [item]) slot = some kept := by
  rw [first_concat, found, Option.some_or]

theorem Indexing.first_concat_kept (found : indexing.first items (indexing.slot item) = some kept) (slot : Str) :
    indexing.first (items ++ [item]) slot = indexing.first items slot := by
  rw [first_concat]
  by_cases here : indexing.slot item = slot
  · subst here
    rw [found, Option.some_or]
  · rw [if_neg here, Option.or_none]

theorem Indexing.conflicts_concat_old {old : ε} (member : old ∈ items) :
    indexing.Conflicts (items ++ [item]) old ↔ indexing.Conflicts items old := by
  obtain ⟨kept, found⟩ := indexing.exists_first member
  simp only [Indexing.Conflicts, found, first_concat_of_some found]

theorem Indexing.exists_conflicts_concat :
    (∃ a ∈ items ++ [item], indexing.conflict a = key ∧ indexing.Conflicts (items ++ [item]) a) ↔
      (∃ a ∈ items, indexing.conflict a = key ∧ indexing.Conflicts items a) ∨
        indexing.conflict item = key ∧ indexing.Conflicts (items ++ [item]) item := by
  rw [exists_mem_concat]
  refine or_congr_left (exists_congr fun a => and_congr_right fun member => ?_)
  rw [conflicts_concat_old member]

theorem Indexing.clashes_concat_old {old : ε} (member : old ∈ items) :
    indexing.Clashes (items ++ [item]) old ↔ indexing.Clashes items old := by
  obtain ⟨kept, found⟩ := indexing.exists_first member
  simp only [Indexing.Clashes, found, first_concat_of_some found]

theorem Indexing.settled_concat (settled : ∀ a ∈ items, ¬ indexing.Clashes items a)
    (own : ¬ indexing.Clashes (items ++ [item]) item) : ∀ a ∈ items ++ [item], ¬ indexing.Clashes (items ++ [item]) a :=
  forall_mem_concat (fun a member clash => settled a member ((clashes_concat_old member).mp clash)) own

theorem SlotIndex.tells_empty (indexing : Indexing ε) : (empty : SlotIndex ε).Tells indexing [] where
  bySlot _ := rfl
  seenPairs := by simp [empty, Map.contains]
  conflicts := by simp [empty, Map.contains]
  settled := by simp

theorem SlotIndex.Tells.concat_known {index : SlotIndex ε} (tells : index.Tells indexing items) (member : item ∈ items) :
    index.Tells indexing (items ++ [item]) := by
  obtain ⟨kept, found⟩ := indexing.exists_first member
  refine ⟨fun slot => ?_, fun pair => ?_, fun key => ?_, settled_concat tells.settled ?_⟩
  · rw [tells.bySlot, first_concat_kept found]
  · rw [tells.seenPairs, exists_mem_concat, or_iff_left_of_imp]
    exact fun paired => ⟨item, member, paired⟩
  · rw [tells.conflicts, exists_conflicts_concat, or_iff_left_of_imp]
    exact fun own => ⟨item, member, own.1, (conflicts_concat_old member).mp own.2⟩
  · rw [clashes_concat_old member]
    exact tells.settled item member

/-- The step lemma: the index tells of one more item. -/
theorem SlotIndex.Tells.claim_ok {index next : SlotIndex ε} (tells : index.Tells indexing items)
    (faithful : indexing.Faithful (items ++ [item])) (claimed : index.claim indexing item = .ok next) :
    next.Tells indexing (items ++ [item]) := by
  have memberNew : item ∈ items ++ [item] := mem_append_right _ mem_cons_self
  by_cases seen : index.seenPairs.contains (indexing.pair item) = true
  · rw [claim, if_pos seen, Except.ok.injEq] at claimed
    subst claimed
    obtain ⟨old, member, paired⟩ := (tells.seenPairs _).mp seen
    obtain rfl := faithful.pair old (mem_append_left _ member) item memberNew paired
    exact tells.concat_known member
  · have seenPairs : ∀ pair, (index.seenPairs.set (indexing.pair item) true).contains pair = true ↔
        ∃ a ∈ items ++ [item], indexing.pair a = pair := by
      intro pair
      rw [Map.contains_set, Bool.or_eq_true, decide_eq_true_eq, tells.seenPairs, exists_mem_concat, or_comm, eq_comm]
    rw [claim, if_neg seen] at claimed
    rw [tells.bySlot] at claimed
    cases kept : indexing.first items (indexing.slot item) with
    | none =>
      rw [kept, Except.ok.injEq] at claimed
      subst claimed
      have self : indexing.first (items ++ [item]) (indexing.slot item) = some item := by
        rw [first_concat, kept, Option.none_or, if_pos rfl]
      refine ⟨fun slot => ?_, seenPairs, fun key => ?_, settled_concat tells.settled ?_⟩
      · dsimp only
        rw [Map.get_set, tells.bySlot, first_concat]
        by_cases here : slot = indexing.slot item
        · subst here
          rw [if_pos rfl, kept, Option.none_or, if_pos rfl]
        · rw [if_neg here, if_neg (Ne.symm here), Option.or_none]
      · rw [tells.conflicts, exists_conflicts_concat, or_iff_left]
        rintro ⟨_, other, found, different⟩
        rw [self, Option.some_inj] at found
        exact different (by rw [found])
      · rintro ⟨other, found, _, different⟩
        rw [self, Option.some_inj] at found
        exact different (by rw [found])
    | some previous =>
      rw [kept] at claimed
      dsimp only at claimed
      have stays : indexing.first (items ++ [item]) (indexing.slot item) = some previous :=
        first_concat_of_some kept
      have memberKept : previous ∈ items := (Claims.first_eq_some kept).1
      split at claimed
      · rename_i sameInput
        split at claimed
        · cases claimed
        · -- the kept item is this one, but then its pair has been seen
          rename_i sameReceipt
          have same := faithful.digests previous (mem_append_left _ memberKept) item memberNew sameInput
            (not_not.mp sameReceipt)
          exact absurd ((tells.seenPairs _).mpr ⟨previous, memberKept, by rw [same]⟩) seen
      · rename_i otherInput
        rw [Except.ok.injEq] at claimed
        subst claimed
        refine ⟨fun slot => ?_, seenPairs, fun key => ?_, settled_concat tells.settled ?_⟩
        · rw [tells.bySlot, first_concat_kept kept]
        · rw [Map.contains_set, Bool.or_eq_true, decide_eq_true_eq, tells.conflicts, exists_conflicts_concat,
            or_comm, eq_comm, and_iff_left]
          exact ⟨previous, stays, otherInput⟩
        · rintro ⟨other, found, same, _⟩
          rw [stays, Option.some_inj] at found
          exact otherInput (by rw [found, same])

theorem SlotIndex.Tells.claim_error {index : SlotIndex ε} (tells : index.Tells indexing items)
    (refused : index.claim indexing item = .error digest) : indexing.Clashes (items ++ [item]) item := by
  unfold claim at refused
  split at refused
  · cases refused
  · dsimp only at refused
    split at refused
    · cases refused
    · rename_i previous kept
      rw [tells.bySlot] at kept
      split at refused
      · rename_i sameInput
        split at refused
        · rename_i otherReceipt
          exact ⟨previous, first_concat_of_some kept, sameInput, otherReceipt⟩
        · cases refused
      · cases refused

theorem SlotIndex.readAll_concat {next : SlotIndex ε} :
    readAll indexing admitted invalid conflicting (items ++ [item]) = .ok next ↔
      ∃ index, readAll indexing admitted invalid conflicting items = .ok index ∧ admitted item = true ∧
        index.claim indexing item = .ok next := by
  unfold readAll
  rw [zipIdx_append, Fallible.foldlM_append_ok]
  refine exists_congr fun index => and_congr_right fun _ => ?_
  rw [zipIdx_cons, zipIdx_nil, Fallible.foldlM_cons_ok]
  unfold read
  cases admitted item with
  | false => simp
  | true =>
    cases index.claim indexing item with
    | error digest => simp
    | ok after => simp [pure, Except.pure]

theorem SlotIndex.readAll_admitted (read : readAll indexing admitted invalid conflicting items = .ok index) :
    ∀ item ∈ items, admitted item = true := by
  induction items using List.reverseRecOn generalizing index with
  | nil => simp
  | append_singleton items item ih =>
    obtain ⟨before, earlier, passes, _⟩ := readAll_concat.mp read
    exact forall_mem_concat (ih earlier) passes

/-- The run lemma: what the index says when all commands are read. -/
theorem SlotIndex.readAll_tells {index : SlotIndex ε} (faithful : indexing.Faithful items)
    (read : readAll indexing admitted invalid conflicting items = .ok index) :
    index.Tells indexing items := by
  induction items using List.reverseRecOn generalizing index with
  | nil =>
    cases read
    exact tells_empty indexing
  | append_singleton items item ih =>
    obtain ⟨before, earlier, _, claimed⟩ := readAll_concat.mp read
    have tells := ih (faithful.sublist fun a member => mem_append_left _ member) earlier
    exact tells.claim_ok faithful claimed

/-- All commands are read exactly if all are admitted and none clashes. -/
theorem SlotIndex.readAll_isOk_iff (faithful : indexing.Faithful items) :
    (∃ index, readAll indexing admitted invalid conflicting items = .ok index) ↔
      (∀ item ∈ items, admitted item = true) ∧ ∀ item ∈ items, ¬ indexing.Clashes items item := by
  constructor
  · rintro ⟨index, read⟩
    exact ⟨readAll_admitted read, (readAll_tells faithful read).settled⟩
  · induction items using List.reverseRecOn with
    | nil => exact fun _ => ⟨empty, rfl⟩
    | append_singleton items item ih =>
      rintro ⟨checked, settled⟩
      have part := faithful.sublist fun a member => mem_append_left [item] member
      obtain ⟨index, read⟩ := ih part ⟨fun a member => checked a (mem_append_left _ member), fun a member clash =>
        settled a (mem_append_left _ member) ((clashes_concat_old member).mpr clash)⟩
      have tells := readAll_tells part read
      cases claimed : index.claim indexing item with
      | error digest =>
        exact absurd (tells.claim_error claimed) (settled item (mem_append_right _ mem_cons_self))
      | ok next =>
        exact ⟨next, readAll_concat.mpr ⟨index, read, checked item (mem_append_right _ mem_cons_self),
          claimed⟩⟩

def Indexing.OneReceipt (indexing : Indexing ε) (items : List ε) : Prop :=
  ∀ a ∈ items, ∀ b ∈ items, indexing.input a = indexing.input b → indexing.receipt a = indexing.receipt b

instance (indexing : Indexing ε) (items : List ε) : Decidable (indexing.OneReceipt items) :=
  inferInstanceAs (Decidable (∀ a ∈ items, ∀ b ∈ items, _ → _))

/-- Commands that can be read in every order have one receipt for each input: two receipts at the front are refused. -/
theorem SlotIndex.oneReceipt_of_readAll (faithful : indexing.Faithful items)
    (read : ∀ others, items.Perm others → ∃ index, readAll indexing admitted invalid conflicting others = .ok index) :
    indexing.OneReceipt items := by
  classical
  intro a memberA b memberB input
  by_contra receipt
  have different : b ≠ a := fun same => receipt (by rw [same])
  have front : items.Perm (a :: b :: (items.erase a).erase b) :=
    (perm_cons_erase memberA).trans ((perm_cons_erase ((mem_erase_of_ne different).mpr memberB)).cons a)
  obtain ⟨index, read⟩ := read _ front
  have tells := readAll_tells (faithful.sublist fun _ member => front.mem_iff.mpr member) read
  refine tells.settled b (mem_cons_of_mem _ mem_cons_self) ⟨a, ?_, input, receipt⟩
  simp [Indexing.first, Claims.first, faithful.slot a memberA b memberB input]

/-- Two inputs compete for a slot. -/
def Indexing.Contested (indexing : Indexing ε) (items : List ε) (slot : Str) : Prop :=
  Claims.Contested indexing.slot indexing.input items slot

variable {index : SlotIndex ε} {items : List ε}
  (keyed : ∀ a ∈ items, ∀ b ∈ items, indexing.slot a = indexing.slot b → indexing.conflict a = indexing.conflict b)
include keyed

/-- Conflicts are held against the keys of contested slots. -/
theorem SlotIndex.Tells.conflicts_iff (tells : index.Tells indexing items) :
    index.conflicts.contains key = true ↔
      ∃ item ∈ items, indexing.conflict item = key ∧ indexing.Contested items (indexing.slot item) := by
  rw [tells.conflicts]
  constructor
  · rintro ⟨item, member, owner, kept, found, different⟩
    exact ⟨item, member, owner, Claims.contested_iff_first.mpr ⟨kept, found, item, member, rfl, different⟩⟩
  · rintro ⟨item, member, owner, contested⟩
    obtain ⟨kept, found, rival, memberRival, slot, different⟩ := Claims.contested_iff_first.mp contested
    refine ⟨rival, memberRival, ?_, kept, by rw [slot]; exact found, different⟩
    rw [keyed rival memberRival item member slot, owner]

/-- The order and number of the commands do not reach what is read off the index. -/
theorem SlotIndex.readAll_rearranged {admitted : ε → Bool} (same : ∀ a, a ∈ items ↔ a ∈ others)
    (faithful : indexing.Faithful items) (single : indexing.OneReceipt items)
    (read : readAll indexing admitted invalid conflicting items = .ok index) :
    ∃ other, readAll indexing admitted invalid conflicting others = .ok other ∧
      (∀ key, index.conflicts.contains key = other.conflicts.contains key) ∧
      ∀ slot, ¬ indexing.Contested items slot → index.bySlot.get slot = other.bySlot.get slot := by
  have faithful' := faithful.sublist fun a member => (same a).mpr member
  have checked := readAll_admitted read
  have tells := readAll_tells faithful read
  have settled : ∀ item ∈ others, ¬ indexing.Clashes others item := by
    rintro item member ⟨kept, found, input, receipt⟩
    have memberKept := (same kept).mpr (Claims.first_eq_some found).1
    exact receipt (single kept memberKept item ((same item).mpr member) input)
  obtain ⟨other, read'⟩ := (readAll_isOk_iff faithful').mpr
    ⟨fun item member => checked item ((same item).mpr member), settled⟩
  have tells' := readAll_tells faithful' read'
  have keyed' : ∀ a ∈ others, ∀ b ∈ others, indexing.slot a = indexing.slot b →
      indexing.conflict a = indexing.conflict b :=
    fun a memberA b memberB => keyed a ((same a).mpr memberA) b ((same b).mpr memberB)
  have contested : ∀ slot, indexing.Contested items slot ↔ indexing.Contested others slot :=
    Claims.contested_congr indexing.slot indexing.input same
  refine ⟨other, read', fun key => ?_, fun slot calm => ?_⟩
  · rw [Bool.eq_iff_iff, tells.conflicts_iff keyed, tells'.conflicts_iff keyed']
    simp only [same, contested]
  · have firsts := Claims.map_first_eq (f := id) same calm fun a memberA b memberB _ _ input =>
      faithful.digests a memberA b memberB input (single a memberA b memberB input)
    rw [Option.map_id] at firsts
    rw [tells.bySlot, tells'.bySlot]
    exact firsts

/-- Without the commands of those who have conflicts, everything is read and there are no conflicts. -/
theorem SlotIndex.readAll_filter (faithful : indexing.Faithful items)
    (read : readAll indexing admitted invalid conflicting items = .ok index) :
    let keep := fun item => !index.conflicts.contains (indexing.conflict item)
    ∃ calm, readAll indexing admitted invalid conflicting (items.filter keep) = .ok calm ∧
      (∀ key, calm.conflicts.contains key = false) ∧
      ∀ slot, calm.bySlot.get slot = (index.bySlot.get slot).filter keep := by
  intro keep
  have checked := readAll_admitted read
  have tells := readAll_tells faithful read
  have part : ∀ a ∈ items.filter keep, a ∈ items := fun a member => (mem_filter.mp member).1
  have faithful' := faithful.sublist part
  have firsts : ∀ slot, indexing.first (items.filter keep) slot = (indexing.first items slot).filter keep := by
    refine Claims.first_filter fun a memberA b memberB same => ?_
    simp only [keep, keyed a memberA b memberB same]
  have kept : ∀ {slot first}, indexing.first (items.filter keep) slot = some first →
      indexing.first items slot = some first := by
    intro slot first found
    rw [firsts] at found
    exact (Option.filter_eq_some_iff.mp found).1
  have settled : ∀ item ∈ items.filter keep, ¬ indexing.Clashes (items.filter keep) item := by
    rintro item member ⟨first, found, clash⟩
    exact tells.settled item (part item member) ⟨first, kept found, clash⟩
  obtain ⟨calm, read'⟩ := (readAll_isOk_iff faithful').mpr
    ⟨fun item member => checked item (part item member), settled⟩
  have tells' := readAll_tells faithful' read'
  refine ⟨calm, read', fun key => ?_, fun slot => by rw [tells'.bySlot, tells.bySlot, firsts]⟩
  rw [← Bool.not_eq_true, tells'.conflicts]
  rintro ⟨item, member, _, first, found, different⟩
  have marked := (tells.conflicts (indexing.conflict item)).mpr
    ⟨item, part item member, rfl, first, kept found, different⟩
  have unmarked := (mem_filter.mp member).2
  simp [keep, marked] at unmarked

end

end ConvergeAudit.Replay
