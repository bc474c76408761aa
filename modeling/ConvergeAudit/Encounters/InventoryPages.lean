import ConvergeAudit.Js.Collections
import ConvergeAudit.Js.Values
import Mathlib.Algebra.BigOperators.Group.List.Basic
import Mathlib.Algebra.Order.Ring.Int

/-!
`game/encounter/inventory-checkpoint.ts`: a page is held against the checkpoint alone, so the empty ordinals of a walk
are bounded page by page.
-/

namespace ConvergeAudit.Encounters
open Moon Js
open List hiding after

inductive InventoryOperation where
  | append
  | retireEmpty

/-- With the fields that only statements of version 2 have. -/
inductive InventoryVersion where
  | version1
  | version2 (operation : InventoryOperation) (retiredEmptyCount : Int)

structure InventoryCheckpointStatement where
  version : InventoryVersion
  authorityKey : Str
  unit : Str
  ownerPublicKey : Str
  rulesId : Str
  revision : Int
  previousId : Option Str
  batchDigest : Str
  root : Str
  receiptCount : Int
  itemCount : Int
  createdAt : Int

structure InventoryCheckpoint where
  statement : InventoryCheckpointStatement
  checkpointId : Str
  signature : Str

structure OrdinalRange where
  first : Int
  last : Int

/-- The records are only counted; pages of version 2 have positions and ranges. -/
structure InventoryPage (ρ : Type) where
  checkpointId : Str
  after : Int
  next : Option Int
  records : List ρ
  positions : Option (List Int)
  emptyRanges : Option (List OrdinalRange)

def encounterRules : Str := "reference-game-encounter-v1"

def inventoryPageSize : Nat := 3

def maxInventoryReceipts : Int := maxSafeInteger

def inventoryRetiredCount (cp : InventoryCheckpoint) : Int :=
  match cp.statement.version with
  | .version1 => 0
  | .version2 _ retiredEmptyCount => retiredEmptyCount

def InventoryCheckpoint.json (value : InventoryCheckpoint) : Str :=
  let s := value.statement
  let versioned : List (Str × Str) := match s.version with
    | .version1 => [("version", jsonNumber 1)]
    | .version2 operation retiredEmptyCount =>
      [("version", jsonNumber 2), ("operation", jsonString (match operation with
        | .append => "append"
        | .retireEmpty => "retire-empty")), ("retiredEmptyCount", jsonNumber retiredEmptyCount)]
  let common : List (Str × Str) :=
    [("authorityKey", jsonString s.authorityKey), ("unit", jsonString s.unit),
      ("ownerPublicKey", jsonString s.ownerPublicKey), ("rulesId", jsonString s.rulesId),
      ("revision", jsonNumber s.revision), ("previousId", s.previousId.elim "null" jsonString),
      ("batchDigest", jsonString s.batchDigest), ("root", jsonString s.root),
      ("receiptCount", jsonNumber s.receiptCount), ("itemCount", jsonNumber s.itemCount),
      ("createdAt", jsonNumber s.createdAt)]
  jsonObject [("statement", jsonObject (versioned ++ common)), ("checkpointId", jsonString value.checkpointId),
    ("signature", jsonString value.signature)]

def validInventoryCheckpoint (value : InventoryCheckpoint) : Bool :=
  let s := value.statement
  let retired := inventoryRetiredCount value
  isDigest value.checkpointId && isHex 128 value.signature &&
    (match s.version with
      | .version1 => true
      | .version2 _ _ => safeNonNegativeInteger retired && retired > 0) &&
    s.rulesId == encounterRules && boundedText s.unit 128 && isDigest s.authorityKey && isDigest s.ownerPublicKey &&
    safeNonNegativeInteger s.revision && s.revision > 0 && s.previousId.all isDigest &&
    (s.revision == 1) == s.previousId.isNone && isDigest s.batchDigest && isDigest s.root &&
    safeNonNegativeInteger s.receiptCount && s.receiptCount > 0 && s.receiptCount ≤ maxInventoryReceipts &&
    safeNonNegativeInteger s.itemCount && s.itemCount ≤ s.receiptCount && safeNonNegativeInteger retired &&
    retired ≤ s.receiptCount - s.itemCount && max 0 (s.revision - s.receiptCount) ≤ retired &&
    safeNonNegativeInteger s.createdAt && utf8ByteLength value.json.units ≤ 2048

/-- The loop over the ranges that a page declares empty. -/
def emptyRangesValid (cp : InventoryCheckpoint) (retired : Int) : List OrdinalRange → Bool
  | [] => true
  | range :: rest =>
    let retired' := retired + (range.last - range.first + 1)
    safeNonNegativeInteger range.first && safeNonNegativeInteger range.last && range.first ≤ range.last &&
      range.last ≤ cp.statement.receiptCount && safeNonNegativeInteger retired' &&
      retired' ≤ inventoryRetiredCount cp && emptyRangesValid cp retired' rest

/-- Where the ranges end, if each starts right after the one before. -/
def advanceCursor (cursor : Int) : List OrdinalRange → Option Int
  | [] => some cursor
  | range :: rest => if range.first ≠ cursor + 1 then none else advanceCursor range.last rest

section
variable {ρ : Type}

/-- The empty ranges of the page, then a range for each position. -/
def InventoryPage.ranges (page : InventoryPage ρ) : List OrdinalRange :=
  page.emptyRanges.getD [] ++ (page.positions.getD []).map fun ordinal => ⟨ordinal, ordinal⟩

def validInventoryPage (value : InventoryPage ρ) (cp : InventoryCheckpoint) (after : Int) : Bool :=
  let count := cp.statement.receiptCount
  let ends (cursor : Int) : Option Int := if cursor < count then some cursor else none
  safeNonNegativeInteger after && after < count && value.checkpointId == cp.checkpointId && value.after == after &&
    value.records.length ≤ inventoryPageSize &&
    match cp.statement.version, value.positions, value.emptyRanges with
    | .version1, none, none =>
      (value.records.length : Int) == min (inventoryPageSize : Int) (count - after) &&
        value.next == ends (after + value.records.length)
    | .version2 _ _, some positions, some emptyRanges =>
      positions.length == value.records.length && positions.all safeNonNegativeInteger &&
        emptyRanges.length ≤ inventoryPageSize && emptyRangesValid cp 0 emptyRanges &&
        value.ranges.length > 0 && value.ranges.length ≤ inventoryPageSize &&
        match advanceCursor after (sortOn OrdinalRange.first value.ranges) with
        | none => false
        | some cursor =>
          cursor ≤ count && value.next == ends cursor && (cursor == count || value.ranges.length == inventoryPageSize)
    | _, _, _ => false

/-- The pages follow each other from `after` to the end, and each is accepted. -/
def CompleteWalk (cp : InventoryCheckpoint) (after : Int) : List (InventoryPage ρ) → Prop
  | [] => False
  | page :: rest => validInventoryPage page cp after = true ∧
      match page.next with
      | none => rest = []
      | some next => CompleteWalk cp next rest

def OrdinalRange.ordinals (range : OrdinalRange) : List Int :=
  countFrom range.first (range.last + 1 - range.first).toNat

/-- In the order of the ranges; pages of version 1 go on from where the one before ended. -/
def InventoryPage.ordinals (page : InventoryPage ρ) : List Int :=
  match page.positions with
  | none => countFrom (page.after + 1) page.records.length
  | some _ => (sortOn OrdinalRange.first page.ranges).flatMap OrdinalRange.ordinals

def InventoryPage.declaredEmpty (page : InventoryPage ρ) : Nat :=
  ((page.emptyRanges.getD []).flatMap OrdinalRange.ordinals).length

theorem countFrom_add (start : Int) (m n : Nat) :
    countFrom start m ++ countFrom (start + m) n = countFrom start (m + n) := by
  simp [countFrom, range_add, Function.comp_def, Int.add_assoc]

variable {ranges : List OrdinalRange}

theorem advanceCursor_some (nonempty : ∀ range ∈ ranges, range.first ≤ range.last)
    (advanced : advanceCursor cursor ranges = some stop) :
    cursor + ranges.length ≤ stop ∧
      ranges.flatMap OrdinalRange.ordinals = countFrom (cursor + 1) (stop - cursor).toNat := by
  induction ranges generalizing cursor with
  | nil =>
    cases advanced
    simp [countFrom]
  | cons range rest ih =>
    unfold advanceCursor at advanced
    split at advanced
    · cases advanced
    · rename_i starts
      obtain ⟨later, covered⟩ := ih (fun other member => nonempty other (mem_cons_of_mem _ member)) advanced
      have ordered := nonempty range mem_cons_self
      have joined := countFrom_add range.first (range.last + 1 - range.first).toNat (stop - range.last).toNat
      rw [show range.first + ((range.last + 1 - range.first).toNat : Int) = range.last + 1 by omega] at joined
      rw [flatMap_cons, covered, OrdinalRange.ordinals, joined, length_cons]
      refine ⟨by omega, ?_⟩
      congr 1 <;> omega

theorem emptyRangesValid_spec (within : retired ≤ inventoryRetiredCount cp)
    (valid : emptyRangesValid cp retired ranges = true) :
    (∀ range ∈ ranges, range.first ≤ range.last) ∧
      retired + (ranges.flatMap OrdinalRange.ordinals).length ≤ inventoryRetiredCount cp := by
  induction ranges generalizing retired with
  | nil => simpa using within
  | cons range rest ih =>
    simp only [emptyRangesValid, Bool.and_eq_true, decide_eq_true_eq] at valid
    obtain ⟨⟨⟨⟨⟨_, ordered⟩, _⟩, _⟩, budget⟩, later⟩ := valid
    obtain ⟨nonempty, total⟩ := ih budget later
    refine ⟨forall_mem_cons.mpr ⟨ordered, nonempty⟩, ?_⟩
    rw [flatMap_cons, length_append, OrdinalRange.ordinals, length_countFrom]
    omega

def InventoryPage.Covers (page : InventoryPage ρ) (cp : InventoryCheckpoint) : Prop :=
  page.declaredEmpty ≤ inventoryRetiredCount cp ∧ page.ordinals.length = page.declaredEmpty + page.records.length

/-- An accepted page covers the ordinals up to the cursor that it names next. -/
theorem exists_cursor {page : InventoryPage ρ} (nonneg : 0 ≤ inventoryRetiredCount cp)
    (valid : validInventoryPage page cp after = true) :
    page.Covers cp ∧ ∃ cursor, after < cursor ∧ cursor ≤ cp.statement.receiptCount ∧
      page.next = (if cursor < cp.statement.receiptCount then some cursor else none) ∧
      page.ordinals = countFrom (after + 1) (cursor - after).toNat := by
  unfold validInventoryPage at valid
  simp only [Bool.and_eq_true, decide_eq_true_eq, beq_iff_eq] at valid
  obtain ⟨⟨⟨⟨⟨_, below⟩, _⟩, position⟩, _⟩, shape⟩ := valid
  unfold InventoryPage.Covers InventoryPage.declaredEmpty
  split at shape
  · rename_i given declared
    simp only [Bool.and_eq_true, beq_iff_eq] at shape
    have size : (inventoryPageSize : Int) = 3 := rfl
    refine ⟨by simpa [InventoryPage.ordinals, given, declared] using nonneg, after + page.records.length, by omega,
      by omega, shape.2, ?_⟩
    rw [InventoryPage.ordinals, given, position, add_sub_cancel_left, Int.toNat_natCast]
  · rename_i positions emptyRanges version given declared
    simp only [Bool.and_eq_true, decide_eq_true_eq, beq_iff_eq] at shape
    obtain ⟨⟨⟨⟨⟨⟨recorded, _⟩, _⟩, within⟩, occupied⟩, _⟩, reached⟩ := shape
    split at reached
    · cases reached
    · rename_i cursor advanced
      simp only [Bool.and_eq_true, decide_eq_true_eq, beq_iff_eq] at reached
      obtain ⟨nonempty, budget⟩ := emptyRangesValid_spec nonneg within
      have ordered : ∀ range ∈ sortOn OrdinalRange.first page.ranges, range.first ≤ range.last := by
        intro range member
        simp only [mem_sortOn, InventoryPage.ranges, declared, given, Option.getD_some, mem_append, mem_map] at member
        rcases member with empty | ⟨ordinal, _, rfl⟩
        · exact nonempty range empty
        · exact Int.le_refl _
      obtain ⟨moved, covered⟩ := advanceCursor_some ordered advanced
      rw [sortOn_perm.length_eq] at moved
      refine ⟨⟨?_, ?_⟩, cursor, by omega, reached.1.1, reached.1.2, ?_⟩
      · simpa [declared] using budget
      · simp only [InventoryPage.ordinals, given, (sortOn_perm.flatMap_right _).length_eq]
        simp [InventoryPage.ranges, declared, given, ← recorded, OrdinalRange.ordinals, flatMap_map]
      · rw [InventoryPage.ordinals, given]
        exact covered
  · cases shape

theorem walk_covers {pages : List (InventoryPage ρ)} (nonneg : 0 ≤ inventoryRetiredCount cp)
    (walk : CompleteWalk cp after pages) :
    (pages.length : Int) ≤ cp.statement.receiptCount - after ∧ (∀ page ∈ pages, page.Covers cp) ∧
      pages.flatMap InventoryPage.ordinals = countFrom (after + 1) (cp.statement.receiptCount - after).toNat := by
  induction pages generalizing after with
  | nil => exact walk.elim
  | cons page rest ih =>
    obtain ⟨valid, following⟩ := walk
    obtain ⟨covers, cursor, advances, inside, next, ordinals⟩ := exists_cursor nonneg valid
    rw [next] at following
    rw [flatMap_cons, length_cons, forall_mem_cons, ordinals]
    by_cases more : cursor < cp.statement.receiptCount
    · rw [if_pos more] at following
      obtain ⟨short, later, covered⟩ := ih following
      have joined := countFrom_add (after + 1) (cursor - after).toNat (cp.statement.receiptCount - cursor).toNat
      rw [show after + 1 + ((cursor - after).toNat : Int) = cursor + 1 by omega] at joined
      rw [covered, joined]
      exact ⟨by omega, ⟨covers, later⟩, by congr 1; omega⟩
    · rw [if_neg more] at following
      obtain rfl := following
      obtain rfl : cursor = cp.statement.receiptCount := by omega
      exact ⟨by simp; omega, ⟨covers, by simp⟩, by simp⟩

/-- A walk delivers every ordinal once, as a record or as one that its page declares empty. -/
theorem inventory_walk_covers {cp : InventoryCheckpoint} {pages : List (InventoryPage ρ)}
    (accepted : validInventoryCheckpoint cp = true) (walk : CompleteWalk cp 0 pages) :
    (pages.length : Int) ≤ cp.statement.receiptCount ∧
    pages.flatMap InventoryPage.ordinals = countFrom 1 cp.statement.receiptCount.toNat ∧
    ((pages.map InventoryPage.declaredEmpty).sum + (pages.flatMap InventoryPage.records).length : Nat) =
      cp.statement.receiptCount ∧
    (∀ page ∈ pages, page.declaredEmpty ≤ inventoryRetiredCount cp) ∧
    (cp.statement.version = .version1 →
      ((pages.flatMap InventoryPage.records).length : Int) = cp.statement.receiptCount) := by
  simp only [validInventoryCheckpoint, Bool.and_eq_true] at accepted
  have nonneg : 0 ≤ inventoryRetiredCount cp := (safeNonNegativeInteger_iff.mp accepted.1.1.1.1.2).1
  obtain ⟨short, covers, covered⟩ := walk_covers nonneg walk
  rw [Int.sub_zero] at short covered
  have lengths := congrArg length covered
  rw [length_countFrom, length_flatMap, map_congr_left fun page member => (covers page member).2, sum_map_add,
    ← length_flatMap] at lengths
  refine ⟨short, covered, by omega, fun page member => (covers page member).1, fun version => ?_⟩
  have none : (pages.map InventoryPage.declaredEmpty).sum = 0 := by
    refine sum_eq_zero (forall_mem_map.mpr fun page member => ?_)
    have budget := (covers page member).1
    simp only [inventoryRetiredCount, version] at budget
    omega
  omega

end

namespace InventorySample

def digest : Str := ⟨replicate 64 48⟩

def checkpoint : InventoryCheckpoint where
  statement :=
    { version := .version2 .retireEmpty 2
      authorityKey := digest
      unit := "unit"
      ownerPublicKey := digest
      rulesId := encounterRules
      revision := 2
      previousId := some digest
      batchDigest := digest
      root := digest
      receiptCount := 8
      itemCount := 0
      createdAt := 0 }
  checkpointId := digest
  signature := digest ++ digest

/-- Two pages of four ordinals, of which each declares the first two empty. -/
def pages : List (InventoryPage Unit) :=
  [⟨digest, 0, some 4, [(), ()], some [3, 4], some [⟨1, 2⟩]⟩,
    ⟨digest, 4, none, [(), ()], some [7, 8], some [⟨5, 6⟩]⟩]

theorem accepted : validInventoryCheckpoint checkpoint = true ∧ CompleteWalk checkpoint 0 pages :=
  ⟨by decide +kernel, by decide +kernel, by decide +kernel, rfl⟩

end InventorySample

open InventorySample

theorem inventory_walk_covers_two_pages : pages.flatMap InventoryPage.ordinals = countFrom 1 8 :=
  (inventory_walk_covers accepted.1 accepted.2).2.1

/-- Each page keeps to the count of the checkpoint, and the walk hides twice as many. -/
theorem inventory_walk_hides_receipts :
    validInventoryCheckpoint checkpoint = true ∧ CompleteWalk checkpoint 0 pages ∧
      inventoryRetiredCount checkpoint = 2 ∧ (pages.map InventoryPage.declaredEmpty).sum = 4 ∧
      (pages.flatMap InventoryPage.records).length = 4 :=
  ⟨accepted.1, accepted.2, rfl, rfl, rfl⟩

end ConvergeAudit.Encounters
