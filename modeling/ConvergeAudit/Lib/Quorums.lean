import Mathlib.Data.Finset.Card
import Mathlib.Data.Int.Notation

/-!
Two quorums of all but `f` of more than `3 f` members share a member that is not faulty, if at most `f` of them are.
-/

namespace ConvergeAudit.Lib

variable {α : Type*} [DecidableEq α]

theorem card_le_card_inter_add {members left right : Finset α} (leftMembers : left ⊆ members)
    (rightMembers : right ⊆ members) : left.card + right.card ≤ (left ∩ right).card + members.card := by
  have union := Finset.card_le_card (Finset.union_subset leftMembers rightMembers)
  have counted := Finset.card_union_add_card_inter left right
  omega

theorem exists_correct_in_both {members left right faulty : Finset α} {faults : ℤ} (leftMembers : left ⊆ members)
    (rightMembers : right ⊆ members) (enough : 3 * faults < members.card) (budget : faulty.card ≤ faults)
    (leftQuorum : members.card - faults ≤ left.card) (rightQuorum : members.card - faults ≤ right.card) :
    ∃ member ∈ left ∩ right, member ∉ faulty := by
  have overlap := card_le_card_inter_add leftMembers rightMembers
  have more : faulty.card < (left ∩ right).card := by omega
  obtain ⟨member, shared, correct⟩ := Finset.exists_mem_notMem_of_card_lt_card more
  exact ⟨member, shared, correct⟩

theorem count_marks_le_card {roster : List α} (distinct : roster.Nodup) {marks : List Bool} {marked : Finset α}
    (each : ∀ index : ℕ, marks[index]? = some true → ∃ member ∈ marked, roster[index]? = some member) :
    marks.count true ≤ marked.card := by
  induction marks generalizing roster marked with
  | nil => simp
  | cons mark rest ih =>
    have later : ∀ index : ℕ, rest[index]? = some true → ∃ member ∈ marked, roster.tail[index]? = some member := by
      intro index found
      obtain ⟨member, present, position⟩ := each (index + 1) (by simpa using found)
      exact ⟨member, present, by simpa using position⟩
    cases mark with
    | false => simpa using ih distinct.tail later
    | true =>
      obtain ⟨first, present, position⟩ := each 0 rfl
      obtain ⟨others, rfl⟩ : ∃ others, roster = first :: others := by
        cases roster with
        | nil => simp at position
        | cons head others => exact ⟨others, by simpa using position⟩
      have fresh := (List.nodup_cons.mp distinct).1
      -- the first member is counted once: no later mark stands for it again
      have counted : rest.count true ≤ (marked.erase first).card := by
        apply ih (List.nodup_cons.mp distinct).2
        intro index found
        obtain ⟨member, kept, place⟩ := later index found
        have other : member ≠ first := by
          rintro rfl
          exact fresh (List.mem_of_getElem? place)
        exact ⟨member, Finset.mem_erase.mpr ⟨other, kept⟩, place⟩
      have smaller := Finset.card_erase_add_one present
      rw [List.count_cons_self]
      omega

end ConvergeAudit.Lib
