import ConvergeAudit.Bft.Types
import ConvergeAudit.Moon.Map

/-!
The loop with which a collector reads its roster. An entry that is empty or repeats an id or a key spoils the whole
roster; the entries before and after it are still indexed.
-/

namespace ConvergeAudit.Quorum
open Moon Bft List

/-- Ids are named, keys are present, and neither is shared. -/
structure SoundRoster (entries : List (Str × PublicKey)) : Prop where
  named : ∀ entry ∈ entries, entry.1 ≠ Str.empty
  keyed : ∀ entry ∈ entries, entry.2.text ≠ Str.empty
  ids_nodup : (entries.map Prod.fst).Nodup
  keys_nodup : (entries.map Prod.snd).Nodup

/-- The maps a collector builds from its roster, and `roster_valid`. -/
structure Enrolment where
  keys : Map Str PublicKey
  indices : Map Str Nat
  usedKeys : Map Str Bool
  valid : Bool

namespace Enrolment

def enter (roster : Enrolment) (index : Nat) (entry : Str × PublicKey) : Enrolment :=
  if entry.1 = Str.empty ∨ entry.2.text = Str.empty ∨ roster.keys.contains entry.1 ∨
      roster.usedKeys.contains entry.2.text then
    { roster with valid := false }
  else
    { roster with
      keys := roster.keys.set entry.1 entry.2
      indices := roster.indices.set entry.1 index
      usedKeys := roster.usedKeys.set entry.2.text true }

def enterAll (roster : Enrolment) (index : Nat) : List (Str × PublicKey) → Enrolment
  | [] => roster
  | entry :: rest => enterAll (roster.enter index entry) (index + 1) rest

end Enrolment

def enrol (valid : Bool) (entries : List (Str × PublicKey)) : Enrolment :=
  Enrolment.enterAll ⟨.empty, .empty, .empty, valid⟩ 0 entries

theorem soundRoster_nil : SoundRoster [] := by
  constructor <;> simp

theorem soundRoster_concat (entry : Str × PublicKey) :
    SoundRoster (seen ++ [entry]) ↔
      SoundRoster seen ∧ entry.1 ≠ Str.empty ∧ entry.2.text ≠ Str.empty ∧
        entry.1 ∉ seen.map Prod.fst ∧ entry.2 ∉ seen.map Prod.snd := by
  constructor
  · rintro ⟨named, keyed, ids, keys⟩
    rw [map_append, map_singleton, nodup_append] at ids keys
    refine ⟨⟨fun e member => named e (by simp [member]), fun e member => keyed e (by simp [member]), ids.1, keys.1⟩,
      named entry (by simp), keyed entry (by simp), ?_, ?_⟩
    · intro member
      exact ids.2.2 _ member _ (by simp) rfl
    · intro member
      exact keys.2.2 _ member _ (by simp) rfl
  · rintro ⟨⟨named, keyed, ids, keys⟩, hasName, hasKey, freshId, freshKey⟩
    refine ⟨?_, ?_, ?_, ?_⟩
    · exact Lib.forall_mem_concat named hasName
    · exact Lib.forall_mem_concat keyed hasKey
    · exact Lib.nodup_map_concat ids fun known member same => freshId (mem_map.mpr ⟨known, member, same⟩)
    · exact Lib.nodup_map_concat keys fun known member same => freshKey (mem_map.mpr ⟨known, member, same⟩)

/-- The maps list exactly the entries read so far, as long as those are sound. -/
structure Enrolment.Lists (roster : Enrolment) (seen : List (Str × PublicKey)) : Prop where
  keys_get : ∀ id key, roster.keys.get id = some key ↔ (id, key) ∈ seen
  indices_get : ∀ id index, roster.indices.get id = some index ↔ ∃ key, seen[index]? = some (id, key)
  usedKeys_contains : ∀ key : PublicKey, roster.usedKeys.contains key.text = true ↔ key ∈ seen.map Prod.snd

structure Enrolment.Reads (start : Bool) (seen : List (Str × PublicKey)) (roster : Enrolment) : Prop where
  valid_iff : roster.valid = true ↔ start = true ∧ SoundRoster seen
  lists : SoundRoster seen → roster.Lists seen

variable {roster : Enrolment}

namespace Enrolment

theorem Lists.contains_iff (lists : roster.Lists seen) (id : Str) :
    roster.keys.contains id = true ↔ id ∈ seen.map Prod.fst := by
  rw [Map.contains, Option.isSome_iff_exists]
  constructor
  · rintro ⟨key, found⟩
    exact mem_map.mpr ⟨(id, key), (lists.keys_get id key).mp found, rfl⟩
  · intro member
    obtain ⟨⟨entryId, key⟩, present, same⟩ := mem_map.mp member
    subst same
    exact ⟨key, (lists.keys_get entryId key).mpr present⟩

theorem Lists.spoils_iff (lists : roster.Lists seen) (sound : SoundRoster seen) (entry : Str × PublicKey) :
    (entry.1 = Str.empty ∨ entry.2.text = Str.empty ∨ roster.keys.contains entry.1 ∨
      roster.usedKeys.contains entry.2.text) ↔ ¬ SoundRoster (seen ++ [entry]) := by
  rw [soundRoster_concat, lists.contains_iff, lists.usedKeys_contains]
  constructor
  · rintro (noName | noKey | knownId | knownKey) ⟨_, hasName, hasKey, freshId, freshKey⟩
    · exact hasName noName
    · exact hasKey noKey
    · exact freshId knownId
    · exact freshKey knownKey
  · intro unsound
    by_contra clean
    push Not at clean
    exact unsound ⟨sound, clean⟩

theorem Lists.set (lists : roster.Lists seen) (freshId : entry.1 ∉ seen.map Prod.fst) :
    Lists { roster with
      keys := roster.keys.set entry.1 entry.2
      indices := roster.indices.set entry.1 seen.length
      usedKeys := roster.usedKeys.set entry.2.text true } (seen ++ [entry]) := by
  obtain ⟨entryId, entryKey⟩ := entry
  have unseen : ∀ key, (entryId, key) ∉ seen := fun key member => freshId (mem_map.mpr ⟨_, member, rfl⟩)
  constructor
  · intro id key
    rw [Map.get_set, mem_append, mem_singleton]
    by_cases same : id = entryId
    · subst same
      simp [unseen key, eq_comm]
    · simp [same, lists.keys_get]
  · intro id index
    simp only [Map.get_set, Lib.getElem?_concat_iff, exists_or]
    by_cases same : id = entryId
    · subst same
      rw [if_pos rfl, Option.some_inj, or_iff_right (not_exists.mpr fun key found => unseen key (mem_of_getElem? found))]
      simp [eq_comm]
    · simp [same, lists.indices_get, Ne.symm same]
  · intro key
    rw [Map.contains_set, Bool.or_eq_true, decide_eq_true_iff, lists.usedKeys_contains]
    obtain ⟨text⟩ := key
    obtain ⟨entryText⟩ := entryKey
    simp [or_comm]

theorem Reads.enter (reads : Reads start seen roster) (entry : Str × PublicKey) :
    Reads start (seen ++ [entry]) (roster.enter seen.length entry) := by
  by_cases sound : SoundRoster seen
  · have lists := reads.lists sound
    have spoils := lists.spoils_iff sound entry
    unfold Enrolment.enter
    by_cases grown : SoundRoster (seen ++ [entry])
    · rw [if_neg (fun spoiled => spoils.mp spoiled grown)]
      refine ⟨?_, fun _ => lists.set ((soundRoster_concat _).mp grown).2.2.2.1⟩
      simp only [reads.valid_iff, sound, grown]
    · rw [if_pos (spoils.mpr grown)]
      exact ⟨by simp [grown], fun sound => absurd sound grown⟩
  · have unsound : ¬ SoundRoster (seen ++ [entry]) := fun grown => sound ((soundRoster_concat _).mp grown).1
    have spoiled : roster.valid ≠ true := fun valid => sound (reads.valid_iff.mp valid).2
    refine ⟨?_, fun grown => absurd grown unsound⟩
    unfold Enrolment.enter
    split <;> simp [unsound, spoiled]

theorem Reads.enterAll (reads : Reads start seen roster) (rest : List (Str × PublicKey)) :
    Reads start (seen ++ rest) (roster.enterAll seen.length rest) := by
  induction rest generalizing seen roster with
  | nil => simpa [Enrolment.enterAll] using reads
  | cons entry rest ih =>
    have next := ih (reads.enter entry)
    simpa [Enrolment.enterAll, append_assoc] using next

end Enrolment

theorem enrol_reads (start : Bool) (entries : List (Str × PublicKey)) :
    Enrolment.Reads start entries (enrol start entries) := by
  have blank : Enrolment.Reads start [] ⟨.empty, .empty, .empty, start⟩ := by
    refine ⟨by simp [soundRoster_nil], fun _ => ⟨?_, ?_, ?_⟩⟩ <;> simp [Map.contains]
  simpa [enrol] using blank.enterAll entries

theorem SoundRoster.index_unique (sound : SoundRoster entries) {i j : Nat} {id : Str}
    (left : entries[i]? = some (id, key)) (right : entries[j]? = some (id, other)) : i = j ∧ key = other := by
  have leftId : (entries.map Prod.fst)[i]? = some id := by simp [left]
  have rightId : (entries.map Prod.fst)[j]? = some id := by simp [right]
  obtain ⟨inside, _⟩ := List.getElem?_eq_some_iff.mp leftId
  have position := (getElem?_inj inside sound.ids_nodup).mp (leftId.trans rightId.symm)
  subst position
  rw [left] at right
  exact ⟨rfl, congrArg Prod.snd (Option.some_inj.mp right)⟩

theorem Enrolment.Lists.lookup_iff {entries : List (Str × PublicKey)} (lists : roster.Lists entries)
    (sound : SoundRoster entries) (id : Str) (index : Nat) (key : PublicKey) :
    (roster.indices.get id = some index ∧ roster.keys.get id = some key) ↔ entries[index]? = some (id, key) := by
  rw [lists.indices_get, lists.keys_get]
  constructor
  · rintro ⟨⟨other, found⟩, member⟩
    obtain ⟨position, present⟩ := getElem?_of_mem member
    obtain ⟨same, keys⟩ := sound.index_unique found present
    rw [same, present]
  · intro found
    exact ⟨⟨key, found⟩, mem_of_getElem? found⟩

end ConvergeAudit.Quorum
