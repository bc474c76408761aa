import ConvergeAudit.Keys.Ledger

/-!
`Admissible` is what the planner leaves unchecked: a command that it plans gives a valid image exactly if it holds.
-/

namespace ConvergeAudit.Keys

open Moon Js Lib.Fallible List

/-- The records and events of a key that has been provisioned. -/
structure KeyLedger (records : List VerificationKeyRecord) (events : List VerificationKeyLifecycleEvent) : Prop where
  nonempty : records ≠ []
  versions : records.map (·.keyVersion) = countFrom 1 records.length
  revisions : events.map (·.lifecycleRevision) = countFrom 1 events.length
  opened : ∃ opening later, events = opening :: later ∧ opening.eventKind = .provision ∧ opening.keyVersion = 1 ∧
    ∀ event ∈ later, event.eventKind ≠ .provision
  times : events.Pairwise fun earlier later => earlier.committedAtMs ≤ later.committedAtMs
  rotations : (eventsOfKind .rotate events).map (·.keyVersion) = countFrom 2 (records.length - 1)
  revokedOnce : ((eventsOfKind .revoke events).map (·.keyVersion)).Nodup
  revoked : ∀ keyVersion, keyVersion ∈ (eventsOfKind .revoke events).map (·.keyVersion) ↔
    keyVersion ∈ revokedVersions records

theorem eventsOfKind_concat : eventsOfKind kind (events ++ [event]) =
      eventsOfKind kind events ++ if event.eventKind = kind then [event] else [] := by
  by_cases same : event.eventKind = kind <;> simp [eventsOfKind, same]

theorem mem_revokedVersions :
    keyVersion ∈ revokedVersions records ↔
      ∃ record ∈ records, record.revokedAtMs.isSome = true ∧ record.keyVersion = keyVersion := by
  simp [revokedVersions, and_assoc]

section
variable (keyVersion time : Int) (record : VerificationKeyRecord)

@[simp] theorem endVersion_keyVersion : (endVersion keyVersion time record).keyVersion = record.keyVersion := by
  unfold endVersion
  split <;> rfl

@[simp] theorem endVersion_keyId : (endVersion keyVersion time record).keyId = record.keyId := by
  unfold endVersion
  split <;> rfl

@[simp] theorem endVersion_revokedAtMs : (endVersion keyVersion time record).revokedAtMs = record.revokedAtMs := by
  unfold endVersion
  split <;> rfl

@[simp] theorem revokeVersion_keyVersion : (revokeVersion keyVersion time record).keyVersion = record.keyVersion := by
  unfold revokeVersion
  split <;> rfl

@[simp] theorem revokeVersion_keyId : (revokeVersion keyVersion time record).keyId = record.keyId := by
  unfold revokeVersion
  split <;> rfl

end

namespace KeyLedger

section
variable (ledger : KeyLedger records events)
include ledger

theorem sorted_records : sortOn (·.keyVersion) records = records :=
  sortOn_numbered ledger.versions

theorem sorted_events : sortOn (·.lifecycleRevision) events = events :=
  sortOn_numbered ledger.revisions

theorem revocations_le : (eventsOfKind .revoke events).length ≤ records.length := by
  have named : (eventsOfKind .revoke events).map (·.keyVersion) ⊆ records.map (·.keyVersion) := by
    intro keyVersion member
    obtain ⟨record, present, _, rfl⟩ := mem_revokedVersions.mp ((ledger.revoked keyVersion).mp member)
    exact mem_map_of_mem present
  simpa using (ledger.revokedOnce.subperm named).length_le

/-- A key has at most two events for each of its versions. -/
theorem events_le : events.length ≤ 2 * records.length := by
  have split : ∀ later : List VerificationKeyLifecycleEvent, (∀ event ∈ later, event.eventKind ≠ .provision) →
      later.length = (eventsOfKind .rotate later).length + (eventsOfKind .revoke later).length := by
    intro later apart
    induction later with
    | nil => rfl
    | cons event rest ih =>
      obtain ⟨here, beyond⟩ := forall_mem_cons.mp apart
      have rest := ih beyond
      cases kind : event.eventKind with
      | provision => exact absurd kind here
      | rotate => simp only [eventsOfKind, filter_cons, kind, length_cons] at rest ⊢; simp; omega
      | revoke => simp only [eventsOfKind, filter_cons, kind, length_cons] at rest ⊢; simp; omega
  obtain ⟨opening, later, rfl, provision, _, apart⟩ := ledger.opened
  have rotated := congrArg List.length ledger.rotations
  have revoked := ledger.revocations_le
  have counted := split later apart
  have skipped : ∀ kind, kind ≠ .provision → eventsOfKind kind (opening :: later) = eventsOfKind kind later := by
    intro kind other
    simp [eventsOfKind, provision, other.symm]
  rw [skipped _ (by decide)] at rotated revoked
  rw [length_map, length_countFrom] at rotated
  have some := length_pos_iff.mpr ledger.nonempty
  rw [length_cons]
  omega

theorem valid : keyLedgerValid records events = true := by
  obtain ⟨opening, later, split, provision, firstVersion, _⟩ := ledger.opened
  have some := length_pos_iff.mpr ledger.nonempty
  have rotated := congrArg List.length ledger.rotations
  rw [length_map, length_countFrom] at rotated
  unfold keyLedgerValid
  simp only [Bool.and_eq_true]
  refine ⟨⟨⟨⟨⟨⟨⟨?_, ?_⟩, ?_⟩, ?_⟩, ?_⟩, ?_⟩, ?_⟩, ?_⟩
  · simp [split, provision, firstVersion]
  · exact numbered_iff.mpr ledger.versions
  · exact decide_eq_true ledger.times.isChain
  · exact decide_eq_true (by omega)
  · exact numbered_iff.mpr (by rw [rotated]; exact ledger.rotations)
  · exact decide_eq_true ledger.revokedOnce
  · refine all_eq_true.mpr fun event member => ?_
    exact contains_iff_mem.mpr ((ledger.revoked _).mp (mem_map_of_mem member))
  · refine all_eq_true.mpr fun keyVersion member => ?_
    obtain ⟨event, found, same⟩ := mem_map.mp ((ledger.revoked keyVersion).mpr member)
    exact any_eq_true.mpr ⟨event, found, beq_iff_eq.mpr same⟩

theorem currentRevision_eq : currentRevision events = events.length := by
  obtain ⟨opening, later, split, _⟩ := ledger.opened
  have last := congrArg List.getLast? ledger.revisions
  obtain ⟨n, length⟩ : ∃ n, events.length = n + 1 := ⟨later.length, by simp [split]⟩
  rw [length, countFrom_succ, getLast?_concat, getLast?_map] at last
  rw [currentRevision, last, Option.getD_some, length]
  omega

end

end KeyLedger

/-- A key that was never provisioned has neither records nor events. -/
def KeyState (records : List VerificationKeyRecord) (events : List VerificationKeyLifecycleEvent) : Prop :=
  records = [] ∧ events = [] ∨ KeyLedger records events

theorem KeyState.revisions (state : KeyState records events) :
    events.map (·.lifecycleRevision) = countFrom 1 events.length := by
  rcases state with ⟨_, rfl⟩ | ledger
  · rfl
  · exact ledger.revisions

theorem KeyState.currentRevision_eq (state : KeyState records events) : currentRevision events = events.length := by
  rcases state with ⟨_, rfl⟩ | ledger
  · rfl
  · exact ledger.currentRevision_eq

variable {next : List VerificationKeyRecord × Int}

theorem transition_provision
    (moved : transition records events (.provision expectedRevision committedAtMs record) = .ok next) :
    records = [] ∧ events = [] ∧ record.keyVersion = 1 ∧ record.revokedAtMs = none ∧ ValidHistory [record] ∧
      next = ([record], 1) := by
  obtain ⟨⟨noRecords, noEvents⟩, moved⟩ := require_bind.mp moved
  obtain ⟨⟨_, version, unrevoked, valid⟩, moved⟩ := require_bind.mp moved
  refine ⟨noRecords, noEvents, version, unrevoked, validateVerificationKeyHistory_ok.mp valid, ?_⟩
  rw [← Except.ok.inj moved, version]

/-- What a rotation asks of the last version and the next one. -/
structure Rotation (keyId : Str) (previous nextRecord : VerificationKeyRecord) (cutoverMs : Int) : Prop where
  keyId_eq : nextRecord.keyId = keyId
  version : nextRecord.keyVersion = previous.keyVersion + 1
  identity : SameIdentity previous nextRecord
  validFrom : nextRecord.validFromMs = cutoverMs
  unrevoked : nextRecord.revokedAtMs = none
  shortens : cutoverMs ≤ previous.validUntilMs

theorem transition_rotate (moved : transition records events
      (.rotate expectedRevision committedAtMs keyId previousKeyVersion nextRecord cutoverMs) = .ok next) :
    ∃ previous, (sortOn (·.keyVersion) records).getLast? = some previous ∧
      Rotation keyId previous nextRecord cutoverMs ∧ ValidHistory next.1 ∧
      next = ((sortOn (·.keyVersion) records).map (endVersion previous.keyVersion cutoverMs) ++ [nextRecord],
        nextRecord.keyVersion) := by
  obtain ⟨previous, last, moved⟩ := given_bind.mp moved
  obtain ⟨⟨_, named, version, subject, purpose, scope, validFrom, unrevoked, _, _, shortens⟩, moved⟩ := require_bind.mp moved
  obtain ⟨valid, moved⟩ := require_bind.mp moved
  have done := (Except.ok.inj moved).symm
  refine ⟨previous, last, ⟨named, version, ⟨subject, purpose, scope⟩, validFrom, unrevoked, shortens⟩, ?_, done⟩
  rw [done]
  exact validateVerificationKeyHistory_ok.mp valid

theorem transition_revoke
    (moved : transition records events (.revoke expectedRevision committedAtMs keyId keyVersion revokedAtMs) = .ok next) :
    ∃ target ∈ records, target.keyVersion = keyVersion ∧ target.revokedAtMs = none ∧ ValidHistory next.1 ∧
      next = (records.map (revokeVersion keyVersion revokedAtMs), keyVersion) := by
  obtain ⟨target, found, moved⟩ := given_bind.mp moved
  obtain ⟨allowed, moved⟩ := require_bind.mp moved
  obtain ⟨valid, moved⟩ := require_bind.mp moved
  have done := (Except.ok.inj moved).symm
  refine ⟨target, mem_of_find?_eq_some found, ?_, allowed.1, ?_, done⟩
  · simpa using find?_some found
  · rw [done]
    exact validateVerificationKeyHistory_ok.mp valid

theorem transition_valid (moved : transition records events command = .ok next) : ValidHistory next.1 := by
  cases command with
  | provision =>
    obtain ⟨_, _, _, _, valid, rfl⟩ := transition_provision moved
    exact valid
  | rotate =>
    obtain ⟨_, _, _, valid, _⟩ := transition_rotate moved
    exact valid
  | revoke =>
    obtain ⟨_, _, _, _, valid, _⟩ := transition_revoke moved
    exact valid

theorem transition_keyId (ofKey : ∀ record ∈ records, record.keyId = command.keyId)
    (moved : transition records events command = .ok next) :
    (∀ record ∈ next.1, record.keyId = command.keyId) ∧ ∃ record ∈ next.1, record.keyVersion = next.2 := by
  cases command with
  | provision _ _ record =>
    obtain ⟨_, _, version, _, _, rfl⟩ := transition_provision moved
    exact ⟨fun _ member => by rw [mem_singleton.mp member]; rfl, record, mem_singleton_self _, version⟩
  | rotate _ _ keyId _ nextRecord cutoverMs =>
    obtain ⟨previous, _, rotation, _, rfl⟩ := transition_rotate moved
    refine ⟨fun record member => ?_, nextRecord, by simp, rfl⟩
    rcases mem_append.mp member with old | new
    · obtain ⟨source, present, rfl⟩ := mem_map.mp old
      rw [endVersion_keyId]
      exact ofKey source (mem_sortOn.mp present)
    · rw [mem_singleton.mp new]
      exact rotation.keyId_eq
  | revoke _ _ _ keyVersion revokedAtMs =>
    obtain ⟨target, present, version, _, _, rfl⟩ := transition_revoke moved
    refine ⟨fun record member => ?_, revokeVersion keyVersion revokedAtMs target, mem_map_of_mem present, ?_⟩
    · obtain ⟨source, present, rfl⟩ := mem_map.mp member
      rw [revokeVersion_keyId]
      exact ofKey source present
    · rw [revokeVersion_keyVersion]
      exact version

/-- The event that a command appends after `events`. -/
structure Appended (command : LifecycleCommand) (events : List VerificationKeyLifecycleEvent) (keyVersion : Int)
    (event : VerificationKeyLifecycleEvent) : Prop where
  kind : event.eventKind = command.kind
  version : event.keyVersion = keyVersion
  revision : event.lifecycleRevision = events.length + 1
  time : ∀ earlier ∈ events, earlier.committedAtMs ≤ event.committedAtMs

theorem revisions_append {event : VerificationKeyLifecycleEvent}
    (before : events.map (·.lifecycleRevision) = countFrom 1 events.length)
    (revision : event.lifecycleRevision = events.length + 1) :
    (events ++ [event]).map (·.lifecycleRevision) = countFrom 1 (events ++ [event]).length := by
  rw [map_append, before, length_append, length_singleton, countFrom_succ, map_singleton, revision,
    Int.add_comm 1]

theorem Appended.times (appended : Appended command events keyVersion event)
    (before : events.Pairwise fun earlier later => earlier.committedAtMs ≤ later.committedAtMs) :
    (events ++ [event]).Pairwise fun earlier later => earlier.committedAtMs ≤ later.committedAtMs := by
  refine pairwise_append.mpr ⟨before, pairwise_singleton _ _, ?_⟩
  intro earlier member later last
  rw [mem_singleton.mp last]
  exact appended.time earlier member

theorem KeyLedger.rotate (ledger : KeyLedger records events) (moved : transition records events
      (.rotate expectedRevision committedAtMs keyId previousKeyVersion nextRecord cutoverMs) = .ok next)
    (appended : Appended (.rotate expectedRevision committedAtMs keyId previousKeyVersion nextRecord cutoverMs) events
      next.2 event) : KeyLedger next.1 (events ++ [event]) := by
  obtain ⟨previous, last, rotation, _, rfl⟩ := transition_rotate moved
  rw [ledger.sorted_records] at last ⊢
  have kind : event.eventKind = .rotate := appended.kind
  obtain ⟨n, length⟩ : ∃ n, records.length = n + 1 :=
    ⟨records.length - 1, by have := length_pos_iff.mpr ledger.nonempty; omega⟩
  -- the last version is numbered by the length of the list
  have number : previous.keyVersion = records.length := by
    have lasts := congrArg List.getLast? ledger.versions
    rw [length, countFrom_succ, getLast?_concat, getLast?_map, last] at lasts
    have counted : previous.keyVersion = 1 + n := Option.some.inj lasts
    omega
  refine ⟨by simp, ?_, revisions_append ledger.revisions appended.revision, ?_, appended.times ledger.times, ?_, ?_, ?_⟩
  · rw [map_append, map_map]
    have kept : (VerificationKeyRecord.keyVersion ∘ endVersion previous.keyVersion cutoverMs) =
        fun record => record.keyVersion := by funext record; simp
    rw [kept, ledger.versions, length_append, length_map, length_singleton, countFrom_succ,
      map_singleton, rotation.version, number, Int.add_comm 1]
  · obtain ⟨opening, later, rfl, provision, first, apart⟩ := ledger.opened
    exact ⟨opening, later ++ [event], rfl, provision, first, Lib.forall_mem_concat apart (by rw [kind]; decide)⟩
  · rw [eventsOfKind_concat, if_pos kind, map_append, ledger.rotations, length]
    rw [show (List.map (endVersion previous.keyVersion cutoverMs) records ++ [nextRecord]).length - 1 = n + 1 by
      simp [length], countFrom_succ, map_singleton, appended.version, rotation.version, number, length]
    congr 2
    omega
  · rw [eventsOfKind_concat, if_neg (by rw [kind]; decide), append_nil]
    exact ledger.revokedOnce
  · intro keyVersion
    rw [eventsOfKind_concat, if_neg (by rw [kind]; decide), append_nil, ledger.revoked,
      mem_revokedVersions, mem_revokedVersions]
    constructor
    · rintro ⟨record, present, revoked, same⟩
      exact ⟨endVersion previous.keyVersion cutoverMs record, mem_append_left _ (mem_map_of_mem present),
        by simpa using revoked, by simpa using same⟩
    · rintro ⟨record, present, revoked, same⟩
      rcases mem_append.mp present with old | new
      · obtain ⟨source, member, rfl⟩ := mem_map.mp old
        exact ⟨source, member, by simpa using revoked, by simpa using same⟩
      · rw [mem_singleton.mp new, rotation.unrevoked] at revoked
        exact absurd revoked (by simp)

theorem KeyLedger.revoke (ledger : KeyLedger records events)
    (moved : transition records events (.revoke expectedRevision committedAtMs keyId keyVersion revokedAtMs) = .ok next)
    (appended : Appended (.revoke expectedRevision committedAtMs keyId keyVersion revokedAtMs) events next.2 event) :
    KeyLedger next.1 (events ++ [event]) := by
  obtain ⟨target, present, version, unrevoked, _, rfl⟩ := transition_revoke moved
  have kind : event.eventKind = .revoke := appended.kind
  have kept : (VerificationKeyRecord.keyVersion ∘ revokeVersion keyVersion revokedAtMs) =
      fun record => record.keyVersion := by funext record; simp
  -- the version numbers are distinct, so the target is the only record of its version
  have sole : ∀ record ∈ records, record.keyVersion = keyVersion → record = target := by
    intro record member same
    have distinct := ledger.versions ▸ nodup_countFrom
    exact inj_on_of_nodup_map distinct member present (same.trans version.symm)
  have fresh : keyVersion ∉ revokedVersions records := by
    intro revoked
    obtain ⟨record, member, was, same⟩ := mem_revokedVersions.mp revoked
    rw [sole record member same, unrevoked] at was
    exact absurd was (by simp)
  refine ⟨by simp [ledger.nonempty], ?_, revisions_append ledger.revisions appended.revision, ?_,
    appended.times ledger.times, ?_, ?_, ?_⟩
  · rw [map_map, kept, ledger.versions, length_map]
  · obtain ⟨opening, later, rfl, provision, first, apart⟩ := ledger.opened
    exact ⟨opening, later ++ [event], rfl, provision, first, Lib.forall_mem_concat apart (by rw [kind]; decide)⟩
  · rw [eventsOfKind_concat, if_neg (by rw [kind]; decide), append_nil, ledger.rotations,
      length_map]
  · rw [eventsOfKind_concat, if_pos kind, map_append, map_singleton, appended.version]
    exact Lib.nodup_concat ledger.revokedOnce fun member => fresh ((ledger.revoked _).mp member)
  · intro other
    rw [eventsOfKind_concat, if_pos kind, map_append, map_singleton, appended.version,
      mem_append, mem_singleton, ledger.revoked, mem_revokedVersions, mem_revokedVersions]
    constructor
    · rintro (⟨record, member, revoked, same⟩ | rfl)
      · refine ⟨revokeVersion keyVersion revokedAtMs record, mem_map_of_mem member, ?_, by simpa using same⟩
        unfold revokeVersion
        split
        · rfl
        · exact revoked
      · refine ⟨revokeVersion other revokedAtMs target, mem_map_of_mem present, ?_, by simpa using version⟩
        rw [revokeVersion, if_pos version]
        rfl
    · rintro ⟨record, member, revoked, same⟩
      obtain ⟨source, found, rfl⟩ := mem_map.mp member
      rw [revokeVersion_keyVersion] at same
      by_cases here : source.keyVersion = keyVersion
      · exact Or.inr (same.symm.trans here)
      · rw [revokeVersion, if_neg here] at revoked
        exact Or.inl ⟨source, found, revoked, same⟩

theorem KeyState.step (state : KeyState records events) (moved : transition records events command = .ok next)
    (appended : Appended command events next.2 event) : KeyLedger next.1 (events ++ [event]) := by
  cases command with
  | provision expectedRevision committedAtMs record =>
    obtain ⟨rfl, rfl, version, unrevoked, _, rfl⟩ := transition_provision moved
    have kind : event.eventKind = .provision := appended.kind
    refine ⟨by simp, ?_, revisions_append rfl appended.revision, ⟨event, [], rfl, kind, appended.version, by simp⟩,
      appended.times List.Pairwise.nil, ?_, ?_, ?_⟩
    · simp [countFrom, version]
    · simp [eventsOfKind, kind, countFrom]
    · simp [eventsOfKind, kind]
    · simp [eventsOfKind, kind, revokedVersions, unrevoked]
  | rotate =>
    rcases state with ⟨rfl, _⟩ | ledger
    · obtain ⟨_, last, _⟩ := transition_rotate moved
      exact absurd last (by simp [sortOn, sortBy])
    · exact ledger.rotate moved appended
  | revoke =>
    rcases state with ⟨rfl, _⟩ | ledger
    · obtain ⟨_, present, _⟩ := transition_revoke moved
      exact absurd present not_mem_nil
    · exact ledger.revoke moved appended

/-- The invariant of the images that admissible plans lead to. -/
structure LedgerSound (image : VerificationKeyLifecycleImage) : Prop where
  shaped : ∀ event ∈ image.events, lifecycleEventShaped event = true
  keys : ∀ keyId, KeyState (recordsOf keyId image.records) (eventsOf keyId image.events)
  histories : ∀ keyId, recordsOf keyId image.records ≠ [] → ValidHistory (recordsOf keyId image.records)
  bounded : image.records.length ≤ 1024

theorem LedgerSound.empty : LedgerSound ⟨[], []⟩ :=
  ⟨by simp, fun _ => Or.inl ⟨rfl, rfl⟩, fun _ some => absurd rfl some, by simp⟩

theorem nodup_of_slots (slots : ∀ keyId, ((recordsOf keyId records).map fun key => (key.keyId, key.keyVersion)).Nodup) :
    (records.map fun key => (key.keyId, key.keyVersion)).Nodup := by
  induction records with
  | nil => exact nodup_nil
  | cons record rest ih =>
    refine nodup_cons.mpr ⟨?_, ih fun keyId => ?_⟩
    · intro again
      obtain ⟨other, member, same⟩ := mem_map.mp again
      have slot := slots record.keyId
      rw [recordsOf, filter_cons_of_pos (by simp), map_cons, nodup_cons] at slot
      refine slot.1 (mem_map.mpr ⟨other, mem_recordsOf.mpr ⟨member, (Prod.mk.inj same).1⟩, same⟩)
    · exact ((sublist_cons_self record rest).filter _ |>.map _).nodup (slots keyId)

theorem recordsOf_recordsOf : recordsOf keyId (recordsOf keyId records) = recordsOf keyId records := by
  simp [recordsOf]

variable {image : VerificationKeyLifecycleImage}

section
variable (sound : LedgerSound image)
include sound

theorem LedgerSound.history (some : image.records ≠ []) : ValidHistory image.records := by
  have each : ∀ record ∈ image.records, ValidHistory (recordsOf record.keyId image.records) := fun record member =>
    sound.histories record.keyId (ne_nil_of_mem (mem_recordsOf.mpr ⟨member, rfl⟩))
  refine ⟨some, sound.bounded, ?_, nodup_of_slots fun keyId => ?_, fun keyId => ?_⟩
  · exact fun record member => (each record member).records record (mem_recordsOf.mpr ⟨member, rfl⟩)
  · by_cases none : recordsOf keyId image.records = []
    · rw [none]
      exact nodup_nil
    · exact (sound.histories keyId none).distinct
  · by_cases none : recordsOf keyId image.records = []
    · rw [none]
      exact ⟨fun _ member => absurd member not_mem_nil, .nil⟩
    · have slot := (sound.histories keyId none).slots keyId
      rwa [recordsOf_recordsOf] at slot

theorem LedgerSound.provisioned_iff : recordsOf keyId image.records ≠ [] ↔ eventsOf keyId image.events ≠ [] := by
  rcases sound.keys keyId with ⟨noRecords, noEvents⟩ | ledger
  · simp [noRecords, noEvents]
  · obtain ⟨opening, later, split, _⟩ := ledger.opened
    simp [ledger.nonempty, split]

theorem LedgerSound.key_of_events (some : eventsOf keyId image.events ≠ []) :
    KeyLedger (recordsOf keyId image.records) (eventsOf keyId image.events) :=
  (sound.keys keyId).resolve_left fun none => some none.2

theorem LedgerSound.same_keys :
    (unseen (image.records.map (·.keyId))).length = (slotsOf (·.keyId) image.events).length := by
  obtain ⟨distinct, pushed, _⟩ := unseen_invariant (image.records.map (·.keyId))
  have perm : (unseen (image.records.map (·.keyId))).Perm ((slotsOf (·.keyId) image.events).entries.map Prod.fst) := by
    refine (perm_ext_iff_of_nodup distinct (distinct_slotsOf _ _)).mpr fun keyId => ?_
    rw [pushed, mem_keys_slotsOf, mem_map]
    have records : (∃ record ∈ image.records, record.keyId = keyId) ↔ recordsOf keyId image.records ≠ [] := by
      simp [recordsOf, filter_eq_nil_iff]
    have events : (∃ event ∈ image.events, event.keyId = keyId) ↔ eventsOf keyId image.events ≠ [] := by
      simp [eventsOf, filter_eq_nil_iff]
    rw [records, events]
    exact sound.provisioned_iff
  simpa [Map.length] using perm.length_eq

omit sound in
theorem get_eventSlots (known : eventsOf keyId image.events ≠ []) :
    (slotsOf (·.keyId) image.events).get keyId = some (eventsOf keyId image.events) := by
  rw [get_slotsOf]
  exact if_neg known

theorem LedgerSound.valid : lifecycleImageValid image = true := by
  unfold lifecycleImageValid
  simp only [Bool.and_eq_true]
  refine ⟨⟨?_, all_eq_true.mpr sound.shaped⟩, ?_, beq_iff_eq.mpr sound.same_keys, ?_⟩
  · by_cases none : image.records = []
    · simp [none]
    · rw [Bool.or_eq_true]
      exact Or.inr (decide_eq_true (validateVerificationKeyHistory_ok.mpr (sound.history none)))
  · rw [all_eq_true, forall_slotsOf (P := fun keyId events => eventSlotValid keyId events = true)]
    intro keyId some
    have ledger := sound.key_of_events some
    obtain ⟨opening, later, split, provision, _⟩ := ledger.opened
    have sorted : sortOn (·.lifecycleRevision) (image.events.filter fun event => event.keyId = keyId) =
        eventsOf keyId image.events := ledger.sorted_events
    unfold eventSlotValid
    simp only [sorted, Bool.and_eq_true]
    refine ⟨⟨by simp [split, provision], numbered_iff.mpr ledger.revisions⟩, ?_⟩
    exact all_eq_true.mpr fun event member => beq_iff_eq.mpr (of_decide_eq_true (mem_filter.mp member).2)
  · refine all_eq_true.mpr fun keyId member => ?_
    have present : keyId ∈ image.records.map (·.keyId) := ((unseen_invariant _).2.1 keyId).mp member
    obtain ⟨record, found, rfl⟩ := mem_map.mp present
    have some := sound.provisioned_iff.mp (ne_nil_of_mem (mem_recordsOf.mpr ⟨found, rfl⟩))
    have ledger := sound.key_of_events some
    rw [get_eventSlots some, Option.getD_some, ledger.sorted_records, ledger.sorted_events]
    exact ledger.valid

end

theorem plan_ok (planned : planVerificationKeyLifecycleMutation image command = .ok plan) :
    lifecycleImageValid image = true ∧ safeNonNegativeInteger command.committedAtMs = true ∧
      ∃ next, transition (recordsOf command.keyId image.records) (eventsOf command.keyId image.events) command = .ok next ∧
        plan.records = next.1 ∧ plan.event.version = 1 ∧ plan.event.keyId = command.keyId ∧
        plan.event.keyVersion = next.2 ∧ plan.event.eventKind = command.kind ∧
        plan.event.committedAtMs = command.committedAtMs ∧
        plan.event.lifecycleRevision = currentRevision (eventsOf command.keyId image.events) + 1 ∧
        plan.event.canonicalEvent = canonicalVerificationKeyLifecycleEvent command (command.expectedRevision + 1) := by
  obtain ⟨valid, planned⟩ := require_bind.mp planned
  obtain ⟨safe, planned⟩ := require_bind.mp planned
  obtain ⟨current, planned⟩ := require_bind.mp planned
  obtain ⟨next, moved, planned⟩ := bind_ok.mp planned
  cases planned
  exact ⟨valid, safe.2, next, moved, rfl, rfl, rfl, rfl, rfl, rfl, rfl, by rw [current]⟩

theorem canonicalVerificationKeyLifecycleEvent_length_pos :
    0 < (canonicalVerificationKeyLifecycleEvent command lifecycleRevision).length := by
  cases command <;> exact jsonArray_length_pos

/-- What the planner does not check of a command: the clock of the key does not go back, the event can be encoded, and the
records of all keys together are not too many (a revocation adds none). -/
structure Admissible (image : VerificationKeyLifecycleImage) (command : LifecycleCommand) : Prop where
  time : ∀ event ∈ eventsOf command.keyId image.events, event.committedAtMs ≤ command.committedAtMs
  encoded : (canonicalVerificationKeyLifecycleEvent command (command.expectedRevision + 1)).length ≤ 65536
  room : image.records.length + (if command.kind = .revoke then 0 else 1) ≤ 1024

theorem transition_length (moved : transition records events command = .ok next) :
    next.1.length = records.length + if command.kind = .revoke then 0 else 1 := by
  cases command with
  | provision =>
    obtain ⟨rfl, _, _, _, _, rfl⟩ := transition_provision moved
    rfl
  | rotate =>
    obtain ⟨_, _, _, _, rfl⟩ := transition_rotate moved
    rw [length_append, length_map, sortOn_perm.length_eq]
    rfl
  | revoke =>
    obtain ⟨_, _, _, _, _, rfl⟩ := transition_revoke moved
    exact length_map _

theorem length_records_apply (planned : planVerificationKeyLifecycleMutation image command = .ok plan) :
    (image.apply plan eventDigest).records.length = image.records.length + if command.kind = .revoke then 0 else 1 := by
  obtain ⟨_, _, next, moved, records, _, keyId, _⟩ := plan_ok planned
  have parts := length_eq_length_filter_add (l := image.records) fun record => record.keyId = command.keyId
  have added := transition_length moved
  simp only [VerificationKeyLifecycleImage.apply, length_append, keyId, records, recordsOf, ne_eq, decide_not] at *
  omega

theorem recordsOf_apply_self (ofKey : ∀ record ∈ plan.records, record.keyId = plan.event.keyId) :
    recordsOf plan.event.keyId (image.apply plan eventDigest).records = plan.records := by
  have others : (image.records.filter fun record => record.keyId ≠ plan.event.keyId).filter
      (fun record => record.keyId = plan.event.keyId) = [] := by
    rw [filter_filter, filter_eq_nil_iff]
    simp
  rw [recordsOf, VerificationKeyLifecycleImage.apply, filter_append, others, nil_append, filter_eq_self]
  exact fun record member => decide_eq_true (ofKey record member)

theorem recordsOf_apply_other (ofKey : ∀ record ∈ plan.records, record.keyId = plan.event.keyId)
    (other : keyId ≠ plan.event.keyId) :
    recordsOf keyId (image.apply plan eventDigest).records = recordsOf keyId image.records := by
  have planned : plan.records.filter (fun record => record.keyId = keyId) = [] := by
    rw [filter_eq_nil_iff]
    intro record member same
    exact other ((of_decide_eq_true same).symm.trans (ofKey record member))
  rw [recordsOf, VerificationKeyLifecycleImage.apply, filter_append, planned, append_nil, filter_filter]
  refine filter_congr fun record _ => ?_
  by_cases same : record.keyId = keyId
  · simp [same, other]
  · simp [same]

theorem eventsOf_apply :
    eventsOf keyId (image.apply plan eventDigest).events = eventsOf keyId image.events ++
      if plan.event.keyId = keyId then [plan.event.withDigest eventDigest] else [] := by
  rw [eventsOf, VerificationKeyLifecycleImage.apply, filter_append]
  by_cases same : plan.event.keyId = keyId <;> simp [eventsOf, same]

section
variable (sound : LedgerSound image) (planned : planVerificationKeyLifecycleMutation image command = .ok plan)
include sound planned

theorem planned_shaped (hashed : isDigest eventDigest = true) (admissible : Admissible image command) :
    lifecycleEventShaped (plan.event.withDigest eventDigest) = true := by
  obtain ⟨_, safe, next, moved, _, version, keyId, keyVersion, _, time, revision, canonical⟩ := plan_ok planned
  have ofKey : ∀ record ∈ recordsOf command.keyId image.records, record.keyId = command.keyId :=
    fun record member => (mem_recordsOf.mp member).2
  obtain ⟨named, record, member, same⟩ := transition_keyId ofKey moved
  have facts := validKeyRecord_facts ((transition_valid moved).records record member)
  have state := sound.keys command.keyId
  have short : (eventsOf command.keyId image.events).length ≤ 2048 := by
    rcases state with ⟨_, none⟩ | ledger
    · simp [none]
    · have := ledger.events_le
      have := (sound.histories command.keyId ledger.nonempty).bounded
      omega
  have room : (2049 : Int) ≤ maxSafeInteger := by decide
  unfold lifecycleEventShaped PlannedLifecycleEvent.withDigest
  simp only [Bool.and_eq_true, version, keyId, keyVersion, revision, time, state.currentRevision_eq]
  refine ⟨⟨⟨⟨⟨⟨rfl, ?_⟩, ?_⟩, safePositiveInteger_iff.mpr (by omega)⟩, hashed⟩, decide_eq_true ⟨?_, ?_⟩⟩, safe⟩
  · rw [← named record member]
    exact facts.named
  · rw [← same]
    exact facts.numbered
  · rw [canonical]
    exact canonicalVerificationKeyLifecycleEvent_length_pos
  · exact canonical ▸ admissible.encoded

theorem LedgerSound.step (hashed : isDigest eventDigest = true) (admissible : Admissible image command) :
    LedgerSound (image.apply plan eventDigest) := by
  obtain ⟨_, _, next, moved, records, _, keyId, keyVersion, kind, time, revision, _⟩ := plan_ok planned
  obtain ⟨named, _⟩ := transition_keyId (fun record member => (mem_recordsOf.mp member).2) moved
  have ofKey : ∀ record ∈ plan.records, record.keyId = plan.event.keyId := by
    rw [records, keyId]
    exact named
  have state := sound.keys command.keyId
  have ledger : KeyLedger next.1 (eventsOf command.keyId image.events ++ [plan.event.withDigest eventDigest]) := by
    refine state.step moved ⟨kind, keyVersion, ?_, ?_⟩
    · rw [← state.currentRevision_eq]
      exact revision
    · intro earlier member
      exact (admissible.time earlier member).trans_eq time.symm
  refine ⟨?_, fun other => ?_, fun other => ?_, ?_⟩
  · exact Lib.forall_mem_concat sound.shaped (planned_shaped sound planned hashed admissible)
  · rw [eventsOf_apply]
    by_cases same : other = plan.event.keyId
    · subst same
      rw [recordsOf_apply_self ofKey, if_pos rfl, records, keyId]
      exact Or.inr ledger
    · rw [recordsOf_apply_other ofKey same, if_neg (Ne.symm same), append_nil]
      exact sound.keys other
  · by_cases same : other = plan.event.keyId
    · subst same
      rw [recordsOf_apply_self ofKey, records]
      exact fun _ => transition_valid moved
    · rw [recordsOf_apply_other ofKey same]
      exact sound.histories other
  · rw [length_records_apply planned]
    exact admissible.room

theorem admissible_of_valid (valid : lifecycleImageValid (image.apply plan eventDigest) = true) :
    Admissible image command := by
  obtain ⟨_, _, next, moved, records, _, keyId, _, _, time, revision, canonical⟩ := plan_ok planned
  unfold lifecycleImageValid at valid
  simp only [Bool.and_eq_true] at valid
  obtain ⟨⟨history, shaped⟩, _, _, keys⟩ := valid
  have nonempty : plan.records ≠ [] := by
    rw [records]
    exact (transition_valid moved).nonempty
  obtain ⟨record, member⟩ := exists_mem_of_ne_nil _ nonempty
  have present : record ∈ (image.apply plan eventDigest).records := mem_append_right _ member
  have ofKey : record.keyId = command.keyId := by
    obtain ⟨named, _⟩ := transition_keyId (fun record member => (mem_recordsOf.mp member).2) moved
    exact named record (records ▸ member)
  refine ⟨?_, ?_, ?_⟩
  · -- the events of the key stand in the order of their revisions, so the check compares the new one with the last one
    have key : command.keyId ∈ unseen ((image.apply plan eventDigest).records.map (·.keyId)) :=
      ((unseen_invariant _).2.1 _).mpr (mem_map.mpr ⟨record, present, ofKey⟩)
    have checked := all_eq_true.mp keys _ key
    have here : eventsOf command.keyId (image.apply plan eventDigest).events =
        eventsOf command.keyId image.events ++ [plan.event.withDigest eventDigest] := by
      rw [eventsOf_apply, if_pos keyId]
    have state := sound.keys command.keyId
    have appended := @revisions_append _ (plan.event.withDigest eventDigest) state.revisions
      (by rw [← state.currentRevision_eq]; exact revision)
    rw [get_eventSlots (by rw [here]; simp), Option.getD_some, here, sortOn_numbered appended] at checked
    unfold keyLedgerValid at checked
    simp only [Bool.and_eq_true] at checked
    have chain := of_decide_eq_true checked.1.1.1.1.1.2
    have ordered := isChain_iff_pairwise.mp chain
    intro event old
    rw [← time]
    exact (pairwise_append.mp ordered).2.2 event old _ (mem_singleton_self _)
  · have here := all_eq_true.mp shaped (plan.event.withDigest eventDigest) (by simp [VerificationKeyLifecycleImage.apply])
    unfold lifecycleEventShaped at here
    simp only [Bool.and_eq_true, decide_eq_true_eq] at here
    rw [← canonical]
    exact here.1.2.2
  · have some := ne_nil_of_mem present
    rw [Bool.or_eq_true, List.isEmpty_iff] at history
    have bounded := (validateVerificationKeyHistory_ok.mp (of_decide_eq_true (history.resolve_left some))).bounded
    rwa [length_records_apply planned] at bounded

end

theorem ReachedImage.sound (reached : ReachedImage image) (valid : lifecycleImageValid image = true) :
    LedgerSound image := by
  induction reached with
  | empty => exact LedgerSound.empty
  | step _ planned hashed ih =>
    have sound := ih (plan_ok planned).1
    exact sound.step planned hashed (admissible_of_valid sound planned valid)

theorem transition_ne_corruptStore : transition records events command ≠ .error .corruptStore := by
  cases command <;> simp [transition, bind_error, require_error, given_error]

theorem plan_corruptStore_iff :
    planVerificationKeyLifecycleMutation image command = .error .corruptStore ↔ lifecycleImageValid image = false := by
  unfold planVerificationKeyLifecycleMutation
  simp [bind_error, require_error, transition_ne_corruptStore]

/-- A command that was planned leaves an image that is valid, and that no later command is refused for, exactly if its commit
time is not before the key's last one, its event can be encoded and there is room for its record. -/
theorem mutation_keeps_ledger_usable_iff {image : VerificationKeyLifecycleImage} {command : LifecycleCommand}
    {plan : LifecyclePlan} {eventDigest : Str} (reached : ReachedImage image)
    (planned : planVerificationKeyLifecycleMutation image command = .ok plan) (hashed : isDigest eventDigest = true) :
    (lifecycleImageValid (image.apply plan eventDigest) = true ∧
      ∀ later, planVerificationKeyLifecycleMutation (image.apply plan eventDigest) later ≠ .error .corruptStore) ↔
    Admissible image command := by
  have sound := reached.sound (plan_ok planned).1
  refine ⟨fun usable => admissible_of_valid sound planned usable.1, fun admissible => ?_⟩
  have valid := (sound.step planned hashed admissible).valid
  refine ⟨valid, fun later refused => ?_⟩
  rw [plan_corruptStore_iff, valid] at refused
  exact absurd refused (by decide)

def sampleKey : VerificationKeyRecord where
  version := 1
  keyId := "k"
  keyVersion := 1
  subjectId := "s"
  purpose := "p"
  scopeId := "o"
  scheme := "e"
  publicKey := "b"
  validFromMs := 0
  validUntilMs := 100
  revokedAtMs := none

def sampleDigest : Str := ⟨List.replicate 64 48⟩

def samplePlan (command : LifecycleCommand) (records : List VerificationKeyRecord) (keyVersion lifecycleRevision : Int) :
    LifecyclePlan where
  records := records
  event :=
    { version := 1, keyId := "k", keyVersion, lifecycleRevision, eventKind := command.kind
      canonicalEvent := canonicalVerificationKeyLifecycleEvent command lifecycleRevision
      committedAtMs := command.committedAtMs }

def sampleProvision : LifecycleCommand := .provision 0 10 sampleKey

def sampleProvisioned : LifecyclePlan := samplePlan sampleProvision [sampleKey] 1 1

def sampleImage : VerificationKeyLifecycleImage := .apply ⟨[], []⟩ sampleProvisioned sampleDigest

def endedKey : VerificationKeyRecord := { sampleKey with validUntilMs := 50 }

def nextKey : VerificationKeyRecord := { sampleKey with keyVersion := 2, validFromMs := 50 }

def sampleRotation : LifecycleCommand := .rotate 1 20 "k" 1 nextKey 50

def sampleRotated : LifecyclePlan := samplePlan sampleRotation [endedKey, nextKey] 2 2

theorem sampleImage_reached : ReachedImage sampleImage := .step .empty
  (by decide +kernel : planVerificationKeyLifecycleMutation ⟨[], []⟩ sampleProvision = .ok sampleProvisioned)
  (by decide +kernel)

theorem mutation_keeps_ledger_usable_iff_rotation :
    lifecycleImageValid (sampleImage.apply sampleRotated sampleDigest) = true ∧ ∀ later,
      planVerificationKeyLifecycleMutation (sampleImage.apply sampleRotated sampleDigest) later ≠ .error .corruptStore :=
  (mutation_keeps_ledger_usable_iff sampleImage_reached
    (by decide +kernel : planVerificationKeyLifecycleMutation sampleImage sampleRotation = .ok sampleRotated)
    (by decide +kernel)).mpr ⟨by decide +kernel, by decide +kernel, by decide +kernel⟩

/-- A revocation whose clock is behind the one of the provisioning command is planned and committed; from then on every
command for the store is refused. -/
theorem late_clock_makes_ledger_corrupt :
    ∃ image command plan eventDigest, ReachedImage image ∧
      planVerificationKeyLifecycleMutation image command = .ok plan ∧ isDigest eventDigest = true ∧
      lifecycleImageValid (image.apply plan eventDigest) = false ∧
      ∀ later, planVerificationKeyLifecycleMutation (image.apply plan eventDigest) later = .error .corruptStore := by
  have broken : lifecycleImageValid (sampleImage.apply
      (samplePlan (.revoke 1 5 "k" 1 50) [{ sampleKey with revokedAtMs := some 50 }] 1 2) sampleDigest) = false := by
    decide +kernel
  exact ⟨sampleImage, .revoke 1 5 "k" 1 50, _, sampleDigest, sampleImage_reached, by decide +kernel, by decide +kernel, broken,
    fun later => plan_corruptStore_iff.mpr broken⟩

end ConvergeAudit.Keys
