import ConvergeAudit.Keys.Closure
import ConvergeAudit.Lib.Table

/-!
`verification-key-lifecycle-store.ts`: the two tables, and the transaction that plans a command again on the stored
image and writes what it planned.
-/

namespace ConvergeAudit.Keys

open Moon Js Lib.Fallible Lib.Table List

def versionKey (record : VerificationKeyRecord) : Str × Int := (record.keyId, record.keyVersion)

structure VerificationKeyLifecycleStore where
  versions : List VerificationKeyRecord
  events : List VerificationKeyLifecycleEvent
  deriving DecidableEq

namespace VerificationKeyLifecycleStore

def empty : VerificationKeyLifecycleStore := ⟨[], []⟩

def image (store : VerificationKeyLifecycleStore) (keyId : Str) : VerificationKeyLifecycleImage where
  records := sortOn (·.keyVersion) (recordsOf keyId store.versions)
  events := sortOn (·.lifecycleRevision) (eventsOf keyId store.events)

/-- A mutation is refused by the plan, or a constraint of the event table makes the transaction throw. -/
inductive CommitFailure
  | refused (reason : LifecycleRefusal)
  | constraint
  deriving DecidableEq

def commit (store : VerificationKeyLifecycleStore) (command : LifecycleCommand) (eventDigest : Str) :
    Except CommitFailure (VerificationKeyLifecycleStore × Int) := do
  let plan ← (match planVerificationKeyLifecycleMutation (store.image command.keyId) command with
    | .ok plan => .ok plan
    | .error reason => .error (CommitFailure.refused reason))
  -- a plan has passed the other checks of the two tables
  require (0 < characterCount plan.event.canonicalEvent.units ∧ characterCount plan.event.canonicalEvent.units ≤ 65536)
    .constraint
  require (∀ event ∈ store.events, event.eventDigest ≠ eventDigest ∧
    (event.keyId, event.lifecycleRevision) ≠ (plan.event.keyId, plan.event.lifecycleRevision)) .constraint
  .ok (⟨plan.records.foldl (upsert versionKey) store.versions, store.events ++ [plan.event.withDigest eventDigest]⟩,
    plan.event.lifecycleRevision)

end VerificationKeyLifecycleStore

/-- A run of committed mutations. The digest of each event is what the call hashed before its transaction. -/
inductive CommittedRun : List LifecycleCommand → VerificationKeyLifecycleStore → VerificationKeyLifecycleStore → Prop
  | refl (store : VerificationKeyLifecycleStore) : CommittedRun [] store store
  | commit {commands : List LifecycleCommand} {start store next : VerificationKeyLifecycleStore}
      {command : LifecycleCommand} {eventDigest : Str} {revision : Int} (run : CommittedRun commands start store)
      (hashed : isDigest eventDigest = true) (committed : store.commit command eventDigest = .ok (next, revision)) :
      CommittedRun (commands ++ [command]) start next

variable {store : VerificationKeyLifecycleStore}

theorem commit_ok {next : VerificationKeyLifecycleStore} (committed : store.commit command eventDigest = .ok (next, revision)) :
    ∃ plan, planVerificationKeyLifecycleMutation (store.image command.keyId) command = .ok plan ∧
      next.versions = plan.records.foldl (upsert versionKey) store.versions := by
  obtain ⟨plan, planned, committed⟩ := bind_ok.mp committed
  obtain ⟨_, _, committed⟩ := bind_ok.mp committed
  obtain ⟨_, _, committed⟩ := bind_ok.mp committed
  refine ⟨plan, ?_, ?_⟩
  · cases outcome : planVerificationKeyLifecycleMutation (store.image command.keyId) command with
    | ok found => simpa [outcome] using planned
    | error reason => simp [outcome] at planned
  · rw [← (Prod.mk.inj (Except.ok.inj committed)).1]

/-- What a mutation may do to a version: end it earlier, or revoke it once. -/
structure Evolves (old new : VerificationKeyRecord) : Prop where
  keyId : new.keyId = old.keyId
  keyVersion : new.keyVersion = old.keyVersion
  identity : SameIdentity old new
  validFrom : new.validFromMs = old.validFromMs
  shrinks : new.validUntilMs ≤ old.validUntilMs
  revoked : ∀ revokedAtMs, old.revokedAtMs = some revokedAtMs → new.revokedAtMs = some revokedAtMs

theorem Evolves.refl (record : VerificationKeyRecord) : Evolves record record :=
  ⟨rfl, rfl, ⟨rfl, rfl, rfl⟩, rfl, le_refl _, fun _ same => same⟩

theorem SameIdentity.trans (first : SameIdentity a b) (second : SameIdentity b c) : SameIdentity a c :=
  ⟨second.1.trans first.1, second.2.1.trans first.2.1, second.2.2.trans first.2.2⟩

theorem Evolves.trans (first : Evolves a b) (second : Evolves b c) : Evolves a c :=
  ⟨second.keyId.trans first.keyId, second.keyVersion.trans first.keyVersion, first.identity.trans second.identity,
    second.validFrom.trans first.validFrom, second.shrinks.trans first.shrinks,
    fun at_ same => second.revoked at_ (first.revoked at_ same)⟩

theorem Evolves.admits (evolves : Evolves old new) (admitted : issuanceTimeRefusal new issuedAtMs = none) :
    issuanceTimeRefusal old issuedAtMs = none := by
  obtain ⟨safe, begun, running, unrevoked⟩ := issuanceTimeRefusal_eq_none.mp admitted
  refine issuanceTimeRefusal_eq_none.mpr ⟨safe, evolves.validFrom ▸ begun, running.trans_le evolves.shrinks, ?_⟩
  exact fun revokedAtMs was => unrevoked revokedAtMs (evolves.revoked revokedAtMs was)

theorem transition_evolves {next : List VerificationKeyRecord × Int}
    (sole : ∀ a ∈ records, ∀ b ∈ records, a.keyVersion = b.keyVersion → a = b)
    (moved : transition records events command = .ok next) : ∀ old ∈ records, ∃ new ∈ next.1, Evolves old new := by
  intro old member
  cases command with
  | provision =>
    obtain ⟨rfl, _⟩ := transition_provision moved
    exact absurd member not_mem_nil
  | rotate _ _ keyId _ nextRecord cutoverMs =>
    obtain ⟨previous, last, rotation, _, rfl⟩ := transition_rotate moved
    have found := mem_sortOn.mp (mem_of_getLast? last)
    refine ⟨endVersion previous.keyVersion cutoverMs old, mem_append_left _ (mem_map_of_mem ?_), ?_⟩
    · exact mem_sortOn.mpr member
    · unfold endVersion
      split
      · rename_i same
        obtain rfl := sole old member previous found same
        exact ⟨rfl, rfl, ⟨rfl, rfl, rfl⟩, rfl, rotation.shortens, fun _ was => was⟩
      · exact Evolves.refl old
  | revoke _ _ _ keyVersion revokedAtMs =>
    obtain ⟨target, found, version, unrevoked, _, rfl⟩ := transition_revoke moved
    refine ⟨revokeVersion keyVersion revokedAtMs old, mem_map_of_mem member, ?_⟩
    unfold revokeVersion
    split
    · rename_i same
      obtain rfl := sole old member target found (same.trans version.symm)
      exact ⟨rfl, rfl, ⟨rfl, rfl, rfl⟩, rfl, le_refl _, fun _ was => absurd (unrevoked.symm.trans was) (by simp)⟩
    · exact Evolves.refl old

/-- The rows of a key, if it has any, are those of a valid history. -/
def VersionsSound (versions : List VerificationKeyRecord) : Prop :=
  ∀ keyId, (∀ record ∈ versions, record.keyId ≠ keyId) ∨
    ∃ history, ValidHistory history ∧ ∀ record, record ∈ history ↔ record ∈ versions ∧ record.keyId = keyId

theorem VersionsSound.history (sound : VersionsSound versions) (member : record ∈ versions) :
    ∃ history, ValidHistory history ∧ ∀ other, other ∈ history ↔ other ∈ versions ∧ other.keyId = record.keyId :=
  (sound record.keyId).resolve_left fun absent => absent record member rfl

theorem VersionsSound.sole (sound : VersionsSound versions) (memberA : a ∈ versions) (memberB : b ∈ versions)
    (sameKey : a.keyId = b.keyId) (sameVersion : a.keyVersion = b.keyVersion) : a = b := by
  obtain ⟨history, valid, members⟩ := sound.history memberB
  exact valid.eq_of_version ((members a).mpr ⟨memberA, sameKey⟩) ((members b).mpr ⟨memberB, rfl⟩) sameKey sameVersion

structure VersionsStep (command : LifecycleCommand) (before after : List VerificationKeyRecord) : Prop where
  sound : VersionsSound after
  evolves : ∀ old ∈ before, ∃ new ∈ after, Evolves old new
  origin : ∀ new ∈ after, (∃ old ∈ before, old.keyId = new.keyId) ∨
    ∃ expectedRevision committedAtMs record, command = .provision expectedRevision committedAtMs record ∧
      record.keyId = new.keyId
  provisioned : ∀ expectedRevision committedAtMs record,
    command = .provision expectedRevision committedAtMs record → record ∈ after

theorem mem_written (valid : ValidHistory planned) (ofKey : ∀ record ∈ planned, record.keyId = keyId)
    (covers : ∀ old ∈ versions, old.keyId = keyId → ∃ new ∈ planned, Evolves old new) (record : VerificationKeyRecord) :
    record ∈ planned.foldl (upsert versionKey) versions ↔
      record ∈ planned ∨ record ∈ versions ∧ record.keyId ≠ keyId := by
  have distinct : (planned.map versionKey).Nodup := valid.distinct
  rw [mem_foldl_upsert distinct]
  refine or_congr_right (and_congr_right fun member => not_congr ⟨fun written => ?_, fun same => ?_⟩)
  · obtain ⟨new, found, same⟩ := mem_map.mp written
    exact (Prod.mk.inj same).1.symm.trans (ofKey new found)
  · obtain ⟨new, found, evolves⟩ := covers record member same
    exact mem_map.mpr ⟨new, found, Prod.ext evolves.keyId evolves.keyVersion⟩

theorem VersionsSound.step {next : VerificationKeyLifecycleStore} (sound : VersionsSound store.versions)
    (committed : store.commit command eventDigest = .ok (next, revision)) :
    VersionsStep command store.versions next.versions := by
  obtain ⟨plan, planned, written⟩ := commit_ok committed
  obtain ⟨_, _, after, moved, records, _⟩ := plan_ok planned
  -- the image of the key holds its rows, in order
  have imaged : ∀ record, record ∈ recordsOf command.keyId (store.image command.keyId).records ↔
      record ∈ store.versions ∧ record.keyId = command.keyId := by
    intro record
    rw [mem_recordsOf, VerificationKeyLifecycleStore.image, mem_sortOn, mem_recordsOf]
    exact ⟨And.left, fun both => ⟨both, both.2⟩⟩
  have valid := transition_valid moved
  obtain ⟨ofKey, _⟩ := transition_keyId (fun record member => (mem_recordsOf.mp member).2) moved
  have covers : ∀ old ∈ store.versions, old.keyId = command.keyId → ∃ new ∈ after.1, Evolves old new := by
    intro old member same
    refine transition_evolves ?_ moved old ((imaged old).mpr ⟨member, same⟩)
    intro a memberA b memberB version
    obtain ⟨storedA, keyA⟩ := (imaged a).mp memberA
    obtain ⟨storedB, keyB⟩ := (imaged b).mp memberB
    exact sound.sole storedA storedB (keyA.trans keyB.symm) version
  have members := mem_written valid ofKey covers
  rw [records] at written
  rw [← written] at members
  refine ⟨fun keyId => ?_, fun old member => ?_, fun new member => ?_, fun expectedRevision committedAtMs record same => ?_⟩
  · by_cases here : keyId = command.keyId
    · subst here
      refine Or.inr ⟨after.1, valid, fun record => ⟨fun found => ?_, fun found => ?_⟩⟩
      · exact ⟨(members record).mpr (Or.inl found), ofKey record found⟩
      · exact ((members record).mp found.1).resolve_right fun kept => kept.2 found.2
    · rcases sound keyId with absent | ⟨history, validHere, held⟩
      · refine Or.inl fun record member same => ?_
        rcases (members record).mp member with new | ⟨old, _⟩
        · exact here (same.symm.trans (ofKey record new))
        · exact absent record old same
      · refine Or.inr ⟨history, validHere, fun record => (held record).trans ⟨fun found => ?_, fun found => ?_⟩⟩
        · exact ⟨(members record).mpr (Or.inr ⟨found.1, found.2 ▸ here⟩), found.2⟩
        · rcases (members record).mp found.1 with new | ⟨old, _⟩
          · exact absurd (found.2.symm.trans (ofKey record new)) here
          · exact ⟨old, found.2⟩
  · by_cases here : old.keyId = command.keyId
    · obtain ⟨new, found, evolves⟩ := covers old member here
      exact ⟨new, (members new).mpr (Or.inl found), evolves⟩
    · exact ⟨old, (members old).mpr (Or.inr ⟨member, here⟩), Evolves.refl old⟩
  · rcases (members new).mp member with planned | ⟨old, _⟩
    · have named := ofKey new planned
      cases command with
      | provision expectedRevision committedAtMs record => exact Or.inr ⟨_, _, record, rfl, named.symm⟩
      | rotate =>
        obtain ⟨previous, last, _⟩ := transition_rotate moved
        obtain ⟨stored, key⟩ := (imaged previous).mp (mem_sortOn.mp (mem_of_getLast? last))
        exact Or.inl ⟨previous, stored, key.trans named.symm⟩
      | revoke =>
        obtain ⟨target, present, _⟩ := transition_revoke moved
        obtain ⟨stored, key⟩ := (imaged target).mp present
        exact Or.inl ⟨target, stored, key.trans named.symm⟩
    · exact Or.inl ⟨new, old, rfl⟩
  · subst same
    obtain ⟨_, _, _, _, _, rfl⟩ := transition_provision moved
    exact (members record).mpr (Or.inl (mem_singleton_self record))

def Provisioned (commands : List LifecycleCommand) (record : VerificationKeyRecord) : Prop :=
  ∃ expectedRevision committedAtMs, .provision expectedRevision committedAtMs record ∈ commands

theorem CommittedRun.sound (run : CommittedRun commands start store) (initial : VersionsSound start.versions) :
    VersionsSound store.versions := by
  induction run with
  | refl => exact initial
  | commit _ _ committed ih => exact ((ih initial).step committed).sound

theorem CommittedRun.evolves (run : CommittedRun commands start store) (initial : VersionsSound start.versions) :
    ∀ old ∈ start.versions, ∃ new ∈ store.versions, Evolves old new := by
  induction run with
  | refl => exact fun old member => ⟨old, member, Evolves.refl old⟩
  | commit run _ committed ih =>
    intro old member
    obtain ⟨middle, found, first⟩ := ih initial old member
    obtain ⟨new, kept, second⟩ := ((run.sound initial).step committed).evolves middle found
    exact ⟨new, kept, first.trans second⟩

theorem versionsSound_empty : VersionsSound VerificationKeyLifecycleStore.empty.versions :=
  fun _ => Or.inl fun _ member => absurd member not_mem_nil

theorem CommittedRun.provisioned (run : CommittedRun commands .empty store) :
    (∀ record ∈ store.versions, ∃ first, Provisioned commands first ∧ first.keyId = record.keyId) ∧
      ∀ first, Provisioned commands first → ∃ record ∈ store.versions, Evolves first record := by
  generalize started : VerificationKeyLifecycleStore.empty = start at run
  induction run with
  | refl =>
    subst started
    refine ⟨fun _ member => absurd member not_mem_nil, ?_⟩
    rintro first ⟨_, _, member⟩
    exact absurd member not_mem_nil
  | @commit commands start store next command _ _ run _ committed ih =>
    obtain ⟨named, kept⟩ := ih started
    have step := (run.sound (started ▸ versionsSound_empty)).step committed
    refine ⟨fun record member => ?_, ?_⟩
    · rcases step.origin record member with ⟨old, present, same⟩ | ⟨expectedRevision, committedAtMs, first, rfl, same⟩
      · obtain ⟨first, ⟨_, _, provisioned⟩, key⟩ := named old present
        exact ⟨first, ⟨_, _, mem_append_left _ provisioned⟩, key.trans same⟩
      · exact ⟨first, ⟨expectedRevision, committedAtMs, by simp⟩, same⟩
    · rintro first ⟨expectedRevision, committedAtMs, member⟩
      rcases mem_append.mp member with earlier | now
      · obtain ⟨middle, present, before⟩ := kept first ⟨_, _, earlier⟩
        obtain ⟨record, found, after⟩ := step.evolves middle present
        exact ⟨record, found, before.trans after⟩
      · have same := (mem_singleton.mp now).symm
        exact ⟨first, step.provisioned _ _ first same, Evolves.refl first⟩

theorem VersionsSound.identity (sound : VersionsSound versions) (memberA : a ∈ versions) (memberB : b ∈ versions)
    (sameKey : a.keyId = b.keyId) : SameIdentity a b := by
  obtain ⟨history, valid, members⟩ := sound.history memberB
  refine (valid.slots b.keyId).identity a ?_ b ?_
  · exact mem_recordsOf.mpr ⟨(members a).mpr ⟨memberA, sameKey⟩, sameKey⟩
  · exact mem_recordsOf.mpr ⟨(members b).mpr ⟨memberB, rfl⟩, rfl⟩

theorem compileVerificationKeyHistory_records (compiled : compileVerificationKeyHistory records = .ok history) :
    history.records = records := by
  unfold compileVerificationKeyHistory at compiled
  split at compiled
  · exact absurd compiled (by simp)
  · rw [← Except.ok.inj compiled]

theorem verify_ok (read : options.history = some history)
    (verified : verifyKeyBoundStatement authentication options = .ok accepted) :
    ∃ key ∈ history.records, key.keyId = authentication.keyId ∧ key.keyVersion = authentication.keyVersion ∧
      issuanceTimeRefusal key authentication.issuedAtMs = none := by
  obtain ⟨key, passed, _⟩ := bind_ok.mp verified
  obtain ⟨shaped, passed⟩ := require_bind.mp passed
  obtain ⟨found, held, passed⟩ := given_bind.mp passed
  obtain rfl := Option.some.inj (read.symm.trans held)
  obtain ⟨_, _, passed⟩ := bind_ok.mp passed
  obtain ⟨looked, lookup, passed⟩ := given_bind.mp passed
  obtain ⟨_, _, passed⟩ := bind_ok.mp passed
  obtain ⟨_, _, passed⟩ := bind_ok.mp passed
  have named := isKeyBoundAuthentication_named shaped
  obtain ⟨member, keyId, keyVersion⟩ :=
    (CompiledVerificationKeyHistory.lookup_eq_some named).mp lookup
  refine ⟨looked, member, keyId, keyVersion, ?_⟩
  cases time : issuanceTimeRefusal looked authentication.issuedAtMs with
  | none => rfl
  | some refusal =>
    rw [time] at passed
    exact absurd passed (by simp)

theorem verify_atIssuance (read : options.history = some history)
    (refused : verifyKeyBoundStatement authentication options = .error (.atIssuance refusal)) :
    ∃ key ∈ history.records, key.keyId = authentication.keyId ∧ key.keyVersion = authentication.keyVersion ∧
      issuanceTimeRefusal key authentication.issuedAtMs ≠ none := by
  have early : preflightKeyBoundStatement authentication options = .error (.atIssuance refusal) := by
    rcases bind_error.mp refused with early | ⟨_, _, late⟩
    · exact early
    · simp [bind_error, require_error, given_error] at late
  unfold preflightKeyBoundStatement at early
  simp only [bind_error, require_error, given_error, require_ok, given_ok, reduceCtorEq, and_false, false_or] at early
  obtain ⟨_, shaped, found, held, _, _, looked, lookup, _, _, _, _, time⟩ := early
  obtain rfl := Option.some.inj (read.symm.trans held)
  obtain ⟨member, keyId, keyVersion⟩ :=
    (CompiledVerificationKeyHistory.lookup_eq_some (isKeyBoundAuthentication_named shaped)).mp lookup
  refine ⟨looked, member, keyId, keyVersion, fun admitted => ?_⟩
  simp [admitted, bind_error, require_error] at time

/-- In every store that committed mutations lead to, at most one version of a key admits an issuance time, with the
identity that was provisioned first; and what a version does not admit it never admits later, so a statement that was
refused for its issuance time is not accepted with any later history. -/
theorem one_version_signs_and_validity_shrinks {commands later : List LifecycleCommand}
    {store after : VerificationKeyLifecycleStore} (run : CommittedRun commands .empty store)
    (rest : CommittedRun later store after) :
    (∀ a ∈ store.versions, ∀ b ∈ store.versions, a.keyId = b.keyId → ∀ issuedAtMs,
      issuanceTimeRefusal a issuedAtMs = none → issuanceTimeRefusal b issuedAtMs = none → a = b) ∧
    (∀ record ∈ store.versions, (∃ first, Provisioned commands first ∧ first.keyId = record.keyId) ∧
      ∀ first, Provisioned commands first → first.keyId = record.keyId → SameIdentity first record) ∧
    (∀ old ∈ store.versions, ∃ new ∈ after.versions, new.keyId = old.keyId ∧ new.keyVersion = old.keyVersion) ∧
    (∀ old ∈ store.versions, ∀ new ∈ after.versions, new.keyId = old.keyId → new.keyVersion = old.keyVersion →
      ∀ issuedAtMs, issuanceTimeRefusal old issuedAtMs ≠ none → issuanceTimeRefusal new issuedAtMs ≠ none) ∧
    ∀ authentication options options' records records' history history',
      (∀ record ∈ records, record ∈ store.versions) → compileVerificationKeyHistory records = .ok history →
      options.history = some history →
      (∀ record ∈ records', record ∈ after.versions) → compileVerificationKeyHistory records' = .ok history' →
      options'.history = some history' →
      (∃ refusal, verifyKeyBoundStatement authentication options = .error (.atIssuance refusal)) →
      ∀ accepted, verifyKeyBoundStatement authentication options' ≠ .ok accepted := by
  have sound := run.sound versionsSound_empty
  have soundAfter := rest.sound sound
  have shrinks : ∀ old ∈ store.versions, ∀ new ∈ after.versions, new.keyId = old.keyId →
      new.keyVersion = old.keyVersion → ∀ issuedAtMs,
      issuanceTimeRefusal old issuedAtMs ≠ none → issuanceTimeRefusal new issuedAtMs ≠ none := by
    intro old member new found sameKey sameVersion issuedAtMs refused admitted
    obtain ⟨evolved, kept, evolves⟩ := rest.evolves sound old member
    obtain rfl := soundAfter.sole found kept (sameKey.trans evolves.keyId.symm) (sameVersion.trans evolves.keyVersion.symm)
    exact refused (evolves.admits admitted)
  refine ⟨?_, ?_, ?_, shrinks, ?_⟩
  · intro a memberA b memberB sameKey issuedAtMs admittedA admittedB
    obtain ⟨history, valid, members⟩ := sound.history memberB
    have inA := (members a).mpr ⟨memberA, sameKey⟩
    have inB := (members b).mpr ⟨memberB, rfl⟩
    obtain ⟨_, begunA, runningA, _⟩ := issuanceTimeRefusal_eq_none.mp admittedA
    obtain ⟨_, begunB, runningB, _⟩ := issuanceTimeRefusal_eq_none.mp admittedB
    rcases lt_trichotomy a.keyVersion b.keyVersion with before | same | after
    · have := valid.apart inA inB sameKey before
      omega
    · exact valid.eq_of_version inA inB sameKey same
    · have := valid.apart inB inA sameKey.symm after
      omega
  · intro record member
    obtain ⟨named, kept⟩ := run.provisioned
    refine ⟨named record member, fun first provisioned sameKey => ?_⟩
    obtain ⟨version, found, evolves⟩ := kept first provisioned
    exact evolves.identity.trans (sound.identity found member (evolves.keyId.trans sameKey))
  · intro old member
    obtain ⟨new, kept, evolves⟩ := rest.evolves sound old member
    exact ⟨new, kept, evolves.keyId, evolves.keyVersion⟩
  · intro authentication options options' records records' history history' stored compiled read stored' compiled' read'
      ⟨refusal, refused⟩ accepted verified
    obtain ⟨old, member, keyId, keyVersion, excluded⟩ := verify_atIssuance read refused
    obtain ⟨new, found, keyId', keyVersion', admitted⟩ := verify_ok read' verified
    rw [compileVerificationKeyHistory_records compiled] at member
    rw [compileVerificationKeyHistory_records compiled'] at found
    exact shrinks old (stored old member) new (stored' new found) (keyId'.trans keyId.symm)
      (keyVersion'.trans keyVersion.symm) _ excluded admitted

def sampleDigestOf (command : LifecycleCommand) : Str := ⟨List.replicate 64 (48 + command.expectedRevision.toNat.toUInt16)⟩

def sampleStore (commands : List LifecycleCommand) : VerificationKeyLifecycleStore :=
  commands.foldl
    (fun store command => ((store.commit command (sampleDigestOf command)).toOption.map Prod.fst).getD store) .empty

def sampleRevocation : LifecycleCommand := .revoke 2 30 "k" 2 80

/-- The rotation cuts the time 60 off the first version, also after the second version is revoked. -/
theorem one_version_signs_and_validity_shrinks_rotation :
    issuanceTimeRefusal sampleKey 60 = none ∧
      ∀ new ∈ (sampleStore [sampleProvision, sampleRotation, sampleRevocation]).versions, new.keyVersion = 1 →
        issuanceTimeRefusal new 60 ≠ none := by
  have first : VerificationKeyLifecycleStore.empty.commit sampleProvision (sampleDigestOf sampleProvision) =
      .ok (sampleStore [sampleProvision], 1) := by decide +kernel
  have second : (sampleStore [sampleProvision]).commit sampleRotation (sampleDigestOf sampleRotation) =
      .ok (sampleStore [sampleProvision, sampleRotation], 2) := by decide +kernel
  have third : (sampleStore [sampleProvision, sampleRotation]).commit sampleRevocation (sampleDigestOf sampleRevocation) =
      .ok (sampleStore [sampleProvision, sampleRotation, sampleRevocation], 3) := by decide +kernel
  have run := CommittedRun.commit (.commit (.refl _) (by decide +kernel) first) (by decide +kernel) second
  have rest := CommittedRun.commit (.refl _) (by decide +kernel) third
  obtain ⟨_, _, _, shrinks, _⟩ := one_version_signs_and_validity_shrinks run rest
  have named : ∀ new ∈ (sampleStore [sampleProvision, sampleRotation, sampleRevocation]).versions,
      new.keyId = endedKey.keyId := by decide +kernel
  refine ⟨by decide +kernel, fun new member version => ?_⟩
  exact shrinks endedKey (by decide +kernel) new member (named new member) version 60 (by decide +kernel)

end ConvergeAudit.Keys
