import ConvergeAudit.Bft.Safety

/-!
An event whose dependencies mismatched keeps its reservation and is not stored: a later copy is answered as buffered.
-/

namespace ConvergeAudit.Bft

open List

/-- How the first copy of an event stands. -/
inductive Standing where
  | accepted
  | buffered
  | rejected

def DeliveryResult.standing : DeliveryResult → Standing
  | .accepted _ => .accepted
  | .buffered => .buffered
  | .rejected _ => .rejected

/-- A dependency mismatch was reported for the digest, as an answer or in `flushed_alerts`. -/
def MismatchReported (trace : List Observation) (digest : Digest) : Prop :=
  ∃ item ∈ trace, item.reports = some digest

namespace AuditAdapter
open Moon Lib

def Buffers (self : AuditAdapter) (digest : Digest) : Prop := ∃ signed ∈ self.pendingBuffer, signed.digest = digest

instance (self : AuditAdapter) (digest : Digest) : Decidable (self.Buffers digest) :=
  inferInstanceAs (Decidable (∃ signed ∈ self.pendingBuffer, signed.digest = digest))

def standing (self : AuditAdapter) (digest : Digest) : Standing :=
  if self.digestStore.contains digest.text then .accepted
  else if self.Buffers digest then .buffered
  else .rejected

theorem mem_ledger :
    digest ∈ ledger adapter trace ↔
      (∃ id, .accepted digest id ∈ trace) ∨ MismatchReported trace digest ∨ adapter.Buffers digest := by
  have settled : digest ∈ settledIn trace ↔ (∃ id, .accepted digest id ∈ trace) ∨ MismatchReported trace digest := by
    constructor
    · intro member
      obtain ⟨item, occurs, settles⟩ := mem_filterMap.mp member
      cases item with
      | accepted other id =>
        cases settles
        exact Or.inl ⟨id, occurs⟩
      | _ => exact Or.inr ⟨_, occurs, settles⟩
    · rintro (⟨id, occurs⟩ | ⟨item, occurs, reports⟩)
      · exact mem_filterMap.mpr ⟨_, occurs, rfl⟩
      · refine mem_filterMap.mpr ⟨item, occurs, ?_⟩
        cases item with
        | accepted other id => cases reports
        | _ => exact reports
  rw [ledger, mem_append, settled, or_assoc, mem_map]
  rfl

section
variable [StrOrder] [DoubleFormat]

theorem Accounted.not_mem_of_free (accounted : Accounted adapter trace) (injective : adapter.hasher.CollisionFree)
    (passed : adapter.refusal signed = none)
    (free : adapter.eventDigests.get (eqKey signed.event.id) ≠ some signed.digest) :
    signed.digest ∉ ledger adapter trace := by
  intro member
  obtain ⟨other, held, same⟩ := accounted.held _ member
  have named := (held.authentic.same_of_digest injective (refusal_eq_none_iff.mp passed) same).1
  apply free
  rw [← named, held.bound, same]

theorem Accounted.exclusive (accounted : Accounted adapter trace) (injective : adapter.hasher.CollisionFree)
    (reported : MismatchReported trace digest) : (∀ id, .accepted digest id ∉ trace) ∧ ¬ adapter.Buffers digest := by
  have distinct := nodup_append.mp (accounted.distinct injective)
  obtain ⟨item, occurs, reports⟩ := reported
  have settles : item.settles = some digest := by
    cases item with
    | accepted other id => cases reports
    | _ => exact reports
  constructor
  · intro id accepted
    have same := eq_of_nodup_filterMap distinct.1 occurs accepted settles rfl
    rw [same] at reports
    cases reports
  · rintro ⟨other, buffered, same⟩
    exact distinct.2.2 digest (mem_filterMap.mpr ⟨item, occurs, settles⟩) _
      (mem_map_of_mem buffered) same.symm

variable {next : AuditAdapter}

theorem buffers_of_not_reported (consistent : Consistent adapter trace) (accounted : Accounted adapter trace)
    (delivery : Delivery adapter signed next .buffered seen) (silent : ¬ MismatchReported trace signed.digest) :
    next.Buffers signed.digest := by
  cases delivery with
  | waiting passed found absent =>
    rcases mem_ledger.mp (accounted.complete _ _ found) with accepted | reported | buffered
    · rw [← consistent.stored_iff, absent] at accepted
      cases accepted
    · exact absurd reported silent
    · exact buffered
  | buffered passed fresh lacking => exact ⟨signed, by simp, rfl⟩

theorem not_buffers_of_reported (accounted : Accounted adapter trace) (injective : adapter.hasher.CollisionFree)
    (delivery : Delivery adapter signed next .buffered seen) (reported : MismatchReported trace signed.digest) :
    ¬ next.Buffers signed.digest := by
  cases delivery with
  | waiting passed found absent => exact (accounted.exclusive injective reported).2
  | buffered passed fresh lacking =>
    have absent := accounted.not_mem_of_free injective passed (by simp [fresh])
    exact absurd (mem_ledger.mpr (.inr (.inl reported))) absent

/-- An answer to a passing event is the standing of its digest, unless a mismatch was reported. -/
theorem answer_iff_not_reported (consistent : Consistent adapter trace) (accounted : Accounted adapter trace)
    (injective : adapter.hasher.CollisionFree) (delivery : Delivery adapter signed next result seen)
    (passed : adapter.refusal signed = none) :
    result.standing = next.standing signed.digest ↔ ¬ MismatchReported trace signed.digest := by
  have sound := (consistent.deliver delivery).1
  -- Unless the event holds its id, no table knows its digest.
  have unknown : adapter.eventDigests.get (eqKey signed.event.id) ≠ some signed.digest →
      adapter.digestStore.contains signed.digest.text = false ∧ ¬ MismatchReported trace signed.digest ∧
        ¬ adapter.Buffers signed.digest := by
    intro free
    have absent := accounted.not_mem_of_free injective passed free
    rw [mem_ledger, not_or, not_or, ← consistent.stored_iff] at absent
    exact ⟨eq_false_of_ne_true absent.1, absent.2⟩
  cases delivery with
  | refused alert failed =>
    rw [failed] at passed
    cases passed
  | equivocation existing alert _ found different kind =>
    obtain ⟨absent, silent, unbuffered⟩ := unknown (by rw [found]; simpa using different)
    simp [DeliveryResult.standing, standing, absent, silent, unbuffered]
  | repeated _ found stored =>
    have silent : ¬ MismatchReported trace signed.digest := by
      intro reported
      obtain ⟨id, accepted⟩ := consistent.stored_iff.mp stored
      exact (accounted.exclusive injective reported).1 id accepted
    simp [DeliveryResult.standing, standing, stored, silent]
  | waiting _ found absent =>
    by_cases reported : MismatchReported trace signed.digest
    · have unbuffered := (accounted.exclusive injective reported).2
      simp [DeliveryResult.standing, standing, absent, unbuffered, reported]
    · have buffered := buffers_of_not_reported consistent accounted (.waiting passed found absent) reported
      simp [DeliveryResult.standing, standing, absent, buffered, reported]
  | buffered _ fresh lacking =>
    obtain ⟨absent, silent, -⟩ := unknown (by simp [fresh])
    have buffered := buffers_of_not_reported consistent accounted (.buffered passed fresh lacking) silent
    have absent : (adapter.reserve signed).digestStore.contains signed.digest.text = false := absent
    simp [DeliveryResult.standing, standing, absent, silent, buffered]
  | mismatched _ fresh complete mismatch =>
    obtain ⟨absent, silent, unbuffered⟩ := unknown (by simp [fresh])
    have absent : (adapter.reserve signed).digestStore.contains signed.digest.text = false := absent
    have unbuffered : ¬ (adapter.reserve signed).Buffers signed.digest := unbuffered
    simp [DeliveryResult.standing, standing, absent, silent, unbuffered]
  | accepted recorded batch rest _ fresh complete matched own perm stuck ready =>
    obtain ⟨-, silent, -⟩ := unknown (by simp [fresh])
    have stored := sound.stored signed.digest signed.event.id (by simp)
    simp [DeliveryResult.standing, standing, stored, silent]

/-- After every run: the answer `Buffered` is truthful if no dependency mismatch was reported for the
digest before. With a collision-free hasher it is truthful only then, and the answer to an event that
passes the checks, a first copy or a duplicate, is the standing of its digest exactly then. -/
theorem deliver_reports_standing_iff (hasher : Hasher) (verifier : Verifier) (sessionId : Str) (calls : List Call)
    (signed : SignedEvent) :
    let adapter := ((new hasher verifier sessionId).run calls).1
    let trace := ((new hasher verifier sessionId).run calls).2
    let next := (adapter.deliver signed).1
    let result := (adapter.deliver signed).2
    (¬ MismatchReported trace signed.digest → result = .buffered → next.Buffers signed.digest) ∧
    (hasher.CollisionFree →
      (result = .buffered → (next.Buffers signed.digest ↔ ¬ MismatchReported trace signed.digest)) ∧
      (adapter.refusal signed = none →
        (result.standing = next.standing signed.digest ↔ ¬ MismatchReported trace signed.digest))) := by
  intro adapter trace next result
  obtain ⟨consistent, accounted, -, parameters⟩ := run_reached hasher verifier sessionId calls
  have sameHasher : adapter.hasher = hasher := parameters.hasher
  have delivery : Delivery adapter signed next result _ := adapter.deliver_delivery signed
  have truthful : ¬ MismatchReported trace signed.digest → result = .buffered → next.Buffers signed.digest := by
    intro silent buffered
    rw [buffered] at delivery
    exact buffers_of_not_reported consistent accounted delivery silent
  refine ⟨truthful, fun injective => ⟨fun buffered => ⟨fun held reported => ?_, fun silent => ?_⟩, fun passed => ?_⟩⟩
  · rw [← sameHasher] at injective
    rw [buffered] at delivery
    exact not_buffers_of_reported accounted injective delivery reported held
  · exact truthful silent buffered
  · rw [← sameHasher] at injective
    exact answer_iff_not_reported consistent accounted injective delivery passed

end

section
open Shortlex DoubleBits

def genuineEvent : SignedEvent := sampleEvent .identity "carol" 0 []

/-- Names an event of alice but the digest of the event of carol. -/
def mismatchedEvent : SignedEvent := sampleEvent .identity "bobby" 0 [(⟨⟨"alice"⟩, 0⟩, genuineEvent.digest)]

def deliveries (events : List SignedEvent) : List Call :=
  .registerPeer ⟨"bobby"⟩ ⟨"key"⟩ :: .registerPeer ⟨"carol"⟩ ⟨"key"⟩ :: events.map .deliver

def afterCalls (events : List SignedEvent) : AuditAdapter :=
  ((new .identity trustingVerifier "game").run (deliveries events)).1

/-- As long as its dependency is missing, both copies wait. -/
theorem deliver_reports_standing_iff_waiting_copy :
    let (next, result) := (afterCalls [mismatchedEvent]).deliver mismatchedEvent
    result = .buffered ∧ next.Buffers mismatchedEvent.digest ∧ result.standing = next.standing mismatchedEvent.digest := by
  have buffered : ((afterCalls [mismatchedEvent]).deliver mismatchedEvent).2 = .buffered := by decide +kernel
  have silent : ¬ ∃ item ∈ ((new .identity trustingVerifier "game").run (deliveries [mismatchedEvent])).2,
      item.reports = some mismatchedEvent.digest := by decide +kernel
  obtain ⟨truthful, exactly⟩ :=
    deliver_reports_standing_iff .identity trustingVerifier "game" (deliveries [mismatchedEvent]) mismatchedEvent
  exact ⟨buffered, truthful silent buffered,
    ((exactly Hasher.identity_collisionFree).2 (by decide +kernel)).mpr silent⟩

/-- Rejected when it was delivered, or reported by the flush: either way a second copy is answered
`Buffered` with an empty buffer. -/
theorem mismatched_copy_is_answered_buffered :
    ((afterCalls [genuineEvent]).deliver mismatchedEvent).2 = .rejected (dependencyMismatchAlert mismatchedEvent) ∧
    ((afterCalls [genuineEvent, mismatchedEvent]).deliver mismatchedEvent).2 = .buffered ∧
    ((afterCalls [genuineEvent, mismatchedEvent]).deliver mismatchedEvent).1.pendingBuffer = [] ∧
    (afterCalls [mismatchedEvent, genuineEvent]).flushedAlerts = [dependencyMismatchAlert mismatchedEvent] ∧
    ((afterCalls [mismatchedEvent, genuineEvent]).deliver mismatchedEvent).2 = .buffered ∧
    ((afterCalls [mismatchedEvent, genuineEvent]).deliver mismatchedEvent).1.pendingBuffer = [] := by
  decide +kernel

end

end AuditAdapter

end ConvergeAudit.Bft
