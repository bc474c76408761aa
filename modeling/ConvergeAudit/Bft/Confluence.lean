import ConvergeAudit.Bft.Duplicates
import Mathlib.Order.Bounds.Basic

/-!
Which of a set of agreeing, authentic events are accepted does not depend on the order of delivery or on
repetitions: the accepted digests are the least causally closed set.
-/

namespace ConvergeAudit.Bft
open Moon Lib List

/-- An event is accepted exactly if its dependencies are, each under the event id declared for it. -/
def CausallyClosed (events : List SignedEvent) (accepted : Set Digest) : Prop :=
  ∀ signed ∈ events, signed.digest ∈ accepted ↔
    (∀ dep ∈ signed.depHashes, dep ∈ accepted) ∧
      ∀ pair ∈ signed.pairs, ∃ other ∈ events, other.digest = pair.2 ∧ other.event.id = pair.1

/-- The events that the delivered events justify, each by a finite tree of dependencies. -/
inductive Justified (events : List SignedEvent) : EventId → Digest → Prop where
  | event (signed : SignedEvent) (member : signed ∈ events)
      (deps : ∀ pair ∈ signed.pairs, Justified events pair.1 pair.2) :
      Justified events signed.event.id signed.digest

theorem Justified.source {id : EventId} (justified : Justified events id digest) :
    ∃ signed ∈ events, signed.event.id = id ∧ signed.digest = digest ∧
      ∀ pair ∈ signed.pairs, Justified events pair.1 pair.2 := by
  obtain ⟨signed, member, deps⟩ := justified
  exact ⟨signed, member, rfl, rfl, deps⟩

variable {signed : SignedEvent}

theorem SignedEvent.mem_depHashes_iff (counts : signed.event.deps.length = signed.depHashes.length) (dep : Digest) :
    dep ∈ signed.depHashes ↔ ∃ pair ∈ signed.pairs, pair.2 = dep := by
  have column : signed.pairs.map Prod.snd = signed.depHashes := map_snd_zip counts.ge
  rw [← column, mem_map]

/-- If a digest determines the id and the dependency pairs, the justified digests are the least
causally closed set. -/
theorem justified_isLeast (counts : ∀ signed ∈ events, signed.event.deps.length = signed.depHashes.length)
    (binding : ∀ first ∈ events, ∀ second ∈ events, first.digest = second.digest →
      first.event.id = second.event.id ∧ first.pairs.Perm second.pairs) :
    IsLeast {accepted | CausallyClosed events accepted} {digest | ∃ id, Justified events id digest} := by
  constructor
  · intro signed member
    constructor
    · rintro ⟨id, justified⟩
      obtain ⟨source, occurs, -, same, deps⟩ := justified.source
      have pairs := (binding source occurs signed member same).2
      refine ⟨fun dep depends => ?_, fun pair depends => ?_⟩
      · obtain ⟨pair, listed, rfl⟩ := (signed.mem_depHashes_iff (counts signed member) dep).mp depends
        exact ⟨pair.1, deps pair (pairs.mem_iff.mpr listed)⟩
      · obtain ⟨other, origin, named, digest, -⟩ := (deps pair (pairs.mem_iff.mpr depends)).source
        exact ⟨other, origin, digest, named⟩
    · rintro ⟨accepted, named⟩
      refine ⟨signed.event.id, .event signed member fun pair depends => ?_⟩
      have listed := (signed.mem_depHashes_iff (counts signed member) pair.2).mpr ⟨pair, depends, rfl⟩
      obtain ⟨id, justified⟩ := accepted pair.2 listed
      obtain ⟨source, occurs, rfl, digest, -⟩ := justified.source
      obtain ⟨other, origin, same, declared⟩ := named pair depends
      have agreed := (binding source occurs other origin (digest.trans same.symm)).1
      rwa [agreed, declared] at justified
  · rintro accepted closed digest ⟨id, justified⟩
    induction justified with
    | event signed member deps ih =>
      refine (closed signed member).mpr ⟨fun dep depends => ?_, fun pair depends => ?_⟩
      · obtain ⟨pair, listed, rfl⟩ := (signed.mem_depHashes_iff (counts signed member) dep).mp depends
        exact ih pair listed
      · obtain ⟨other, origin, named, digest, -⟩ := (deps pair depends).source
        exact ⟨other, origin, digest, named⟩

theorem eqKey_injective : Function.Injective eqKey := by
  intro first second same
  have units := congrArg (List.reverse ∘ Str.units) same
  have separator : (lit ":").units = [58] := by decide
  simp only [eqKey, Function.comp, Str.units_append, separator, reverse_append, reverse_cons,
    reverse_nil, nil_append, singleton_append] at units
  have absent : ∀ n : Int, (58 : UInt16) ∉ (Str.ofInt n).units.reverse := by
    intro n member
    exact separator_not_mem_ofInt (mem_reverse.mp member)
  obtain ⟨counters, peers⟩ := split_at_separator (absent _) (absent _) units
  have counter := Str.ofInt_injective (Str.ext (reverse_injective counters))
  have peer := Str.ext (reverse_injective peers)
  cases first with
  | mk peer1 counter1 =>
    cases second
    cases peer1
    simp_all

namespace AuditAdapter

section
variable [StrOrder] [DoubleFormat]

/-- An adapter that started from `start` and was given events of the set only. -/
structure Underway (hasher : Hasher) (verifier : Verifier) (sessionId : Str) (start : AuditAdapter)
    (events : List SignedEvent) (adapter : AuditAdapter) (trace : List Observation) : Prop where
  reached : Reached hasher verifier sessionId adapter trace
  later : Extends start adapter
  inside : ∀ signed, .delivered signed ∈ trace → signed ∈ events
  reserved : ∀ signed, .delivered signed ∈ trace →
    adapter.eventDigests.get (eqKey signed.event.id) = some signed.digest

variable {hasher : Hasher} {verifier : Verifier}

section
variable (underway : Underway hasher verifier sessionId start events adapter trace)
include underway

theorem Underway.deliver (passing : ∀ signed ∈ events, start.refusal signed = none)
    (agree : ∀ first ∈ events, ∀ second ∈ events, first.event.id = second.event.id → first.digest = second.digest)
    (member : signed ∈ events) :
    Underway hasher verifier sessionId start events (adapter.apply (.deliver signed)).1
      (trace ++ (adapter.apply (.deliver signed)).2) := by
  obtain ⟨reached, later, inside, reserved⟩ := underway
  have delivery := adapter.deliver_delivery signed
  obtain ⟨-, step⟩ := reached.consistent.deliver delivery
  have passed := refusal_eq_none_iff.mpr ((refusal_eq_none_iff.mp (passing signed member)).mono later)
  have only : ∀ other, .delivered other ∈ adapter.observe signed (adapter.deliver signed).1 (adapter.deliver signed).2 →
      other = signed := fun other => delivered_eq delivery
  have own : (adapter.deliver signed).1.eventDigests.get (eqKey signed.event.id) = some signed.digest := by
    refine reserved_of_delivery reached.consistent delivery passed fun existing found => ?_
    obtain ⟨other, held, same, named⟩ := reached.accounted.origin _ _ found
    rw [← same]
    exact agree other (inside other held.delivered) signed member (eqKey_injective named)
  refine ⟨reached.apply _, later.trans step, fun other occurs => ?_, fun other occurs => ?_⟩
  all_goals
    rcases mem_append.mp occurs with old | new
  · exact inside other old
  · exact only other new ▸ member
  · exact step.reservations _ _ (reserved other old)
  · exact only other new ▸ own

theorem Underway.justified {id : EventId} (accepted : .accepted digest id ∈ trace) : Justified events id digest := by
  have all : ∀ item ∈ trace, ∀ digest id, item = .accepted digest id → Justified events id digest := by
    refine underway.reached.consistent.sound.all ?_
    rintro before item earlier sound justified digest id rfl
    obtain ⟨signed, vouched, rfl, rfl, deps⟩ := sound
    refine .event signed (underway.inside signed (earlier vouched.delivered)) fun pair depends => ?_
    exact justified _ (deps pair depends) pair.2 pair.1 rfl
  exact all _ accepted digest id rfl

theorem Underway.stored
    (injective : adapter.hasher.CollisionFree) (authentic : ∀ signed ∈ events, Authentic adapter signed)
    (delivered : ∀ signed ∈ events, .delivered signed ∈ trace) {id : EventId} (justified : Justified events id digest) :
    adapter.digestStore.contains digest.text = true := by
  obtain ⟨consistent, accounted, progress, -⟩ := underway.reached
  induction justified with
  | event signed member deps ih =>
    have own := authentic signed member
    have entered := accounted.complete _ _ (underway.reserved signed (delivered signed member))
    rcases mem_ledger.mp entered with accepted | ⟨item, occurs, reports⟩ | ⟨other, buffered, same⟩
    · exact consistent.stored_iff.mpr accepted
    · -- A report needs a dependency that was accepted under another id than the justified one.
      obtain ⟨other, held, same, pair, listed, id, different, accepted⟩ :=
        progress.blocked injective item occurs _ reports
      have pairs := (held.authentic.same_of_digest injective own same).2
      obtain ⟨one, oneIn, oneId, oneDigest, -⟩ := (deps pair (pairs.mem_iff.mp listed)).source
      obtain ⟨two, twoIn, twoId, twoDigest, -⟩ := (underway.justified accepted).source
      have agreed := (authentic one oneIn).same_of_digest injective (authentic two twoIn) (oneDigest.trans twoDigest.symm)
      exact absurd (twoId.symm.trans (agreed.1.symm.trans oneId)) different
    · -- A buffered event lacks a dependency, but all of them are stored.
      have held := consistent.pending other buffered
      have pairs := (held.authentic.same_of_digest injective own same).2
      have lacking := progress.waiting other buffered
      obtain ⟨dep, depends, absent⟩ := any_eq_true.mp lacking
      obtain ⟨pair, listed, rfl⟩ := (other.mem_depHashes_iff held.authentic.counts dep).mp depends
      rw [ih pair (pairs.mem_iff.mp listed)] at absent
      cases absent

end

end

section
variable [StrOrder] [DoubleFormat]

def afterRoster (hasher : Hasher) (verifier : Verifier) (sessionId : Str) (roster : List (PeerId × PublicKey)) :
    AuditAdapter × List Observation :=
  (new hasher verifier sessionId).run (roster.map fun entry => .registerPeer entry.1 entry.2)

def deliverAll (self : AuditAdapter) (order : List SignedEvent) : AuditAdapter × List Observation :=
  self.run (order.map .deliver)

theorem run_registrations (self : AuditAdapter) (roster : List (PeerId × PublicKey)) (signed : SignedEvent) :
    .delivered signed ∉ (self.run (roster.map fun entry => .registerPeer entry.1 entry.2)).2 := by
  induction roster generalizing self with
  | nil => simp [run]
  | cons entry rest ih =>
    rw [map_cons, run]
    dsimp only [apply]
    rw [mem_append, not_or]
    refine ⟨?_, ih _⟩
    split <;> simp

theorem delivered_mem_deliverAll (self : AuditAdapter) (member : signed ∈ order) :
    .delivered signed ∈ (self.deliverAll order).2 := by
  unfold deliverAll
  induction order generalizing self with
  | nil => cases member
  | cons first rest ih =>
    rw [map_cons, run]
    rcases mem_cons.mp member with rfl | later
    · exact mem_append_left _ (delivered_mem (self.deliver_delivery signed))
    · exact mem_append_right _ (ih _ later)

theorem deliverAll_underway {hasher : Hasher} {verifier : Verifier}
    (passing : ∀ signed ∈ events, (afterRoster hasher verifier sessionId roster).1.refusal signed = none)
    (agree : ∀ first ∈ events, ∀ second ∈ events, first.event.id = second.event.id → first.digest = second.digest)
    (inside : order ⊆ events) :
    let start := afterRoster hasher verifier sessionId roster
    Underway hasher verifier sessionId start.1 events (start.1.deliverAll order).1
      (start.2 ++ (start.1.deliverAll order).2) := by
  intro start
  have silent : ∀ signed, .delivered signed ∉ start.2 := run_registrations _ roster
  have begun : Underway hasher verifier sessionId start.1 events start.1 start.2 :=
    ⟨run_reached hasher verifier sessionId _, Extends.refl _, fun signed member => absurd member (silent signed),
      fun signed member => absurd member (silent signed)⟩
  refine run_invariant (P := Underway hasher verifier sessionId start.1 events) ?_ begun
  intro adapter trace call member underway
  obtain ⟨signed, listed, rfl⟩ := mem_map.mp member
  exact underway.deliver passing agree (inside listed)

/-- For every order of delivery, with any repetitions, the digests accepted in the end are the least
causally closed set; and after each delivery every buffered event lacks a dependency. -/
theorem deliveries_converge {hasher : Hasher} {verifier : Verifier} {sessionId : Str}
    {roster : List (PeerId × PublicKey)} {events order : List SignedEvent} (injective : hasher.CollisionFree)
    (passing : ∀ signed ∈ events, (afterRoster hasher verifier sessionId roster).1.refusal signed = none)
    (agree : ∀ first ∈ events, ∀ second ∈ events, first.event.id = second.event.id → first.digest = second.digest)
    (complete : ∀ signed, signed ∈ order ↔ signed ∈ events) :
    IsLeast {accepted | CausallyClosed events accepted}
      {digest | ((afterRoster hasher verifier sessionId roster).1.deliverAll order).1.digestStore.contains
        digest.text = true} ∧
    ∀ front back, order = front ++ back →
      ∀ signed ∈ ((afterRoster hasher verifier sessionId roster).1.deliverAll front).1.pendingBuffer,
        ∃ dep ∈ signed.depHashes, ((afterRoster hasher verifier sessionId roster).1.deliverAll
          front).1.digestStore.contains dep.text = false := by
  constructor
  · have underway := deliverAll_underway passing agree fun signed listed => (complete signed).mp listed
    have sameHasher : ((afterRoster hasher verifier sessionId roster).1.deliverAll order).1.hasher = hasher :=
      underway.reached.parameters.hasher
    rw [← sameHasher] at injective
    have authentic : ∀ signed ∈ events, Authentic _ signed := fun signed member =>
      (refusal_eq_none_iff.mp (passing signed member)).mono underway.later
    have least := justified_isLeast (fun signed member => (authentic signed member).counts)
      fun first member second other => (authentic first member).same_of_digest injective (authentic second other)
    convert least using 1
    ext digest
    constructor
    · intro stored
      obtain ⟨id, accepted⟩ := underway.reached.consistent.stored_iff.mp stored
      exact ⟨id, underway.justified accepted⟩
    · rintro ⟨id, justified⟩
      refine underway.stored injective authentic (fun signed member => ?_) justified
      exact mem_append_right _ (delivered_mem_deliverAll _ ((complete signed).mpr member))
  · rintro front back rfl signed buffered
    have underway := deliverAll_underway passing agree fun other listed =>
      (complete other).mp (mem_append_left back listed)
    have lacking := underway.reached.progress.waiting signed buffered
    obtain ⟨dep, depends, absent⟩ := any_eq_true.mp lacking
    exact ⟨dep, depends, by simpa using absent⟩

end

section
open Shortlex DoubleBits

def dependentEvent : SignedEvent := sampleEvent .identity "bobby" 0 [(genuineEvent.event.id, genuineEvent.digest)]

theorem deliveries_converge_reversed_chain :
    IsLeast {accepted | CausallyClosed [genuineEvent, dependentEvent] accepted}
      {digest | ((afterRoster .identity trustingVerifier "game"
        [(⟨"bobby"⟩, ⟨"key"⟩), (⟨"carol"⟩, ⟨"key"⟩)]).1.deliverAll
          [dependentEvent, genuineEvent, dependentEvent]).1.digestStore.contains digest.text = true} := by
  refine (deliveries_converge ?_ ?_ ?_ ?_).1
  · exact Hasher.identity_collisionFree
  · decide +kernel
  · decide +kernel
  · intro signed
    simp [or_comm]

end

end AuditAdapter

end ConvergeAudit.Bft
