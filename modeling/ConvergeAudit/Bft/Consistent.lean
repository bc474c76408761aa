import ConvergeAudit.Bft.Runs
import ConvergeAudit.Lib.History

/-!
The invariant `Consistent` ties the tables of the adapter to the trace: what the tables hold was
observed, and whatever was observed was delivered, passed every check and came after its dependencies.
-/

namespace ConvergeAudit.Bft.AuditAdapter
open Moon Lib List

structure Extends (adapter next : AuditAdapter) : Prop where
  hasher : next.hasher = adapter.hasher
  verifier : next.verifier = adapter.verifier
  session : next.session = adapter.session
  roster : ∀ peer key, adapter.peerKeys.get peer = some key → next.peerKeys.get peer = some key
  reservations : ∀ key digest, adapter.eventDigests.get key = some digest → next.eventDigests.get key = some digest

theorem Extends.refl (self : AuditAdapter) : Extends self self :=
  ⟨rfl, rfl, rfl, fun _ _ h => h, fun _ _ h => h⟩

theorem Extends.trans (left : Extends first second) (right : Extends second third) : Extends first third :=
  ⟨right.hasher.trans left.hasher, right.verifier.trans left.verifier, right.session.trans left.session,
    fun peer key h => right.roster peer key (left.roster peer key h),
    fun key digest h => right.reservations key digest (left.reservations key digest h)⟩

variable {next : AuditAdapter}

theorem Extends.logs (later : Extends adapter next) (events : List AuthenticatedEvent) (alerts : List AuditAlert) :
    Extends adapter { next with flushedEvents := events, flushedAlerts := alerts } :=
  ⟨later.hasher, later.verifier, later.session, later.roster, later.reservations⟩

theorem extends_buffer : Extends self { self with pendingBuffer := buffer } :=
  ⟨rfl, rfl, rfl, fun _ _ h => h, fun _ _ h => h⟩

theorem extends_registerPeer (self : AuditAdapter) (peer : PeerId) (key : PublicKey) :
    Extends self (self.registerPeer peer key).1 := by
  unfold registerPeer
  cases found : self.peerKeys.get peer.text with
  | some existing => exact Extends.refl self
  | none => exact ⟨rfl, rfl, rfl, fun _ _ => Map.get_set_of_fresh found, fun _ _ h => h⟩

theorem extends_reserve (fresh : self.eventDigests.get (eqKey signed.event.id) = none) :
    Extends self (self.reserve signed) :=
  ⟨rfl, rfl, rfl, fun _ _ h => h, fun _ _ => Map.get_set_of_fresh fresh⟩

theorem extends_record (reserved : self.eventDigests.get (eqKey signed.event.id) = some signed.digest) :
    Extends self (self.record signed) := by
  refine ⟨rfl, rfl, rfl, fun _ _ h => h, ?_⟩
  intro key digest bound
  simp only [record, Map.get_set]
  split
  · rename_i same
    rw [← reserved, ← same, bound]
  · exact bound

/-- The event was accepted, and each dependency it declares was accepted before that, under the event
id at the same position. -/
def AcceptedAfterDependencies (past : List Observation) (signed : SignedEvent) : Prop :=
  ∃ before after, past = before ++ .accepted signed.digest signed.event.id :: after ∧
    ∀ pair ∈ signed.pairs, .accepted pair.2 pair.1 ∈ before

theorem AcceptedAfterDependencies.append (accepted : AcceptedAfterDependencies past signed) (more : List Observation) :
    AcceptedAfterDependencies (past ++ more) signed := by
  obtain ⟨before, after, rfl, deps⟩ := accepted
  exact ⟨before, after ++ more, by simp, deps⟩

section
variable [StrOrder] [DoubleFormat]

/-- The checks that an event passes before its id is reserved. -/
structure Authentic (adapter : AuditAdapter) (signed : SignedEvent) : Prop where
  session : signed.sessionId = adapter.session
  hash : signed.digest = adapter.hasher.hashString (serializeForHash signed.sessionId signed.event signed.depHashes)
  roster : adapter.peerKeys.get signed.event.id.peer.text = some signed.authorKey
  signature : adapter.verifier.verify signed.authorKey signed.digest signed.signature = true
  counts : signed.event.deps.length = signed.depHashes.length

theorem refusal_eq_none_iff : self.refusal signed = none ↔ Authentic self signed := by
  unfold refusal
  simp (disch := simp) only [Lib.passes, ne_eq, not_not]
  constructor
  · rintro ⟨session, hash, passed⟩
    split at passed
    · cases passed
    rename_i expected roster
    simp (disch := simp) only [Lib.passes, not_not, Bool.not_not_eq, and_true] at passed
    obtain ⟨rfl, signature, counts⟩ := passed
    exact ⟨session, hash.symm, roster, signature, counts⟩
  · rintro ⟨session, hash, roster, signature, counts⟩
    refine ⟨session, hash.symm, ?_⟩
    simp [roster, signature, counts]

theorem Authentic.mono (authentic : Authentic self signed) (later : Extends self next) : Authentic next signed :=
  ⟨by rw [later.session]; exact authentic.session, by rw [later.hasher]; exact authentic.hash,
    later.roster _ _ authentic.roster, by rw [later.verifier]; exact authentic.signature, authentic.counts⟩

/-- With a collision-free hasher, one digest means one event id and the same dependency pairs. -/
theorem Authentic.same_of_digest (free : self.hasher.CollisionFree) (left : Authentic self first)
    (right : Authentic self second) (digest : first.digest = second.digest) :
    first.event.id = second.event.id ∧ first.pairs.Perm second.pairs := by
  rw [left.hash, right.hash] at digest
  obtain ⟨⟨_, ids, _, _, _, dependencies⟩, _⟩ := serializeForHash_sorted_iff.mp (free digest)
  rw [if_pos left.counts] at dependencies
  exact ⟨ids, dependencies⟩

/-- A delivered event that passes the checks, with the registration of its author's key. -/
structure Vouched (adapter : AuditAdapter) (past : List Observation) (signed : SignedEvent) : Prop where
  delivered : .delivered signed ∈ past
  registered : .registered signed.event.id.peer signed.authorKey ∈ past
  authentic : Authentic adapter signed

structure Reserved (adapter : AuditAdapter) (past : List Observation) (signed : SignedEvent) : Prop
    extends Vouched adapter past signed where
  bound : adapter.eventDigests.get (eqKey signed.event.id) = some signed.digest

/-- What stands behind an observation, given what was observed before it. -/
def Sound (adapter : AuditAdapter) (past : List Observation) : Observation → Prop
  | .accepted digest id => ∃ signed, Vouched adapter past signed ∧ signed.digest = digest ∧ signed.event.id = id ∧
      ∀ pair ∈ signed.pairs, .accepted pair.2 pair.1 ∈ past
  | .flushed event => ∃ signed, Vouched adapter past signed ∧ event = authenticatedEvent signed ∧
      AcceptedAfterDependencies past signed
  | .returned duplicate event => ∃ signed, Vouched adapter past signed ∧ event = authenticatedEvent signed ∧
      ((duplicate = true → adapter.hasher.CollisionFree) → AcceptedAfterDependencies past signed)
  | _ => True

/-- The tables of the adapter agree with the trace. -/
structure Consistent (adapter : AuditAdapter) (trace : List Observation) : Prop where
  roster : ∀ peer key, adapter.peerKeys.get peer = some key → .registered ⟨peer⟩ key ∈ trace
  store : ∀ key, adapter.digestStore.contains key = (adapter.digestIds.get key).isSome
  ids : ∀ key id, adapter.digestIds.get key = some id → .accepted ⟨key⟩ id ∈ trace
  stored : ∀ digest id, .accepted digest id ∈ trace → adapter.digestStore.contains digest.text = true
  reserved : ∀ digest id, .accepted digest id ∈ trace → adapter.eventDigests.get (eqKey id) = some digest
  pending : ∀ signed ∈ adapter.pendingBuffer, Reserved adapter trace signed
  sound : Throughout (Sound adapter) trace
  exposed : ∀ item ∈ trace, ∀ event, item.exposes = some event →
    adapter.eventDigests.get (eqKey event.event.id) = some event.digest

theorem Consistent.stored_iff (consistent : Consistent adapter trace) :
    adapter.digestStore.contains digest.text = true ↔ ∃ id, .accepted digest id ∈ trace := by
  constructor
  · intro stored
    rw [consistent.store] at stored
    obtain ⟨id, found⟩ := Option.isSome_iff_exists.mp stored
    exact ⟨id, consistent.ids _ _ found⟩
  · rintro ⟨id, occurs⟩
    exact consistent.stored digest id occurs

theorem Vouched.mono (vouched : Vouched adapter past signed) (later : Extends adapter next) (longer : past ⊆ more) :
    Vouched next more signed :=
  ⟨longer vouched.delivered, longer vouched.registered, vouched.authentic.mono later⟩

theorem Reserved.mono (held : Reserved adapter past signed) (later : Extends adapter next) (longer : past ⊆ more) :
    Reserved next more signed :=
  ⟨held.toVouched.mono later longer, later.reservations _ _ held.bound⟩

theorem Sound.mono (sound : Sound adapter past item) (later : Extends adapter next) : Sound next past item := by
  have same := List.Subset.refl past
  cases item with
  | accepted | flushed =>
    obtain ⟨signed, vouched, rest⟩ := sound
    exact ⟨signed, vouched.mono later same, rest⟩
  | returned duplicate event =>
    obtain ⟨signed, vouched, rest⟩ := sound
    exact ⟨signed, vouched.mono later same, by rw [later.hasher]; exact rest⟩
  | _ => trivial

theorem Sound.exposes (sound : Sound adapter past item) (exposes : item.exposes = some event) :
    ∃ signed, Vouched adapter past signed ∧ event = authenticatedEvent signed ∧
      ((item = .returned true event → adapter.hasher.CollisionFree) → AcceptedAfterDependencies past signed) := by
  cases item with
  | flushed other =>
    cases exposes
    obtain ⟨signed, vouched, same, accepted⟩ := sound
    exact ⟨signed, vouched, same, fun _ => accepted⟩
  | returned duplicate other =>
    cases exposes
    obtain ⟨signed, vouched, same, accepted⟩ := sound
    exact ⟨signed, vouched, same, fun free => accepted fun again => free (by rw [again])⟩
  | _ => cases exposes

theorem Consistent.frame (consistent : Consistent adapter trace) (later : Extends adapter next)
    (roster : ∀ peer key, next.peerKeys.get peer = some key → .registered ⟨peer⟩ key ∈ trace)
    (store : next.digestStore = adapter.digestStore) (ids : next.digestIds = adapter.digestIds)
    (pending : ∀ signed ∈ next.pendingBuffer, Reserved adapter trace signed) : Consistent next trace where
  roster := roster
  store := by rw [store, ids]; exact consistent.store
  ids := by rw [ids]; exact consistent.ids
  stored := by rw [store]; exact consistent.stored
  reserved digest id member := later.reservations _ _ (consistent.reserved digest id member)
  pending signed member := (pending signed member).mono later (List.Subset.refl _)
  sound := consistent.sound.mono fun _ _ sound => sound.mono later
  exposed item member event same := later.reservations _ _ (consistent.exposed item member event same)

theorem Consistent.snoc (consistent : Consistent adapter trace) (sound : Sound adapter trace item)
    (silent : ∀ digest id, item ≠ .accepted digest id) (exposed : ∀ event, item.exposes = some event →
      adapter.eventDigests.get (eqKey event.event.id) = some event.digest) :
    Consistent adapter (trace ++ [item]) := by
  have old {digest id} (member : .accepted digest id ∈ trace ++ [item]) : .accepted digest id ∈ trace :=
    (mem_append.mp member).resolve_right fun new => silent digest id (mem_singleton.mp new).symm
  refine ⟨fun peer key found => mem_append_left _ (consistent.roster peer key found), consistent.store,
    fun key id found => mem_append_left _ (consistent.ids key id found),
    fun digest id member => consistent.stored digest id (old member),
    fun digest id member => consistent.reserved digest id (old member),
    fun signed member => (consistent.pending signed member).mono (.refl _) (subset_append_left _ _),
    consistent.sound.snoc sound, forall_mem_concat consistent.exposed exposed⟩

theorem Consistent.record (consistent : Consistent adapter trace) (held : Reserved adapter trace signed)
    (matched : adapter.dependenciesMatch signed = true) :
    Consistent (adapter.record signed) (trace ++ [.accepted signed.digest signed.event.id]) := by
  have later := extends_record held.bound
  refine ⟨?_, ?_, ?_, ?_, ?_, ?_, ?_, ?_⟩
  · intro peer key found
    exact mem_append_left _ (consistent.roster peer key found)
  · intro key
    have before := consistent.store key
    by_cases same : key = signed.digest.text
    · simp [AuditAdapter.record, Map.contains, same]
    · simp only [AuditAdapter.record, Map.contains, Map.get_set, same, if_false] at before ⊢
      exact before
  · intro key id found
    simp only [AuditAdapter.record, Map.get_set] at found
    split at found
    · rename_i same
      cases found
      subst same
      simp
    · exact mem_append_left _ (consistent.ids key id found)
  · intro digest id member
    rcases mem_append.mp member with old | new
    · simp [AuditAdapter.record, Map.contains_set, consistent.stored digest id old]
    · cases mem_singleton.mp new
      simp [AuditAdapter.record, Map.contains_set]
  · intro digest id member
    rcases mem_append.mp member with old | new
    · exact later.reservations _ _ (consistent.reserved digest id old)
    · cases mem_singleton.mp new
      simp [AuditAdapter.record]
  · intro other member
    exact (consistent.pending other member).mono later (subset_append_left _ _)
  · refine (consistent.sound.mono fun _ _ sound => sound.mono later).snoc ?_
    refine ⟨signed, held.toVouched.mono later (List.Subset.refl _), rfl, rfl, ?_⟩
    intro pair member
    exact consistent.ids _ _ ((dependenciesMatch_iff.mp matched).2 pair member)
  · refine forall_mem_concat (fun item old event same => ?_) fun event same => by cases same
    exact later.reservations _ _ (consistent.exposed item old event same)

section
variable (consistent : Consistent adapter trace)
include consistent

theorem Consistent.alerts (alerts : List AuditAlert) : Consistent adapter (trace ++ alerts.map .alerted) := by
  induction alerts generalizing trace with
  | nil => simpa using consistent
  | cons alert rest ih =>
    rw [map_cons, append_cons]
    exact ih (consistent.snoc trivial (fun _ _ => by simp) (fun _ exposed => by cases exposed))

theorem Consistent.flushed (held : Reserved adapter trace signed)
    (accepted : AcceptedAfterDependencies trace signed) :
    Consistent adapter (trace ++ [.flushed (authenticatedEvent signed)]) :=
  consistent.snoc ⟨signed, held.toVouched, rfl, accepted⟩ (fun _ _ => by simp) fun event same => by
    cases same
    exact held.bound

theorem acceptedAfterDependencies_of_matched (matched : adapter.dependenciesMatch signed = true) :
    AcceptedAfterDependencies (trace ++ [.accepted signed.digest signed.event.id]) signed :=
  ⟨trace, [], rfl, fun pair member => consistent.ids _ _ ((dependenciesMatch_iff.mp matched).2 pair member)⟩

theorem Consistent.logs (events : List AuthenticatedEvent) (alerts : List AuditAlert) :
    Consistent { adapter with flushedEvents := events, flushedAlerts := alerts } trace :=
  consistent.frame ((Extends.refl adapter).logs events alerts) consistent.roster rfl rfl consistent.pending

theorem Consistent.settleEvent (held : Reserved adapter trace signed) :
    Consistent (adapter.settleEvent signed).1
        (trace ++ flushTrace (if adapter.dependenciesMatch signed then [authenticatedEvent signed] else [])) ∧
      Extends adapter (adapter.settleEvent signed).1 := by
  cases matched : adapter.dependenciesMatch signed with
  | false =>
    rw [settleEvent_of_mismatch matched]
    exact ⟨by simpa [flushTrace] using consistent.logs adapter.flushedEvents _, (Extends.refl adapter).logs _ _⟩
  | true =>
    have later := extends_record held.bound
    have recorded := consistent.record held matched
    have flushed := recorded.flushed (held.mono later (subset_append_left _ _))
      (acceptedAfterDependencies_of_matched consistent matched)
    rw [settleEvent_of_match matched]
    exact ⟨by simpa [flushTrace, authenticatedEvent] using flushed.logs _ _, later.logs _ _⟩

theorem Consistent.settleEvents (held : ∀ signed ∈ batch, Reserved adapter trace signed) :
    Consistent (adapter.settleEvents batch) (trace ++ flushTrace (adapter.flushedBy batch)) ∧
      Extends adapter (adapter.settleEvents batch) := by
  induction batch generalizing adapter trace with
  | nil => exact ⟨by simpa [flushedBy, flushTrace] using consistent, Extends.refl _⟩
  | cons signed rest ih =>
    obtain ⟨settled, later⟩ := consistent.settleEvent (held signed mem_cons_self)
    obtain ⟨last, further⟩ := ih settled fun other member =>
      (held other (mem_cons_of_mem _ member)).mono later (subset_append_left _ _)
    rw [settleEvents_cons, flushedBy, flushTrace_append, ← append_assoc]
    exact ⟨last, later.trans further⟩

theorem Consistent.delivered (signed : SignedEvent) : Consistent adapter (trace ++ [.delivered signed]) :=
  consistent.snoc trivial (fun _ _ => by simp) (fun _ same => by cases same)

theorem Consistent.refused (signed : SignedEvent) (alert : AuditAlert) :
    Consistent adapter (trace ++ [.refused signed alert]) :=
  consistent.snoc trivial (fun _ _ => by simp) (fun _ same => by cases same)

theorem Consistent.returned (held : Reserved adapter trace signed) (duplicate : Bool)
    (accepted : (duplicate = true → adapter.hasher.CollisionFree) → AcceptedAfterDependencies trace signed) :
    Consistent adapter (trace ++ [.returned duplicate (authenticatedEvent signed)]) :=
  consistent.snoc ⟨signed, held.toVouched, rfl, accepted⟩ (fun _ _ => by simp) fun event same => by
    cases same
    exact held.bound

theorem Consistent.reserve (fresh : adapter.eventDigests.get (eqKey signed.event.id) = none) :
    Consistent (adapter.reserve signed) trace :=
  consistent.frame (extends_reserve fresh) consistent.roster rfl rfl consistent.pending

theorem Consistent.buffer {buffer : List SignedEvent} (held : ∀ signed ∈ buffer, Reserved adapter trace signed) :
    Consistent { adapter with pendingBuffer := buffer } trace :=
  consistent.frame extends_buffer consistent.roster rfl rfl held

theorem Consistent.vouched (passed : adapter.refusal signed = none) :
    Vouched adapter (trace ++ [.delivered signed]) signed := by
  have authentic := refusal_eq_none_iff.mp passed
  exact ⟨by simp, mem_append_left _ (consistent.roster _ _ authentic.roster), authentic⟩

theorem Consistent.holds (passed : adapter.refusal signed = none)
    (fresh : adapter.eventDigests.get (eqKey signed.event.id) = none) :
    Reserved (adapter.reserve signed) (trace ++ [.delivered signed]) signed :=
  ⟨(consistent.vouched passed).mono (extends_reserve fresh) (List.Subset.refl _), Map.get_set_self ..⟩

theorem Consistent.acceptedAfterDependencies (injective : adapter.hasher.CollisionFree)
    (authentic : Authentic adapter signed) (stored : adapter.digestStore.contains signed.digest.text = true) :
    AcceptedAfterDependencies trace signed := by
  rw [consistent.store] at stored
  obtain ⟨id, found⟩ := Option.isSome_iff_exists.mp stored
  obtain ⟨before, after, split, first⟩ := consistent.sound.of_mem (consistent.ids _ _ found)
  obtain ⟨original, vouched, digest, named, deps⟩ := first
  obtain ⟨same, pairs⟩ := vouched.authentic.same_of_digest injective authentic digest
  refine ⟨before, after, ?_, ?_⟩
  · rw [split, ← same, named]
  · intro pair member
    exact deps pair (pairs.mem_iff.mpr member)

theorem Consistent.accepting (passed : adapter.refusal signed = none)
    (fresh : adapter.eventDigests.get (eqKey signed.event.id) = none)
    (matched : adapter.dependenciesMatch signed = true) (buffered : batch ⊆ adapter.pendingBuffer) :
    let recorded := (adapter.reserve signed).record signed
    let seen := [.delivered signed, .accepted signed.digest signed.event.id] ++ flushTrace (recorded.flushedBy batch)
    Consistent (recorded.settleEvents batch) (trace ++ seen) ∧ Extends adapter (recorded.settleEvents batch) ∧
      Reserved (recorded.settleEvents batch) (trace ++ seen) signed ∧
      AcceptedAfterDependencies (trace ++ seen) signed := by
  intro recorded seen
  have held := consistent.holds passed fresh
  have reserved := (consistent.delivered signed).reserve fresh
  have noted := reserved.record held matched
  obtain ⟨settled, later⟩ := noted.settleEvents fun other member => noted.pending other (buffered member)
  have shape : trace ++ seen = trace ++ [.delivered signed] ++ [.accepted signed.digest signed.event.id] ++
      flushTrace (recorded.flushedBy batch) := by
    simp [seen]
  have after := (extends_record held.bound).trans later
  rw [shape]
  exact ⟨settled, (extends_reserve fresh).trans after, held.mono after (by simp),
    (acceptedAfterDependencies_of_matched reserved matched).append _⟩

variable (delivery : Delivery adapter signed next result seen)
include delivery

theorem Consistent.deliver :
    Consistent next (trace ++ seen) ∧ Extends adapter next := by
  have started := consistent.delivered signed
  cases delivery with
  | refused alert failed =>
    rw [append_cons]
    exact ⟨started.refused signed alert, .refl _⟩
  | equivocation existing alert passed found different kind =>
    rw [append_cons]
    exact ⟨started.refused signed alert, .refl _⟩
  | repeated passed found stored =>
    rw [append_cons]
    refine ⟨started.returned ⟨consistent.vouched passed, found⟩ true fun injective => ?_, .refl _⟩
    exact (consistent.acceptedAfterDependencies (injective rfl) (refusal_eq_none_iff.mp passed) stored).append _
  | waiting passed found absent => exact ⟨started, .refl _⟩
  | buffered passed fresh lacking =>
    refine ⟨(started.reserve fresh).buffer ?_, (extends_reserve fresh).trans extends_buffer⟩
    exact forall_mem_concat ((started.reserve fresh).pending) (consistent.holds passed fresh)
  | mismatched passed fresh complete mismatch =>
    rw [append_cons]
    exact ⟨(started.reserve fresh).refused signed _, extends_reserve fresh⟩
  | accepted recorded batch rest passed fresh complete matched own perm stuck ready =>
    subst own
    obtain ⟨settled, later, held, accepted⟩ := consistent.accepting passed fresh matched
      fun other member => perm.subset (mem_append_left rest member)
    have kept := settled.buffer fun other member =>
      (consistent.pending other (perm.subset (mem_append_right batch member))).mono later
        (subset_append_left _ _)
    have alerted := kept.alerts (((adapter.reserve signed).record signed).alertedBy batch)
    have last := alerted.returned (held.mono extends_buffer (subset_append_left _ _)) false fun _ =>
      accepted.append _
    exact ⟨by simpa using last, later.trans extends_buffer⟩

theorem Consistent.vouched_deliver (passed : adapter.refusal signed = none) : Vouched next (trace ++ seen) signed := by
  refine (consistent.vouched passed).mono (consistent.deliver delivery).2 ?_
  simp [delivered_mem delivery]

theorem reserved_of_delivery (passed : adapter.refusal signed = none)
    (agree : ∀ existing, adapter.eventDigests.get (eqKey signed.event.id) = some existing → existing = signed.digest) :
    next.eventDigests.get (eqKey signed.event.id) = some signed.digest := by
  cases delivery with
  | refused alert failed =>
    rw [failed] at passed
    cases passed
  | equivocation existing alert _ found different kind => exact absurd (agree existing found) different
  | repeated _ found stored => exact found
  | waiting _ found absent => exact found
  | buffered _ fresh lacking => exact Map.get_set_self ..
  | mismatched _ fresh complete mismatch => exact Map.get_set_self ..
  | accepted recorded batch rest _ fresh complete matched own perm stuck ready =>
    subst own
    obtain ⟨-, -, held, -⟩ := consistent.accepting passed fresh matched
      fun other member => perm.subset (mem_append_left rest member)
    exact held.bound

end

theorem consistent_new (hasher : Hasher) (verifier : Verifier) (sessionId : Str) :
    Consistent (new hasher verifier sessionId) [] where
  roster _ _ found := by cases found
  store _ := rfl
  ids _ _ found := by cases found
  stored _ _ member := by cases member
  reserved _ _ member := by cases member
  pending _ member := by cases member
  sound := throughout_nil _
  exposed _ member := by cases member

theorem Consistent.registerPeer (consistent : Consistent adapter trace) (peer : PeerId) (key : PublicKey) :
    Consistent (adapter.registerPeer peer key).1
      (trace ++ if (adapter.registerPeer peer key).2 then [.registered peer key] else []) := by
  have noted := consistent.snoc (show Sound adapter trace (.registered peer key) from trivial)
    (fun _ _ => by simp) (fun _ same => by cases same)
  have later := adapter.extends_registerPeer peer key
  unfold AuditAdapter.registerPeer at later ⊢
  cases found : adapter.peerKeys.get peer.text with
  | some existing =>
    dsimp only
    split
    · exact noted
    · simpa using consistent
  | none =>
    rw [found] at later
    refine noted.frame later ?_ rfl rfl noted.pending
    intro other bound registered
    rw [Map.get_set] at registered
    split at registered
    · rename_i same
      cases registered
      simp [same]
    · exact noted.roster other bound registered

theorem Consistent.apply (consistent : Consistent adapter trace) (call : Call) :
    Consistent (adapter.apply call).1 (trace ++ (adapter.apply call).2) ∧
      Extends adapter (adapter.apply call).1 := by
  cases call with
  | registerPeer peer key => exact ⟨consistent.registerPeer peer key, adapter.extends_registerPeer peer key⟩
  | deliver signed => exact consistent.deliver (adapter.deliver_delivery signed)
  | takeFlushed =>
    rw [AuditAdapter.apply, append_nil]
    exact ⟨consistent.logs [] adapter.flushedAlerts, (Extends.refl adapter).logs _ _⟩
  | takeFlushedAlerts =>
    rw [AuditAdapter.apply, append_nil]
    exact ⟨consistent.logs adapter.flushedEvents [], (Extends.refl adapter).logs _ _⟩

end

end ConvergeAudit.Bft.AuditAdapter
