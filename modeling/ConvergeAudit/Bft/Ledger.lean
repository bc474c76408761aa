import ConvergeAudit.Bft.Consistent

/-!
Every digest that holds an event id is accounted for: it was accepted, it was reported for mismatched
dependencies, or its event is buffered. With a collision-free hasher it is only one of these.
-/

namespace ConvergeAudit.Bft.AuditAdapter
open Moon Lib List

/-- The digests accepted, reported or buffered so far. -/
def ledger (adapter : AuditAdapter) (trace : List Observation) : List Digest :=
  settledIn trace ++ adapter.pendingBuffer.map SignedEvent.digest

/-- A dependency digest was accepted under another event id than the one declared for it. -/
def Blocked (trace : List Observation) (signed : SignedEvent) : Prop :=
  ∃ pair ∈ signed.pairs, ∃ id, id ≠ pair.1 ∧ .accepted pair.2 id ∈ trace

theorem Blocked.mono (blocked : Blocked trace signed) (longer : trace ⊆ more) : Blocked more signed := by
  obtain ⟨pair, member, id, different, accepted⟩ := blocked
  exact ⟨pair, member, id, different, longer accepted⟩

variable {adapter next : AuditAdapter}

theorem settleEvents_reservations
    (bound : ∀ signed ∈ batch, adapter.eventDigests.get (eqKey signed.event.id) = some signed.digest) (key : Str) :
    (adapter.settleEvents batch).eventDigests.get key = adapter.eventDigests.get key := by
  induction batch generalizing adapter with
  | nil => rfl
  | cons signed rest ih =>
    have same : ∀ key, (adapter.settleEvent signed).1.eventDigests.get key = adapter.eventDigests.get key := by
      intro key
      cases matched : adapter.dependenciesMatch signed with
      | false => rw [settleEvent_of_mismatch matched]
      | true =>
        rw [settleEvent_of_match matched]
        simp only [record, Map.get_set]
        split
        · rename_i own
          rw [own, bound signed mem_cons_self]
        · rfl
    rw [settleEvents_cons, ih, same]
    intro other member
    rw [same]
    exact bound other (mem_cons_of_mem _ member)

theorem stored_of_complete (complete : adapter.lacksDependency signed = false) (member : dep ∈ signed.depHashes) :
    adapter.digestStore.contains dep.text = true := by
  simpa using any_eq_false.mp complete dep member

section
variable [StrOrder] [DoubleFormat]

structure Accounted (adapter : AuditAdapter) (trace : List Observation) : Prop where
  held : ∀ digest ∈ ledger adapter trace, ∃ signed, Reserved adapter trace signed ∧ signed.digest = digest
  complete : ∀ key digest, adapter.eventDigests.get key = some digest → digest ∈ ledger adapter trace
  origin : ∀ key digest, adapter.eventDigests.get key = some digest →
    ∃ signed, Reserved adapter trace signed ∧ signed.digest = digest ∧ eqKey signed.event.id = key
  distinct : adapter.hasher.CollisionFree → (ledger adapter trace).Nodup

theorem Accounted.keep (accounted : Accounted adapter trace) (later : Extends adapter next)
    (moved : (ledger next (trace ++ seen)).Perm (ledger adapter trace))
    (reservations : ∀ key, next.eventDigests.get key = adapter.eventDigests.get key) :
    Accounted next (trace ++ seen) where
  held digest member := by
    obtain ⟨signed, held, same⟩ := accounted.held digest (moved.mem_iff.mp member)
    exact ⟨signed, held.mono later (subset_append_left _ _), same⟩
  complete key digest found := by
    rw [reservations] at found
    exact moved.mem_iff.mpr (accounted.complete key digest found)
  origin key digest found := by
    rw [reservations] at found
    obtain ⟨signed, held, same, named⟩ := accounted.origin key digest found
    exact ⟨signed, held.mono later (subset_append_left _ _), same, named⟩
  distinct injective := by
    rw [later.hasher] at injective
    exact moved.nodup_iff.mpr (accounted.distinct injective)

theorem Accounted.enter (accounted : Accounted adapter trace) (later : Extends adapter next)
    (fresh : adapter.eventDigests.get (eqKey signed.event.id) = none) (own : Reserved next (trace ++ seen) signed)
    (moved : (ledger next (trace ++ seen)).Perm (signed.digest :: ledger adapter trace))
    (reservations : ∀ key, next.eventDigests.get key = (adapter.reserve signed).eventDigests.get key) :
    Accounted next (trace ++ seen) := by
  have kept {other} (held : Reserved adapter trace other) : Reserved next (trace ++ seen) other :=
    held.mono later (subset_append_left _ _)
  refine ⟨?_, ?_, ?_, ?_⟩
  · intro digest member
    rcases mem_cons.mp (moved.mem_iff.mp member) with rfl | old
    · exact ⟨signed, own, rfl⟩
    · obtain ⟨other, held, same⟩ := accounted.held digest old
      exact ⟨other, kept held, same⟩
  · intro key digest found
    rw [reservations, reserve, Map.get_set] at found
    rw [moved.mem_iff]
    split at found
    · cases found
      exact mem_cons_self
    · exact mem_cons_of_mem _ (accounted.complete key digest found)
  · intro key digest found
    rw [reservations, reserve, Map.get_set] at found
    split at found
    · rename_i same
      cases found
      exact ⟨signed, own, rfl, same.symm⟩
    · obtain ⟨other, held, same, named⟩ := accounted.origin key digest found
      exact ⟨other, kept held, same, named⟩
  · intro injective
    rw [moved.nodup_iff, nodup_cons]
    refine ⟨fun old => ?_, accounted.distinct (later.hasher ▸ injective)⟩
    -- An event with the same digest has the same id, which would be reserved already.
    obtain ⟨other, held, same⟩ := accounted.held _ old
    have named := ((kept held).authentic.same_of_digest injective own.authentic same).1
    rw [← named, held.bound] at fresh
    cases fresh

theorem refusal_reports (failed : adapter.refusal signed = some alert) :
    (Observation.refused signed alert).reports = none := by
  refine if_neg ?_
  rintro ⟨kind, counts⟩
  -- The checks before the dependency count report other kinds.
  simp only [refusal, if_neg (not_not.mpr counts)] at failed
  repeat' split at failed
  all_goals cases failed
  all_goals cases kind

theorem Accounted.deliver (accounted : Accounted adapter trace) (consistent : Consistent adapter trace)
    (delivery : Delivery adapter signed next result seen) : Accounted next (trace ++ seen) := by
  have later := (consistent.deliver delivery).2
  have vouched := consistent.vouched_deliver delivery
  -- A call that settles nothing leaves the ledger as it is.
  have idle : ∀ seen, settledIn seen = [] → Extends adapter adapter → Accounted adapter (trace ++ seen) := by
    intro seen none same
    refine accounted.keep same ?_ fun _ => rfl
    rw [ledger, settledIn_append, none, append_nil]
    exact List.Perm.refl _
  cases delivery with
  | refused alert failed =>
    refine idle _ ?_ later
    rw [settledIn_refused, refusal_reports failed]
    rfl
  | equivocation existing alert passed found different kind =>
    refine idle _ ?_ later
    rw [settledIn_refused, Observation.reports, if_neg (by simp [kind])]
    rfl
  | repeated passed found stored => exact idle _ rfl later
  | waiting passed found absent => exact idle _ rfl later
  | buffered passed fresh lacking =>
    refine accounted.enter later fresh ⟨vouched passed, Map.get_set_self ..⟩ ?_ fun _ => rfl
    rw [ledger, settledIn_append, show settledIn [_] = [] from rfl, append_nil, map_append,
      ← append_assoc]
    exact perm_append_comm
  | mismatched passed fresh complete mismatch =>
    have counts := (refusal_eq_none_iff.mp passed).counts
    refine accounted.enter later fresh ⟨vouched passed, Map.get_set_self ..⟩ ?_ fun _ => rfl
    rw [ledger, settledIn_append, settledIn_refused, Observation.reports, if_pos ⟨rfl, counts⟩, append_assoc]
    exact perm_middle
  | accepted recorded batch rest passed fresh complete matched own perm stuck ready =>
    subst own
    have bound : ∀ other ∈ batch, ((adapter.reserve signed).record signed).eventDigests.get (eqKey other.event.id) =
        some other.digest := by
      intro other member
      have held := consistent.pending other (perm.subset (mem_append_left rest member))
      have reserved := (extends_reserve fresh).reservations _ _ held.bound
      exact (extends_record (Map.get_set_self ..)).reservations _ _ reserved
    have reservations : ∀ key, (((adapter.reserve signed).record signed).settleEvents batch).eventDigests.get key =
        (adapter.reserve signed).eventDigests.get key := by
      intro key
      rw [settleEvents_reservations bound, record, Map.get_set]
      split
      · rename_i same
        rw [same]
        exact (Map.get_set_self ..).symm
      · rfl
    refine accounted.enter later fresh ⟨vouched passed, ?_⟩ ?_ reservations
    · exact (reservations _).trans (Map.get_set_self ..)
    · have settled := ((adapter.reserve signed).record signed).settledBy_perm batch
      have total := (settled.append_right (rest.map SignedEvent.digest)).trans
        (map_append ▸ perm.map SignedEvent.digest)
      have last : settledIn [.returned false (authenticatedEvent signed)] = [] := rfl
      have first : settledIn [.delivered signed, .accepted signed.digest signed.event.id] = [signed.digest] := rfl
      rw [ledger, settledIn_append, settledIn_append, settledIn_append, settledIn_append, settledIn_flushTrace,
        settledIn_alerts, first, last, append_nil, append_assoc, append_assoc, append_assoc]
      rw [append_assoc] at total
      exact perm_middle.trans ((total.append_left _).cons _)

theorem Consistent.blocked (consistent : Consistent adapter trace)
    (counts : signed.event.deps.length = signed.depHashes.length) (complete : adapter.lacksDependency signed = false)
    (mismatched : adapter.dependenciesMatch signed = false) : Blocked trace signed := by
  by_contra free
  refine ne_true_of_eq_false mismatched (dependenciesMatch_iff.mpr ⟨counts, ?_⟩)
  intro pair member
  have stored := stored_of_complete complete (of_mem_zip member).2
  rw [consistent.store] at stored
  obtain ⟨id, found⟩ := Option.isSome_iff_exists.mp stored
  by_cases same : id = pair.1
  · rw [found, same]
  · exact absurd ⟨pair, member, id, same, consistent.ids _ _ found⟩ free

structure Progress (adapter : AuditAdapter) (trace : List Observation) : Prop where
  flushed : ((flushedIn trace).map AuthenticatedEvent.digest).Sublist (settledIn trace)
  waiting : ∀ signed ∈ adapter.pendingBuffer, adapter.lacksDependency signed = true
  blocked : adapter.hasher.CollisionFree → ∀ item ∈ trace, ∀ digest, item.reports = some digest →
    ∃ signed, Reserved adapter trace signed ∧ signed.digest = digest ∧ Blocked trace signed

section
variable (progress : Progress adapter trace)
include progress

theorem Progress.flushed_append (now : ((flushedIn seen).map AuthenticatedEvent.digest).Sublist (settledIn seen)) :
    ((flushedIn (trace ++ seen)).map AuthenticatedEvent.digest).Sublist (settledIn (trace ++ seen)) := by
  rw [flushedIn_append, settledIn_append, map_append]
  exact progress.flushed.append now

theorem Progress.blocked_append (later : Extends adapter next)
    (now : next.hasher.CollisionFree → ∀ item ∈ seen, ∀ digest, item.reports = some digest →
      ∃ signed, Reserved next (trace ++ seen) signed ∧ signed.digest = digest ∧ Blocked (trace ++ seen) signed) :
    next.hasher.CollisionFree → ∀ item ∈ trace ++ seen, ∀ digest, item.reports = some digest →
      ∃ signed, Reserved next (trace ++ seen) signed ∧ signed.digest = digest ∧ Blocked (trace ++ seen) signed := by
  intro injective item member digest reports
  have longer := subset_append_left trace seen
  rcases mem_append.mp member with old | new
  · obtain ⟨signed, held, same, blocked⟩ := progress.blocked (later.hasher ▸ injective) item old digest reports
    exact ⟨signed, held.mono later longer, same, blocked.mono longer⟩
  · exact now injective item new digest reports

theorem Progress.idle (later : Extends adapter next)
    (flushed : flushedIn seen = []) (silent : ∀ item ∈ seen, item.reports = none)
    (store : next.digestStore = adapter.digestStore) (pending : next.pendingBuffer = adapter.pendingBuffer) :
    Progress next (trace ++ seen) where
  flushed := progress.flushed_append (by rw [flushed]; exact nil_sublist _)
  waiting := by
    intro signed member
    rw [pending] at member
    have lacking := progress.waiting signed member
    rwa [lacksDependency, ← store] at lacking
  blocked := progress.blocked_append later fun _ item member digest reports => by
    rw [silent item member] at reports
    cases reports

theorem Progress.deliver (accounted : Accounted adapter trace) (consistent : Consistent adapter trace)
    (delivery : Delivery adapter signed next result seen) : Progress next (trace ++ seen) := by
  have later := (consistent.deliver delivery).2
  have vouched := consistent.vouched_deliver delivery
  cases delivery with
  | refused alert failed =>
    refine progress.idle later rfl ?_ rfl rfl
    simpa [Observation.reports] using refusal_reports failed
  | equivocation existing alert passed found different kind =>
    refine progress.idle later rfl ?_ rfl rfl
    simp [Observation.reports, kind]
  | repeated passed found stored => exact progress.idle later rfl (by simp [Observation.reports]) rfl rfl
  | waiting passed found absent => exact progress.idle later rfl (by simp [Observation.reports]) rfl rfl
  | buffered passed fresh lacking =>
    refine ⟨progress.flushed_append (nil_sublist _), ?_, progress.blocked_append later ?_⟩
    · exact forall_mem_concat progress.waiting lacking
    · simp [Observation.reports]
  | mismatched passed fresh complete mismatch =>
    refine ⟨progress.flushed_append (nil_sublist _), progress.waiting, progress.blocked_append later ?_⟩
    intro _ item member digest reports
    have counts := (refusal_eq_none_iff.mp passed).counts
    have same : signed.digest = digest := by
      rcases mem_cons.mp member with rfl | refused
      · cases reports
      · rw [mem_singleton.mp refused, Observation.reports, if_pos ⟨rfl, counts⟩] at reports
        exact Option.some.inj reports
    exact ⟨signed, ⟨vouched passed, Map.get_set_self ..⟩, same,
      (consistent.blocked counts complete mismatch).mono (subset_append_left _ _)⟩
  | accepted recorded batch rest passed fresh complete matched own perm stuck ready =>
    refine ⟨progress.flushed_append ?_, stuck, progress.blocked_append later ?_⟩
    · have silent : flushedIn ((recorded.alertedBy batch).map .alerted) = [] := by simp [flushedIn]
      have first : flushedIn [.delivered signed, .accepted signed.digest signed.event.id] = [] := rfl
      have last : flushedIn [.returned false (authenticatedEvent signed)] = [] := rfl
      rw [flushedIn_append, flushedIn_append, flushedIn_append, flushedIn_flushTrace, first, silent, last,
        append_nil, append_nil, nil_append, settledIn_append, settledIn_append, settledIn_append,
        settledIn_flushTrace]
      exact ((sublist_append_right _ _).trans (sublist_append_left _ _)).trans (sublist_append_left _ _)
    · intro injective item member digest reports
      have alerted : ∃ alert ∈ recorded.alertedBy batch, alert.digest = digest := by
        simp only [mem_append, mem_cons, not_mem_nil, or_false, mem_map] at member
        rcases member with (((rfl | rfl) | flushed) | ⟨alert, here, rfl⟩) | rfl
        · cases reports
        · cases reports
        · rw [flushTrace_reports flushed] at reports
          cases reports
        · rw [Observation.reports] at reports
          split at reports
          · exact ⟨alert, here, Option.some.inj reports⟩
          · cases reports
        · cases reports
      obtain ⟨alert, here, rfl⟩ := alerted
      obtain ⟨before, other, after, rfl, rfl, mismatched⟩ := mem_alertedBy here
      have buffered : ∀ {event}, event ∈ before ++ other :: after → event ∈ adapter.pendingBuffer :=
        fun member => perm.subset (mem_append_left rest member)
      have held := consistent.pending other (buffered (by simp))
      have digests := accounted.distinct (later.hasher ▸ injective)
      have unblocked := ready (nodup_append.mp digests).2.1 before other after rfl
      subst own
      have settled := (consistent.accepting passed fresh matched
        fun event member => buffered (mem_append_left _ member)).1
      refine ⟨other, held.mono later (subset_append_left _ _), rfl, ?_⟩
      refine (settled.blocked held.authentic.counts unblocked mismatched).mono ?_
      rw [flushedBy_append, flushTrace_append]
      intro item member
      simp only [mem_append] at member ⊢
      tauto

end

/-- The invariants of an adapter that was created with the given parameters. -/
structure Reached (hasher : Hasher) (verifier : Verifier) (sessionId : Str) (adapter : AuditAdapter)
    (trace : List Observation) : Prop where
  consistent : Consistent adapter trace
  accounted : Accounted adapter trace
  progress : Progress adapter trace
  parameters : Extends (new hasher verifier sessionId) adapter

theorem reached_new (hasher : Hasher) (verifier : Verifier) (sessionId : Str) :
    Reached hasher verifier sessionId (new hasher verifier sessionId) [] where
  consistent := consistent_new hasher verifier sessionId
  accounted := ⟨fun _ member => (by cases member), fun _ _ found => (by cases found), fun _ _ found => (by cases found),
    fun _ => nodup_nil⟩
  progress := ⟨List.Sublist.refl _, fun _ member => (by cases member), fun _ _ member => (by cases member)⟩
  parameters := Extends.refl _

theorem Reached.apply {hasher : Hasher} {verifier : Verifier}
    (reached : Reached hasher verifier sessionId adapter trace) (call : Call) :
    Reached hasher verifier sessionId (adapter.apply call).1 (trace ++ (adapter.apply call).2) := by
  obtain ⟨consistent, accounted, progress, parameters⟩ := reached
  obtain ⟨sound, later⟩ := consistent.apply call
  -- The calls other than `deliver` touch none of the tables that the ledger reads.
  have idle : ∀ next seen, Consistent next (trace ++ seen) → Extends adapter next → settledIn seen = [] →
      flushedIn seen = [] → (∀ item ∈ seen, item.reports = none) → next.digestStore = adapter.digestStore →
      next.eventDigests = adapter.eventDigests → next.pendingBuffer = adapter.pendingBuffer →
      Reached hasher verifier sessionId next (trace ++ seen) := by
    intro next seen sound later settled flushed silent store reservations pending
    refine ⟨sound, accounted.keep later ?_ fun _ => by rw [reservations],
      progress.idle later flushed silent store pending, parameters.trans later⟩
    rw [ledger, settledIn_append, settled, append_nil, pending]
    exact List.Perm.refl _
  cases call with
  | registerPeer peer key =>
    have same : (adapter.registerPeer peer key).1.digestStore = adapter.digestStore ∧
        (adapter.registerPeer peer key).1.eventDigests = adapter.eventDigests ∧
        (adapter.registerPeer peer key).1.pendingBuffer = adapter.pendingBuffer := by
      unfold registerPeer
      split <;> exact ⟨rfl, rfl, rfl⟩
    unfold AuditAdapter.apply at sound later ⊢
    dsimp only at sound later ⊢
    split at sound
    · rename_i bound
      rw [if_pos bound]
      exact idle _ _ sound later rfl rfl (by simp [Observation.reports]) same.1 same.2.1 same.2.2
    · rename_i unbound
      rw [if_neg unbound]
      exact idle _ _ sound later rfl rfl (by simp) same.1 same.2.1 same.2.2
  | deliver signed =>
    have delivery := adapter.deliver_delivery signed
    exact ⟨sound, accounted.deliver consistent delivery, progress.deliver accounted consistent delivery,
      parameters.trans later⟩
  | takeFlushed => exact idle _ _ sound later rfl rfl (by simp [AuditAdapter.apply]) rfl rfl rfl
  | takeFlushedAlerts => exact idle _ _ sound later rfl rfl (by simp [AuditAdapter.apply]) rfl rfl rfl

theorem run_reached (hasher : Hasher) (verifier : Verifier) (sessionId : Str) (calls : List Call) :
    Reached hasher verifier sessionId ((new hasher verifier sessionId).run calls).1
      ((new hasher verifier sessionId).run calls).2 :=
  run_invariant (P := Reached hasher verifier sessionId) (fun _ _ call _ reached => reached.apply call)
    (reached_new hasher verifier sessionId)

/-- Some adapter with this hasher has given the event out. Capabilities of this type come from nowhere else. -/
def Exposed (hasher : Hasher) (event : AuthenticatedEvent) : Prop :=
  ∃ verifier sessionId calls, ∃ item ∈ ((new hasher verifier sessionId).run calls).2, item.exposes = some event

theorem Exposed.signed {hasher : Hasher} (exposed : Exposed hasher event) :
    ∃ signed, event = authenticatedEvent signed ∧
      signed.digest = hasher.hashString (serializeForHash signed.sessionId signed.event signed.depHashes) := by
  obtain ⟨verifier, sessionId, calls, item, member, exposes⟩ := exposed
  obtain ⟨before, after, split⟩ := append_of_mem member
  obtain ⟨consistent, _, _, parameters⟩ := run_reached hasher verifier sessionId calls
  have sound := consistent.sound before item after split
  obtain ⟨signed, vouched, same, -⟩ := sound.exposes exposes
  have hash := vouched.authentic.hash
  rw [show ((new hasher verifier sessionId).run calls).1.hasher = hasher from parameters.hasher] at hash
  exact ⟨signed, same, hash⟩

end

end ConvergeAudit.Bft.AuditAdapter
