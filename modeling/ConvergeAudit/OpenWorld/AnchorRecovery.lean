import ConvergeAudit.OpenWorld.AnchorGap
import ConvergeAudit.Lib.Fallible

/-!
From any transport a recovery merges only heads of the tracker's own key and session that continue its log; from one
that serves a whole run, each recovery merges a page of it.
-/

namespace ConvergeAudit.OpenWorld
open Moon Bft Game Audit AuthMap List

open OpenWorld renaming OpenWorldInMemoryObserverSigningAnchorGapTransport → InMemoryTransport,
  OpenWorldObserverSigningAnchorHeadTracker → Tracker, PublishedOpenWorldObserverSigningAnchor → Head,
  OpenWorldObserverSigningAnchorEnvelope → Envelope

variable {byCursor : Map Str (List Envelope)}
  {P : Tracker → Prop}

namespace OpenWorldInMemoryObserverSigningAnchorGapTransport

/-- Under each cursor stand the envelopes given so far that have it, each of them once. -/
structure Indexed (given : List Envelope)
    (byCursor : Map Str (List Envelope)) : Prop where
  found : ∀ envelope ∈ given, (byCursor.get envelope.cursor).isSome = true
  candidates : ∀ cursor existing, byCursor.get cursor = some existing →
    existing ≠ [] ∧ existing.Nodup ∧ ∀ envelope ∈ existing, envelope ∈ given ∧ envelope.cursor = cursor

theorem Indexed.set (indexed : Indexed given byCursor) (some_candidate : updated ≠ []) (distinct : updated.Nodup)
    (stored : ∀ member ∈ updated, member ∈ given ++ [envelope] ∧ member.cursor = envelope.cursor) :
    Indexed (given ++ [envelope]) (byCursor.set envelope.cursor updated) where
  found member mem := by
    rw [Map.get_set]
    by_cases same : member.cursor = envelope.cursor
    · rw [if_pos same]
      rfl
    · rw [if_neg same]
      rcases mem_append.mp mem with mem | mem
      · exact indexed.found member mem
      · exact absurd (congrArg _ (mem_singleton.mp mem)) same
  candidates cursor existing got := by
    rw [Map.get_set] at got
    by_cases same : cursor = envelope.cursor
    · rw [if_pos same, Option.some.injEq] at got
      subst got same
      exact ⟨some_candidate, distinct, stored⟩
    · rw [if_neg same] at got
      obtain ⟨nonempty, nodup, members⟩ := indexed.candidates cursor existing got
      exact ⟨nonempty, nodup, fun member mem => ⟨mem_append_left _ (members member mem).1, (members member mem).2⟩⟩

theorem Indexed.addEnvelope (indexed : Indexed given byCursor) (envelope : Envelope) :
    Indexed (given ++ [envelope]) (addEnvelope byCursor envelope) := by
  unfold InMemoryTransport.addEnvelope
  cases got : byCursor.get envelope.cursor with
  | none =>
    refine indexed.set (by simp) (nodup_singleton _) ?_
    intro member mem
    rw [mem_singleton.mp mem]
    exact ⟨by simp, rfl⟩
  | some existing =>
    obtain ⟨nonempty, nodup, members⟩ := indexed.candidates _ _ got
    by_cases new_candidate : openWorldObserverSigningAnchorEnvelopeIsNewCandidate existing envelope = true
    · simp only [new_candidate, if_true]
      have unseen : ∀ member ∈ existing, member ≠ envelope := by
        simpa [openWorldObserverSigningAnchorEnvelopeIsNewCandidate] using new_candidate
      refine indexed.set (by simp) ?_ ?_
      · exact nodup_append.mpr ⟨nodup, nodup_singleton _, by
          intro member mem other otherMem
          rw [mem_singleton.mp otherMem]
          exact unseen member mem⟩
      · exact Lib.forall_mem_concat (fun member mem => ⟨mem_append_left _ (members member mem).1, (members member mem).2⟩)
          ⟨by simp, rfl⟩
    · simp only [new_candidate, Bool.false_eq_true, if_false]
      constructor
      · refine Lib.forall_mem_concat indexed.found ?_
        rw [got]
        rfl
      · intro cursor candidates gotCursor
        obtain ⟨nonempty, nodup, members⟩ := indexed.candidates _ _ gotCursor
        exact ⟨nonempty, nodup, fun member mem =>
          ⟨mem_append_left _ (members member mem).1, (members member mem).2⟩⟩

theorem indexed_new (envelopes : List Envelope) : Indexed envelopes (new envelopes).byCursor := by
  have folded : ∀ (rest given : List Envelope) byCursor, Indexed given byCursor →
      Indexed (given ++ rest) (rest.foldl addEnvelope byCursor) := by
    intro rest
    induction rest with
    | nil => intro given byCursor indexed; simpa using indexed
    | cons envelope rest ih =>
      intro given byCursor indexed
      have later := ih (given ++ [envelope]) _ (indexed.addEnvelope envelope)
      rw [append_assoc, singleton_append] at later
      exact later
  exact folded envelopes [] .empty ⟨by simp, by simp⟩

theorem get_new_of_alone (given : envelope ∈ envelopes)
    (alone : ∀ other ∈ envelopes, other.cursor = envelope.cursor → other = envelope) :
    (new envelopes).byCursor.get envelope.cursor = some [envelope] := by
  have indexed := indexed_new envelopes
  obtain ⟨existing, got⟩ := Option.isSome_iff_exists.mp (indexed.found envelope given)
  obtain ⟨nonempty, nodup, members⟩ := indexed.candidates _ _ got
  have only : ∀ member ∈ existing, member = envelope := fun member mem =>
    alone member (members member mem).1 (members member mem).2
  rw [got]
  cases existing with
  | nil => exact absurd rfl nonempty
  | cons first rest =>
    cases rest with
    | nil => rw [only first (by simp)]
    | cons second rest =>
      have repeated := (only first (by simp)).trans (only second (by simp)).symm
      simp [repeated] at nodup

end OpenWorldInMemoryObserverSigningAnchorGapTransport

namespace OpenWorldObserverSigningAnchorHeadTracker
open OpenWorldObserverSigningAnchorHeadDelivery (advances)

/-- The texts that a gap request has to name are there. -/
structure Requestable (tracker : Tracker) : Prop where
  log_named : tracker.logSessionId ≠ Str.empty
  publisher_named : tracker.publisherKey.text ≠ Str.empty
  current_named : tracker.currentCheckpointDigest.text ≠ Str.empty

theorem Requestable.extend (requestable : Requestable tracker)
    (named : ∀ head ∈ heads, head.publicationCheckpointDigest.text ≠ Str.empty) : Requestable (tracker.extend heads) where
  log_named := by
    rw [logSessionId_extend]
    exact requestable.log_named
  publisher_named := by
    rw [publisherKey_extend]
    exact requestable.publisher_named
  current_named := by
    rcases currentCheckpointDigest_extend tracker heads with same | ⟨head, member, same⟩
    · rw [same]
      exact requestable.current_named
    · rw [same]
      exact named head member

section
variable [StrOrder]

/-- `head` was opened from an envelope whose checkpoint verified under the key and the session of the tracker. -/
def Authenticated (hasher : Hasher) (verifier : Verifier) (tracker : Tracker)
    (head : Head) : Prop :=
  ∃ envelope, OpensTo hasher verifier tracker.publisherKey tracker.logSessionId envelope head

theorem openPage_opened (opened : tracker.openPage hasher verifier targetEpoch index page = .ok heads) :
    heads.length = page.length ∧
      ∀ head ∈ heads, Authenticated hasher verifier tracker head ∧ head.logEpoch ≤ targetEpoch := by
  induction page generalizing index heads with
  | nil =>
    simp only [openPage, Except.ok.injEq] at opened
    subst opened
    exact ⟨rfl, by simp⟩
  | cons envelope rest ih =>
    unfold openPage at opened
    by_cases late : envelope.signedCheckpoint.checkpoint.epoch > targetEpoch
    · simp [late] at opened
    · rw [if_neg late] at opened
      cases openedFirst : openOpenWorldObserverSigningAnchorEnvelope hasher verifier tracker.publisherKey
          tracker.logSessionId envelope with
      | observerSigningAnchorEnvelopeRefused reason => simp [openedFirst] at opened
      | observerSigningAnchorEnvelopeOpened head =>
        simp only [openedFirst] at opened
        obtain ⟨later, openedRest, rfl⟩ := Lib.Fallible.map_ok.mp opened
        obtain ⟨sameLength, allOpened⟩ := ih openedRest
        refine ⟨by simp [sameLength], forall_mem_cons.mpr ⟨?_, allOpened⟩⟩
        have opensTo := opensTo_of_opened openedFirst
        rw [opensTo.head_epoch]
        exact ⟨⟨envelope, opensTo⟩, by omega⟩

/-- Every refusal leaves the tracker alone; otherwise at most `maxItems` opened heads are delivered. -/
theorem recoverGap_cases (tracker : Tracker) (hasher : Hasher) (verifier : Verifier)
    (transport : OpenWorldObserverSigningAnchorGapTransport) (targetEpoch maxItems : ℤ) :
    (tracker.recoverGap hasher verifier transport targetEpoch maxItems).1 = tracker ∨
    ∃ heads, (heads.length : ℤ) ≤ maxItems ∧
      (∀ head ∈ heads, Authenticated hasher verifier tracker head ∧ head.logEpoch ≤ targetEpoch) ∧
      (tracker.recoverGap hasher verifier transport targetEpoch maxItems).1 = (tracker.deliverBatch heads).1 := by
  unfold recoverGap
  by_cases valid : openWorldObserverSigningAnchorGapRequestValid (tracker.gapRequest targetEpoch maxItems) = true
  · simp only [valid, Bool.not_true, Bool.false_eq_true, if_false]
    cases transport.fetch (tracker.gapRequest targetEpoch maxItems) with
    | observerSigningAnchorGapFetched response =>
      by_cases malformed : response.envelopes.length = 0 ∨ (response.envelopes.length : ℤ) > maxItems
      · exact Or.inl (by simp only [malformed, if_true])
      · simp only [malformed, if_false]
        cases opened : tracker.openPage hasher verifier targetEpoch 0 response.envelopes with
        | error refusal => exact Or.inl rfl
        | ok heads =>
          obtain ⟨sameLength, openedAll⟩ := openPage_opened opened
          exact Or.inr ⟨heads, by omega, openedAll, rfl⟩
    | _ => exact Or.inl rfl
  · exact Or.inl (by simp [valid])

theorem recoverGap_safe (tracker : Tracker)
    (transport : OpenWorldObserverSigningAnchorGapTransport) (targetEpoch maxItems : ℤ) :
    (tracker.recoverGap hasher verifier transport targetEpoch maxItems).1 = tracker ∨
    ∃ heads, (tracker.recoverGap hasher verifier transport targetEpoch maxItems).1 = tracker.extend heads ∧
      1 ≤ heads.length ∧ (heads.length : ℤ) ≤ maxItems ∧ tracker.currentEpoch + heads.length ≤ targetEpoch ∧
      tracker.Continues heads ∧ ∀ head ∈ heads, Authenticated hasher verifier tracker head := by
  rcases tracker.recoverGap_cases hasher verifier transport targetEpoch maxItems with
    kept | ⟨heads, fits, opened, delivered⟩
  · exact Or.inl kept
  · rw [delivered]
    rcases tracker.deliverBatch_cases heads with ⟨_, merged⟩ | ⟨_, kept, _⟩
    · obtain ⟨new, among, continues, extended⟩ := deliverEach_extends tracker
      rw [merged, extended]
      cases new with
      | nil => exact Or.inl rfl
      | cons first rest =>
        refine Or.inr ⟨first :: rest, rfl, by simp, ?_, ?_, continues, ?_⟩
        · have shorter := among.length_le
          omega
        · -- The last of the new heads stands at the end of the extended log, and no head is past the target.
          exact continues.bounded (fun head member => (opened head (among.subset member)).2) (by simp)
        · exact fun head member => (opened head (among.subset member)).1
    · exact Or.inl kept

/-- `run` is a parent-linked run of valid envelopes from the head of the tracker to `targetEpoch`, it is among the
`envelopes`, and no other of them has the session, authority, epoch and parent of one of the run. -/
structure Serves (hasher : Hasher) (verifier : Verifier) (tracker : Tracker)
    (targetEpoch : ℤ) (envelopes run : List Envelope)
    (heads : List Head) : Prop where
  opened : List.Forall₂ (OpensTo hasher verifier tracker.publisherKey tracker.logSessionId) run heads
  continues : tracker.Continues heads
  reaches : tracker.currentEpoch + run.length = targetEpoch
  served : ∀ member ∈ run, member ∈ envelopes
  alone : ∀ member ∈ run, ∀ other ∈ envelopes,
    other.signedCheckpoint.checkpoint.sessionId = member.signedCheckpoint.checkpoint.sessionId →
    other.signedCheckpoint.authorityKey = member.signedCheckpoint.authorityKey →
    other.signedCheckpoint.checkpoint.epoch = member.signedCheckpoint.checkpoint.epoch →
    other.signedCheckpoint.checkpoint.previousCheckpoint = member.signedCheckpoint.checkpoint.previousCheckpoint →
    other = member

section Serving

variable {tracker : Tracker}
  {envelopes run : List Envelope}

section
variable (serves : Serves hasher verifier tracker targetEpoch envelopes run heads)
include serves

theorem Serves.length_eq :
    run.length = heads.length := serves.opened.length_eq

theorem Serves.get_member (mem : member ∈ run) :
    (InMemoryTransport.new envelopes).byCursor.get member.cursor = some [member] := by
  refine InMemoryTransport.get_new_of_alone (serves.served member mem) ?_
  intro other given sameCursor
  have texts := foldl_appendField_inj sameCursor
  simp only [List.cons.injEq, Str.ofInt_inj, Digest.text_inj, and_true, true_and] at texts
  obtain ⟨session, publisher, epoch, parent⟩ := texts
  exact serves.alone member mem other given session (congrArg PublicKey.mk publisher) epoch parent

theorem Serves.split (count : ℕ) :
    tracker.Continues (heads.take count) ∧ (tracker.extend (heads.take count)).Continues (heads.drop count) := by
  rw [← continues_append, take_append_drop]
  exact serves.continues

theorem Serves.drop (count : ℕ) :
    Serves hasher verifier (tracker.extend (heads.take count)) targetEpoch envelopes (run.drop count)
      (heads.drop count) := by
  have members : ∀ member ∈ run.drop count, member ∈ run := fun member mem => mem_of_mem_drop mem
  refine ⟨?_, (serves.split count).2, ?_, fun member mem => serves.served member (members member mem),
    fun member mem => serves.alone member (members member mem)⟩
  · rw [logSessionId_extend, publisherKey_extend]
    exact List.forall₂_drop count serves.opened
  · have sameLength := serves.length_eq
    have reaches := serves.reaches
    rw [(serves.split count).1.currentEpoch_extend, length_take, length_drop, ← reaches]
    omega

end

/-- The paging loop reads the run, as much of it as there is room for. -/
theorem fetchPage_eq (request : OpenWorldObserverSigningAnchorGapRequest)
    (serves : Serves hasher verifier tracker targetEpoch envelopes run heads)
    (session : request.logSessionId = tracker.logSessionId) (publisher : request.publisherKey = tracker.publisherKey)
    (target : request.targetEpoch = targetEpoch) (room : ℕ) (selected : List Envelope) :
    (InMemoryTransport.new envelopes).fetchPage request room tracker.currentEpoch
        tracker.currentCheckpointDigest selected =
      .observerSigningAnchorGapFetched ⟨selected ++ run.take room⟩ := by
  induction room generalizing tracker run heads selected with
  | zero => simp [InMemoryTransport.fetchPage]
  | succ room ih =>
    unfold InMemoryTransport.fetchPage
    have reaches := serves.reaches
    cases run with
    | nil =>
      rw [length_nil] at reaches
      rw [if_neg (by omega)]
      simp
    | cons member rest =>
      rw [length_cons] at reaches
      rw [if_pos (by omega)]
      have whole := serves
      obtain ⟨opened, continues, _, _, _⟩ := serves
      cases opened with
      | @cons _ head _ later opensTo openedRest =>
        obtain ⟨⟨_, _, next, parent⟩, _⟩ := continues
        have cursor : openWorldObserverSigningAnchorGapCursorKey request.logSessionId request.publisherKey
            (tracker.currentEpoch + 1) tracker.currentCheckpointDigest = member.cursor := by
          unfold Envelope.cursor
          rw [session, publisher, opensTo.session, opensTo.authority, ← opensTo.head_epoch, ← opensTo.head_parent,
            next, parent]
        have rest_served := whole.drop 1
        simp only [cursor, whole.get_member mem_cons_self, length_cons, length_nil]
        rw [← opensTo.head_epoch, ← opensTo.head_digest]
        have page := ih rest_served (by simpa using session) (by simpa using publisher) (selected ++ [member])
        simp only [take_succ_cons, take_zero, drop_succ_cons, drop_zero, extend, foldl_cons,
          foldl_nil] at page
        simpa [advance] using page

theorem openPage_of_opened
    (opened : List.Forall₂ (OpensTo hasher verifier tracker.publisherKey tracker.logSessionId) page heads)
    (bounded : ∀ head ∈ heads, head.logEpoch ≤ targetEpoch) (index : ℤ) :
    tracker.openPage hasher verifier targetEpoch index page = .ok heads := by
  induction opened generalizing index with
  | nil => rfl
  | @cons envelope head page heads opensTo openedRest ih =>
    have early : ¬envelope.signedCheckpoint.checkpoint.epoch > targetEpoch := by
      have first := bounded head mem_cons_self
      rw [opensTo.head_epoch] at first
      omega
    have later := ih (fun other member => bounded other (mem_cons_of_mem _ member)) (index + 1)
    simp only [openPage, early, if_false, opensTo.opened, later]
    rfl

theorem recoverGap_of_served (contiguous : Contiguous first tracker)
    (serves : Serves hasher verifier tracker targetEpoch envelopes run heads)
    (requestable : Requestable tracker) (maxItems : ℤ) :
    (tracker.recoverGap hasher verifier
        (InMemoryTransport.new envelopes).transport targetEpoch maxItems).1 =
      tracker.extend (heads.take maxItems.toNat) := by
  have reaches := serves.reaches
  have sameLength := serves.length_eq
  by_cases useful : targetEpoch > tracker.currentEpoch ∧ maxItems > 0
  · have valid : openWorldObserverSigningAnchorGapRequestValid (tracker.gapRequest targetEpoch maxItems) = true := by
      simp [openWorldObserverSigningAnchorGapRequestValid, gapRequest, requestable.log_named,
        requestable.publisher_named, requestable.current_named, useful.1, useful.2]
    have fetched := fetchPage_eq (tracker.gapRequest targetEpoch maxItems) serves rfl rfl rfl
      maxItems.toNat []
    have pageOpened := List.forall₂_take maxItems.toNat serves.opened
    have bounded : ∀ head ∈ heads.take maxItems.toNat, head.logEpoch ≤ targetEpoch := by
      intro head member
      have within := serves.continues.epoch_le (mem_of_mem_take member)
      omega
    have openedPage := openPage_of_opened pageOpened bounded 0
    have size : ¬((run.take maxItems.toNat).length = 0 ∨ ((run.take maxItems.toNat).length : ℤ) > maxItems) := by
      rw [length_take]
      omega
    unfold recoverGap
    simp only [valid, Bool.not_true, Bool.false_eq_true, if_false,
      InMemoryTransport.transport,
      InMemoryTransport.fetch]
    simp only [gapRequest, nil_append] at fetched ⊢
    simp only [fetched, size, if_false, openedPage, (serves.split _).1.deliverBatch contiguous]
  · have invalid : openWorldObserverSigningAnchorGapRequestValid (tracker.gapRequest targetEpoch maxItems) = false := by
      have refused : ¬(tracker.currentEpoch < targetEpoch) ∨ ¬(0 < maxItems) := by omega
      rcases refused with refused | refused <;>
        simp [openWorldObserverSigningAnchorGapRequestValid, gapRequest, refused]
    have nothing : heads.take maxItems.toNat = [] := by
      rw [← length_eq_zero_iff, length_take]
      omega
    unfold recoverGap
    simp only [invalid, nothing]
    rfl

theorem iterate_recoverGap_of_served (contiguous : Contiguous first tracker)
    (serves : Serves hasher verifier tracker targetEpoch envelopes run heads)
    (requestable : Requestable tracker) (named : ∀ head ∈ heads, head.publicationCheckpointDigest.text ≠ Str.empty)
    (room : 1 ≤ maxItems) :
    ∃ calls : ℕ, (fun current : Tracker => (current.recoverGap hasher verifier
        (InMemoryTransport.new envelopes).transport targetEpoch maxItems).1)^[calls]
      tracker = tracker.extend heads := by
  -- Induction on what is left of the run: a page takes at least one head off it.
  induction left : heads.length using Nat.strong_induction_on generalizing tracker run heads with
  | _ left_count ih =>
    by_cases finished : heads = []
    · exact ⟨0, by rw [finished]; rfl⟩
    · have some_left : 0 < heads.length := length_pos_iff.mpr finished
      obtain ⟨calls, reached⟩ := ih (heads.drop maxItems.toNat).length (by rw [length_drop]; omega)
        ((serves.split _).1.contiguous contiguous) (serves.drop maxItems.toNat)
        (requestable.extend fun head member => named head (mem_of_mem_take member))
        (fun head member => named head (mem_of_mem_drop member)) rfl
      refine ⟨calls + 1, ?_⟩
      rw [Function.iterate_succ_apply, recoverGap_of_served contiguous serves requestable maxItems, reached]
      unfold extend
      rw [← foldl_append, take_append_drop]

end Serving

theorem step_invariant (delivered : ∀ tracker incoming, P tracker → P (tracker.deliver incoming).1)
    (holds : P tracker) : P (tracker.step call) := by
  cases call with
  | deliver incoming => exact delivered tracker incoming holds
  | deliverBatch heads => exact deliverBatch_invariant delivered tracker heads holds
  | recoverGap hasher verifier transport targetEpoch maxItems =>
    rcases tracker.recoverGap_cases hasher verifier transport targetEpoch maxItems with kept | ⟨heads, _, _, same⟩
    · simp only [step, kept]
      exact holds
    · simp only [step, same]
      exact deliverBatch_invariant delivered tracker heads holds

theorem run_invariant (delivered : ∀ tracker incoming, P tracker → P (tracker.deliver incoming).1) (calls : List Call)
    (tracker : Tracker) (holds : P tracker) : P (tracker.run calls) := by
  induction calls generalizing tracker with
  | nil => exact holds
  | cons call rest ih => exact ih _ (step_invariant delivered holds)

theorem contiguous_run (initial : Head) (calls : List Call) : Contiguous initial.logEpoch ((new initial).run calls) :=
  run_invariant (fun _ incoming contiguous => contiguous.deliver incoming) calls _ contiguous_new

theorem logSessionId_run (initial : Head) (calls : List Call) :
    ((new initial).run calls).logSessionId = initial.logSessionId := by
  refine run_invariant (P := fun tracker => tracker.logSessionId = initial.logSessionId) ?_ calls _ rfl
  intro tracker incoming same
  rcases tracker.deliver_cases with ⟨delivered, _⟩ | ⟨kept, _⟩
  · rw [delivered]
    exact same
  · rw [kept]
    exact same

/-- A batch is the fold of the single deliveries, all of it or nothing; the recorded epochs have no hole, and nothing that
is recorded is ever changed. -/
theorem deliverBatch_is_atomic_fold (initial : Head) (calls : List Call) :
    let tracker := (new initial).run calls
    (∀ heads : List Head,
      let sequential := tracker.deliverEach heads
      ((tracker.deliverBatch heads).2.succeeded = true ↔ ∀ answer ∈ sequential.2, answer.merged = true) ∧
      ((∀ answer ∈ sequential.2, answer.merged = true) →
        tracker.deliverBatch heads = (sequential.1, .ofCount (advances sequential.2))) ∧
      ∀ (index : ℕ) incoming answer, heads[index]? = some incoming → sequential.2[index]? = some answer →
        answer.merged = false → (∀ earlier ∈ sequential.2.take index, earlier.merged = true) →
        (tracker.deliverBatch heads).1 = tracker ∧
          some (tracker.deliverBatch heads).2 = answer.refusalAt index incoming) ∧
    (∀ epoch, (tracker.observedCheckpoints.get epoch).isSome = true ↔
      initial.logEpoch ≤ epoch ∧ epoch ≤ tracker.currentEpoch) ∧
    tracker.observedCheckpoints.get tracker.currentEpoch = some tracker.currentCheckpointDigest ∧
    ∀ (later : List Call) epoch digest, tracker.observedCheckpoints.get epoch = some digest →
      (tracker.run later).observedCheckpoints.get epoch = some digest := by
  intro tracker
  have contiguous := contiguous_run initial calls
  refine ⟨?_, contiguous.observed_iff, contiguous.head, ?_⟩
  · intro heads sequential
    refine ⟨?_, tracker.deliverBatch_of_merged heads, ?_⟩
    · rcases tracker.deliverBatch_cases heads with ⟨merges, delivered⟩ | ⟨refused, _, failed⟩
      · rw [delivered]
        exact ⟨fun _ => merges, fun _ => OpenWorldObserverSigningAnchorHeadBatchDelivery.succeeded_ofCount _⟩
      · rw [failed]
        exact ⟨fun impossible => absurd impossible (by decide), fun merges => absurd merges refused⟩
    · intro index incoming answer head answered failed before
      cases refused : answer.refusalAt index incoming with
      | none => simp [(OpenWorldObserverSigningAnchorHeadDelivery.refusalAt_eq_none_iff _ _ _).mp refused] at failed
      | some refusal =>
        rw [tracker.deliverBatch_of_refused heads head answered before refused]
        exact ⟨rfl, rfl⟩
  · intro later
    exact run_invariant (P := Keeps tracker) (fun _ incoming kept => keeps_deliver kept incoming) later tracker
      (fun _ _ recorded => recorded)

/-- Whatever a transport answers, a recovery changes nothing or continues the log with authenticated heads; a transport
that serves a run up to the target brings the tracker there. A request names the publisher and the current digest, so
these must not be empty, and for repeated requests neither the digests of the heads. -/
theorem recoverGap_safe_and_complete (initial : Head) (calls : List Call)
    (hasher : Hasher) (verifier : Verifier) (targetEpoch maxItems : ℤ) :
    let tracker := (new initial).run calls
    (∀ transport, (tracker.recoverGap hasher verifier transport targetEpoch maxItems).1 = tracker ∨
      ∃ heads, (tracker.recoverGap hasher verifier transport targetEpoch maxItems).1 = tracker.extend heads ∧
        1 ≤ heads.length ∧ (heads.length : ℤ) ≤ maxItems ∧ tracker.currentEpoch + heads.length ≤ targetEpoch ∧
        tracker.Continues heads ∧ ∀ head ∈ heads, Authenticated hasher verifier tracker head) ∧
    ∀ envelopes run heads, Serves hasher verifier tracker targetEpoch envelopes run heads →
      tracker.publisherKey.text ≠ Str.empty → tracker.currentCheckpointDigest.text ≠ Str.empty →
      let recover := fun current : Tracker => (current.recoverGap hasher verifier
        (InMemoryTransport.new envelopes).transport targetEpoch maxItems).1
      let count := min maxItems (targetEpoch - tracker.currentEpoch)
      recover tracker = tracker.extend (heads.take count.toNat) ∧
        (0 ≤ maxItems → (recover tracker).currentEpoch = tracker.currentEpoch + count) ∧
        ((∀ head ∈ heads, head.publicationCheckpointDigest.text ≠ Str.empty) → 1 ≤ maxItems →
          ∃ n : ℕ, recover^[n] tracker = tracker.extend heads ∧ (recover^[n] tracker).currentEpoch = targetEpoch) := by
  intro tracker
  refine ⟨fun transport => tracker.recoverGap_safe transport targetEpoch maxItems, ?_⟩
  intro envelopes run heads serves publisherNamed currentNamed recover count
  have contiguous := contiguous_run initial calls
  have logNamed : tracker.logSessionId ≠ Str.empty := by
    rw [logSessionId_run initial calls]
    exact initial.log_named
  have requestable : Requestable tracker := ⟨logNamed, publisherNamed, currentNamed⟩
  have reaches : tracker.currentEpoch + heads.length = targetEpoch := by
    rw [← serves.length_eq]
    exact serves.reaches
  have page : heads.take maxItems.toNat = heads.take count.toNat := take_eq_take_iff.mpr (by omega)
  have recovered : recover tracker = tracker.extend (heads.take count.toNat) := by
    rw [← page]
    exact recoverGap_of_served contiguous serves requestable maxItems
  refine ⟨recovered, ?_, ?_⟩
  · intro nonneg
    rw [recovered, (serves.split _).1.currentEpoch_extend, length_take]
    omega
  · intro named room
    obtain ⟨n, reached⟩ := iterate_recoverGap_of_served contiguous serves requestable named room
    refine ⟨n, reached, ?_⟩
    rw [reached, serves.continues.currentEpoch_extend]
    exact reaches

end

end OpenWorldObserverSigningAnchorHeadTracker

section
open Shortlex OpenWorldObserverSigningAnchorHeadTracker

namespace AnchorSample

def verifier : Verifier := ⟨fun key digest signature => signature.text == key.text ++ digest.text⟩

def anchor : OpenWorldObserverSigningAnchor := ⟨"o", ⟨"s"⟩, ⟨"r"⟩, 0⟩

def membershipProof : AuthMapProof :=
  ⟨openWorldObserverSigningAnchorKey anchor, openWorldObserverSigningAnchorValue anchor, ⟨"l"⟩, ⟨"r"⟩, 1, []⟩

def envelope (publisher : PublicKey) (epoch : ℤ) (parent : Digest) : Envelope :=
  let checkpoint : Checkpoint :=
    { sessionId := "log"
      epoch
      previousCheckpoint := parent
      manifestDigest := openWorldObserverSigningAnchorLogManifest .identity "log"
      eventRoot := ⟨"e"⟩
      publicStateRoot := mapRoot .identity 1 (Hasher.identity.hashString
        (serializeAuthmapNode membershipProof.key membershipProof.value ⟨"l"⟩ ⟨"r"⟩))
      assetDeltaRoot := ⟨"a"⟩
      hiddenStateCommitment := none }
  let digest := Hasher.identity.hashString (serializeCheckpoint checkpoint)
  ⟨⟨checkpoint, digest, ⟨publisher.text ++ digest.text⟩, publisher⟩, anchor, membershipProof⟩

def initial (publisher : PublicKey) : Head :=
  ⟨anchor, ⟨"g"⟩, ⟨"p"⟩, publisher, "log", 0, by decide⟩

def head (publisher : PublicKey) : Head :=
  ⟨anchor, (envelope publisher 1 ⟨"g"⟩).signedCheckpoint.digest, ⟨"g"⟩, publisher, "log", 1, by decide⟩

end AnchorSample

open AnchorSample

/-- A run is served, but the publisher's key is the empty text: every request is refused as invalid, and the tracker
stays where it is. -/
theorem recoverGap_stuck_with_empty_publisher_key :
    Serves .identity verifier (new (initial ⟨Str.empty⟩)) 1 [envelope ⟨Str.empty⟩ 1 ⟨"g"⟩] [envelope ⟨Str.empty⟩ 1 ⟨"g"⟩]
      [head ⟨Str.empty⟩] ∧
    min 1 (1 - (new (initial ⟨Str.empty⟩)).currentEpoch) = 1 ∧
    (new (initial ⟨Str.empty⟩)).recoverGap .identity verifier
        (InMemoryTransport.new [envelope ⟨Str.empty⟩ 1 ⟨"g"⟩]).transport 1 1 =
      (new (initial ⟨Str.empty⟩), .observerSigningAnchorGapRecoveryInvalidRequest) := by
  refine ⟨⟨?_, ?_, by decide, by simp, by simp⟩, by decide, rfl⟩
  · exact .cons (opensTo_of_opened (by decide +kernel)) .nil
  · exact ⟨⟨rfl, rfl, rfl, rfl⟩, trivial⟩

example : ((new (initial ⟨"key"⟩)).recoverGap .identity verifier
    (InMemoryTransport.new [envelope ⟨"key"⟩ 1 ⟨"g"⟩]).transport 1 1).2 =
      .observerSigningAnchorGapRecoveryAdvanced 1 false := by
  decide +kernel

end

end ConvergeAudit.OpenWorld
