import ConvergeAudit.OpenWorld.Signing
import ConvergeAudit.Audit.Head

/-!
`signing_anchor_head.mbt`: a batch of heads is planned on a shadow of the tracker. `Shadows` relates that shadow to
the tracker that merges the same heads one by one.
-/

namespace ConvergeAudit.OpenWorld
open Moon Bft Game Audit
open List hiding head after

/-- The capability that `openPublishedOpenWorldObserverSigningAnchor` gives; it is given for a named log only. -/
structure PublishedOpenWorldObserverSigningAnchor where
  anchor : OpenWorldObserverSigningAnchor
  publicationCheckpointDigest : Digest
  previousCheckpointDigest : Digest
  publisherKey : PublicKey
  logSessionId : Str
  logEpoch : ℤ
  log_named : logSessionId ≠ Str.empty
  deriving DecidableEq

inductive OpenWorldObserverSigningAnchorForkKind where
  | sameEpochSigningAnchorCheckpoint
  | wrongParentSigningAnchorCheckpoint
  deriving DecidableEq

structure OpenWorldObserverSigningAnchorFork where
  kind : OpenWorldObserverSigningAnchorForkKind
  logSessionId : Str
  publisherKey : PublicKey
  acceptedEpoch : ℤ
  acceptedCheckpointDigest : Digest
  observedEpoch : ℤ
  conflictingCheckpointDigest : Digest
  conflictingPreviousCheckpointDigest : Digest
  deriving DecidableEq

inductive OpenWorldObserverSigningAnchorHeadDelivery where
  | signingAnchorHeadAdvanced
  | signingAnchorHeadDuplicate
  | signingAnchorHeadForkDetected (fork : OpenWorldObserverSigningAnchorFork)
  | signingAnchorHeadGap (expected incoming : ℤ)
  | signingAnchorHeadStale
  | signingAnchorHeadBoundaryMismatch
  deriving DecidableEq

inductive OpenWorldObserverSigningAnchorHeadBatchDelivery where
  | signingAnchorHeadBatchAdvanced (count : ℤ)
  | signingAnchorHeadBatchNoChange
  | signingAnchorHeadBatchForkDetected (index : ℤ) (fork : OpenWorldObserverSigningAnchorFork)
  | signingAnchorHeadBatchGap (index expected incoming : ℤ)
  | signingAnchorHeadBatchStale (index incoming : ℤ)
  | signingAnchorHeadBatchBoundaryMismatch (index : ℤ)
  deriving DecidableEq

structure OpenWorldObserverSigningAnchorHeadTracker where
  logSessionId : Str
  publisherKey : PublicKey
  currentEpoch : ℤ
  currentCheckpointDigest : Digest
  observedCheckpoints : Map ℤ Digest

/-- What a batch has planned so far: the local variables of `deliverBatch`. -/
structure SigningAnchorHeadPlan where
  checkpoints : Map ℤ Digest
  epoch : ℤ
  digest : Digest
  count : ℤ

namespace OpenWorldObserverSigningAnchorHeadTracker

section
variable (kind : OpenWorldObserverSigningAnchorForkKind) (tracker self : OpenWorldObserverSigningAnchorHeadTracker)
  (plan : SigningAnchorHeadPlan) (index : ℤ) (incoming : PublishedOpenWorldObserverSigningAnchor)

def new (initial : PublishedOpenWorldObserverSigningAnchor) : OpenWorldObserverSigningAnchorHeadTracker where
  logSessionId := initial.logSessionId
  publisherKey := initial.publisherKey
  currentEpoch := initial.logEpoch
  currentCheckpointDigest := initial.publicationCheckpointDigest
  observedCheckpoints := Map.empty.set initial.logEpoch initial.publicationCheckpointDigest

def openWorldObserverSigningAnchorFork (acceptedEpoch : ℤ)
    (acceptedCheckpointDigest : Digest) : OpenWorldObserverSigningAnchorFork where
  kind := kind
  logSessionId := tracker.logSessionId
  publisherKey := tracker.publisherKey
  acceptedEpoch := acceptedEpoch
  acceptedCheckpointDigest := acceptedCheckpointDigest
  observedEpoch := incoming.logEpoch
  conflictingCheckpointDigest := incoming.publicationCheckpointDigest
  conflictingPreviousCheckpointDigest := incoming.previousCheckpointDigest

def classifyHead (known : Option Digest) (currentEpoch : ℤ) (currentDigest : Digest)
    (incoming : PublishedOpenWorldObserverSigningAnchor) : CheckpointHeadDecision :=
  let boundaryMatches := incoming.logSessionId == self.logSessionId && incoming.publisherKey == self.publisherKey
  let knownDigestMatches := match known with
    | some digest => digest == incoming.publicationCheckpointDigest
    | none => false
  classifyCheckpointHead boundaryMatches known.isSome knownDigestMatches currentEpoch incoming.logEpoch
    (incoming.previousCheckpointDigest == currentDigest)

def advance : OpenWorldObserverSigningAnchorHeadTracker :=
  { self with
    observedCheckpoints := self.observedCheckpoints.set incoming.logEpoch incoming.publicationCheckpointDigest
    currentEpoch := incoming.logEpoch
    currentCheckpointDigest := incoming.publicationCheckpointDigest }

def deliver : OpenWorldObserverSigningAnchorHeadTracker × OpenWorldObserverSigningAnchorHeadDelivery :=
  let known := self.observedCheckpoints.get incoming.logEpoch
  match self.classifyHead known self.currentEpoch self.currentCheckpointDigest incoming with
  | .boundaryMismatch => (self, .signingAnchorHeadBoundaryMismatch)
  | .duplicate => (self, .signingAnchorHeadDuplicate)
  | .sameEpochFork =>
    match known with
    | some acceptedDigest =>
      (self, .signingAnchorHeadForkDetected (openWorldObserverSigningAnchorFork .sameEpochSigningAnchorCheckpoint self
        incoming incoming.logEpoch acceptedDigest))
    | none => (self, .signingAnchorHeadStale)
  | .parentFork =>
    (self, .signingAnchorHeadForkDetected (openWorldObserverSigningAnchorFork .wrongParentSigningAnchorCheckpoint self
      incoming self.currentEpoch self.currentCheckpointDigest))
  | .advance => (self.advance incoming, .signingAnchorHeadAdvanced)
  | .gap => (self, .signingAnchorHeadGap (self.currentEpoch + 1) incoming.logEpoch)
  | .stale => (self, .signingAnchorHeadStale)

def planHead : Except OpenWorldObserverSigningAnchorHeadBatchDelivery SigningAnchorHeadPlan :=
  let known := match self.observedCheckpoints.get incoming.logEpoch with
    | some digest => some digest
    | none => plan.checkpoints.get incoming.logEpoch
  match self.classifyHead known plan.epoch plan.digest incoming with
  | .boundaryMismatch => .error (.signingAnchorHeadBatchBoundaryMismatch index)
  | .duplicate => .ok plan
  | .sameEpochFork =>
    match known with
    | some acceptedDigest =>
      .error (.signingAnchorHeadBatchForkDetected index (openWorldObserverSigningAnchorFork
        .sameEpochSigningAnchorCheckpoint self incoming incoming.logEpoch acceptedDigest))
    | none => .error (.signingAnchorHeadBatchStale index incoming.logEpoch)
  | .parentFork =>
    .error (.signingAnchorHeadBatchForkDetected index (openWorldObserverSigningAnchorFork
      .wrongParentSigningAnchorCheckpoint self incoming plan.epoch plan.digest))
  | .advance =>
    .ok ⟨plan.checkpoints.set incoming.logEpoch incoming.publicationCheckpointDigest, incoming.logEpoch,
      incoming.publicationCheckpointDigest, plan.count + 1⟩
  | .gap => .error (.signingAnchorHeadBatchGap index (plan.epoch + 1) incoming.logEpoch)
  | .stale => .error (.signingAnchorHeadBatchStale index incoming.logEpoch)

def planHeads (self : OpenWorldObserverSigningAnchorHeadTracker) :
    SigningAnchorHeadPlan → ℤ → List PublishedOpenWorldObserverSigningAnchor →
      Except OpenWorldObserverSigningAnchorHeadBatchDelivery SigningAnchorHeadPlan
  | plan, _, [] => .ok plan
  | plan, index, incoming :: rest =>
    match self.planHead plan index incoming with
    | .error refusal => .error refusal
    | .ok next => self.planHeads next (index + 1) rest

def merge : OpenWorldObserverSigningAnchorHeadTracker :=
  { self with
    observedCheckpoints :=
      plan.checkpoints.entries.foldl (fun observed entry => observed.set entry.1 entry.2) self.observedCheckpoints
    currentEpoch := plan.epoch
    currentCheckpointDigest := plan.digest }

def deliverBatch (incomingHeads : List PublishedOpenWorldObserverSigningAnchor) :
    OpenWorldObserverSigningAnchorHeadTracker × OpenWorldObserverSigningAnchorHeadBatchDelivery :=
  match self.planHeads ⟨.empty, self.currentEpoch, self.currentCheckpointDigest, 0⟩ 0 incomingHeads with
  | .error refusal => (self, refusal)
  | .ok plan =>
    if plan.count = 0 then (self, .signingAnchorHeadBatchNoChange)
    else (self.merge plan, .signingAnchorHeadBatchAdvanced plan.count)

def deliverEach : OpenWorldObserverSigningAnchorHeadTracker → List PublishedOpenWorldObserverSigningAnchor →
    OpenWorldObserverSigningAnchorHeadTracker × List OpenWorldObserverSigningAnchorHeadDelivery
  | self, [] => (self, [])
  | self, incoming :: rest =>
    (((self.deliver incoming).1.deliverEach rest).1,
      (self.deliver incoming).2 :: ((self.deliver incoming).1.deliverEach rest).2)

end

end OpenWorldObserverSigningAnchorHeadTracker

open OpenWorld renaming OpenWorldObserverSigningAnchorHeadTracker → Tracker, PublishedOpenWorldObserverSigningAnchor → Head,
  OpenWorldObserverSigningAnchorHeadDelivery → HeadDelivery, OpenWorldObserverSigningAnchorHeadBatchDelivery → BatchDelivery

namespace OpenWorldObserverSigningAnchorHeadDelivery

/-- What a batch reports when the head at `index` is answered so; a head that is merged is not reported. -/
def refusalAt (index : ℤ) (incoming : Head) :
    HeadDelivery → Option BatchDelivery
  | signingAnchorHeadAdvanced => none
  | signingAnchorHeadDuplicate => none
  | signingAnchorHeadForkDetected fork => some (.signingAnchorHeadBatchForkDetected index fork)
  | signingAnchorHeadGap expected found => some (.signingAnchorHeadBatchGap index expected found)
  | signingAnchorHeadStale => some (.signingAnchorHeadBatchStale index incoming.logEpoch)
  | signingAnchorHeadBoundaryMismatch => some (.signingAnchorHeadBatchBoundaryMismatch index)

def merged : HeadDelivery → Bool
  | signingAnchorHeadAdvanced => true
  | signingAnchorHeadDuplicate => true
  | _ => false

theorem refusalAt_eq_none_iff (index : ℤ) (incoming : Head) (answer : HeadDelivery) :
    answer.refusalAt index incoming = none ↔ answer.merged = true := by
  cases answer <;> simp [refusalAt, merged]

def advances (answers : List HeadDelivery) : ℤ :=
  answers.count signingAnchorHeadAdvanced

end OpenWorldObserverSigningAnchorHeadDelivery

variable {answer : HeadDelivery}

namespace OpenWorldObserverSigningAnchorHeadBatchDelivery

def succeeded : BatchDelivery → Bool
  | signingAnchorHeadBatchAdvanced _ => true
  | signingAnchorHeadBatchNoChange => true
  | _ => false

def ofCount (count : ℤ) : BatchDelivery :=
  if count = 0 then signingAnchorHeadBatchNoChange else signingAnchorHeadBatchAdvanced count

theorem succeeded_ofCount (count : ℤ) : (ofCount count).succeeded = true := by
  unfold ofCount
  split <;> rfl

theorem not_succeeded_of_refusalAt (refused : answer.refusalAt index incoming = some refusal) :
    refusal.succeeded = false := by
  cases answer <;> simp only [HeadDelivery.refusalAt, Option.some.injEq,
    reduceCtorEq] at refused
  all_goals
    subst refusal
    rfl

end OpenWorldObserverSigningAnchorHeadBatchDelivery

variable {tracker : Tracker}

namespace OpenWorldObserverSigningAnchorHeadTracker
open OpenWorldObserverSigningAnchorHeadDelivery (advances)

theorem classifyHead_advance_iff (self : Tracker) (known : Option Digest)
    (currentEpoch : ℤ) (currentDigest : Digest) (incoming : Head) :
    self.classifyHead known currentEpoch currentDigest incoming = .advance ↔
      incoming.logSessionId = self.logSessionId ∧ incoming.publisherKey = self.publisherKey ∧ known = none ∧
        incoming.logEpoch = currentEpoch + 1 ∧ incoming.previousCheckpointDigest = currentDigest := by
  unfold classifyHead
  rw [classifyCheckpointHead_advance_iff]
  simp [and_assoc]

/-- A head either extends the tracker as the next one of its log, or leaves it alone. -/
theorem deliver_cases (self : Tracker) :
    (self.deliver incoming = (self.advance incoming, .signingAnchorHeadAdvanced) ∧
      self.classifyHead (self.observedCheckpoints.get incoming.logEpoch) self.currentEpoch self.currentCheckpointDigest
        incoming = .advance) ∨
    ((self.deliver incoming).1 = self ∧ (self.deliver incoming).2 ≠ .signingAnchorHeadAdvanced) := by
  unfold deliver
  generalize known_eq : self.observedCheckpoints.get incoming.logEpoch = known
  cases decided : self.classifyHead known self.currentEpoch self.currentCheckpointDigest incoming with
  | advance => simp [decided]
  | sameEpochFork => cases known <;> simp [decided]
  | _ => simp [decided]

/-- `current` is what `tracker` becomes when `plan` is committed, and looking an epoch up in both maps is looking it up
in `current`. -/
structure Shadows (tracker : Tracker) (plan : SigningAnchorHeadPlan)
    (current : Tracker) : Prop where
  merged : tracker.merge plan = current
  looked_up : ∀ epoch, current.observedCheckpoints.get epoch =
    match tracker.observedCheckpoints.get epoch with
    | some digest => some digest
    | none => plan.checkpoints.get epoch

theorem shadows_start (self : Tracker) :
    self.Shadows ⟨.empty, self.currentEpoch, self.currentCheckpointDigest, 0⟩ self where
  merged := rfl
  looked_up epoch := by cases self.observedCheckpoints.get epoch <;> rfl

section Step

variable {self current : Tracker}

theorem Shadows.advance (shadow : self.Shadows plan current) (incoming : Head)
    (fresh : current.observedCheckpoints.get incoming.logEpoch = none) :
    self.Shadows ⟨plan.checkpoints.set incoming.logEpoch incoming.publicationCheckpointDigest, incoming.logEpoch,
      incoming.publicationCheckpointDigest, plan.count + 1⟩ (current.advance incoming) := by
  have lookedUp := shadow.looked_up incoming.logEpoch
  rw [fresh] at lookedUp
  have unobserved : self.observedCheckpoints.get incoming.logEpoch = none := by
    cases observed : self.observedCheckpoints.get incoming.logEpoch with
    | none => rfl
    | some digest => simp [observed] at lookedUp
  have unplanned : plan.checkpoints.get incoming.logEpoch = none := by
    rw [unobserved] at lookedUp
    exact lookedUp.symm
  constructor
  · rw [← shadow.merged]
    simp only [merge, Tracker.advance, Map.entries_set_of_get_eq_none _ unplanned,
      foldl_append, foldl_cons, foldl_nil]
  · intro epoch
    simp only [Tracker.advance, Map.get_set]
    by_cases same : epoch = incoming.logEpoch
    · simp [same, unobserved]
    · simp only [same, if_false]
      exact shadow.looked_up epoch

theorem merge_head : (self.merge plan).currentEpoch = plan.epoch ∧ (self.merge plan).currentCheckpointDigest = plan.digest :=
  ⟨rfl, rfl⟩

theorem classifyHead_merge : (self.merge plan).classifyHead = self.classifyHead := rfl

theorem fork_merge : openWorldObserverSigningAnchorFork kind (self.merge plan) incoming epoch digest =
    openWorldObserverSigningAnchorFork kind self incoming epoch digest := rfl

theorem planHead_of_refused (shadow : self.Shadows plan current)
    (refused : (current.deliver incoming).2.refusalAt index incoming = some refusal) :
    self.planHead plan index incoming = .error refusal := by
  obtain ⟨rfl, lookedUp⟩ := shadow
  unfold planHead
  unfold deliver at refused
  rw [← lookedUp incoming.logEpoch]
  generalize (self.merge plan).observedCheckpoints.get incoming.logEpoch = known at refused ⊢
  simp only [classifyHead_merge, fork_merge, merge_head] at refused ⊢
  cases decided : self.classifyHead known plan.epoch plan.digest incoming with
  | sameEpochFork =>
    cases known <;> simp only [decided, HeadDelivery.refusalAt, Option.some.injEq] at refused ⊢
    all_goals rw [refused]
  | advance | duplicate => simp [decided, HeadDelivery.refusalAt] at refused
  | _ =>
    simp only [decided, HeadDelivery.refusalAt, Option.some.injEq] at refused
    rw [← refused]

theorem planHead_of_merged (shadow : self.Shadows plan current) (index : ℤ)
    (merges : (current.deliver incoming).2.merged = true) :
    ∃ next, self.planHead plan index incoming = .ok next ∧ self.Shadows next (current.deliver incoming).1 ∧
      next.count = plan.count + advances [(current.deliver incoming).2] := by
  rcases current.deliver_cases with ⟨delivered, decided⟩ | ⟨kept, notAdvanced⟩
  · have fresh := ((current.classifyHead_advance_iff _ _ _ _).mp decided).2.2.1
    refine ⟨_, ?_, by rw [delivered]; exact shadow.advance incoming fresh, by rw [delivered]; rfl⟩
    obtain ⟨rfl, lookedUp⟩ := shadow
    unfold planHead
    rw [← lookedUp incoming.logEpoch]
    simp only [classifyHead_merge, merge_head] at decided ⊢
    rw [decided]
  · refine ⟨plan, ?_, by rw [kept]; exact shadow, ?_⟩
    · obtain ⟨rfl, lookedUp⟩ := shadow
      unfold planHead
      unfold deliver at merges notAdvanced
      rw [← lookedUp incoming.logEpoch]
      generalize (self.merge plan).observedCheckpoints.get incoming.logEpoch = known at merges notAdvanced ⊢
      simp only [classifyHead_merge, merge_head] at merges notAdvanced ⊢
      cases decided : self.classifyHead known plan.epoch plan.digest incoming with
      | duplicate => simp
      | sameEpochFork =>
        cases known <;> simp [decided, HeadDelivery.merged] at merges
      | advance => simp [decided] at notAdvanced
      | _ => simp [decided, HeadDelivery.merged] at merges
    · simp [advances, notAdvanced]

end Step

theorem advances_cons (answer : HeadDelivery) (answers : List HeadDelivery) :
    advances (answer :: answers) = advances [answer] + advances answers := by
  unfold advances
  rw [← singleton_append, count_append]
  rfl

theorem deliverEach_fst_of_advances_eq_zero (self : Tracker) (heads : List Head)
    (none_new : advances (self.deliverEach heads).2 = 0) : (self.deliverEach heads).1 = self := by
  induction heads with
  | nil => rfl
  | cons incoming rest ih =>
    simp only [deliverEach] at none_new ⊢
    rw [advances_cons] at none_new
    have bounds : 0 ≤ advances [(self.deliver incoming).2] ∧
        0 ≤ advances ((self.deliver incoming).1.deliverEach rest).2 := by
      unfold advances
      omega
    rcases self.deliver_cases with ⟨delivered, _⟩ | ⟨kept, _⟩
    · have one : advances [(self.deliver incoming).2] = 1 := by rw [delivered]; rfl
      omega
    · rw [kept] at none_new bounds ⊢
      exact ih (by omega)

theorem planHeads_of_merged {self : Tracker} (shadow : self.Shadows plan current)
    (index : ℤ) (merges : ∀ answer ∈ (current.deliverEach heads).2, answer.merged = true) :
    ∃ final, self.planHeads plan index heads = .ok final ∧ self.Shadows final (current.deliverEach heads).1 ∧
      final.count = plan.count + advances (current.deliverEach heads).2 := by
  induction heads generalizing plan current index with
  | nil => exact ⟨plan, rfl, shadow, by simp [deliverEach, advances]⟩
  | cons incoming rest ih =>
    simp only [deliverEach, mem_cons, forall_eq_or_imp] at merges
    obtain ⟨next, planned, shadowNext, countNext⟩ := planHead_of_merged shadow index merges.1
    obtain ⟨final, plannedRest, shadowFinal, countFinal⟩ := ih shadowNext (index + 1) merges.2
    refine ⟨final, ?_, shadowFinal, ?_⟩
    · simp only [planHeads, planned]
      exact plannedRest
    · simp only [deliverEach]
      rw [advances_cons, countFinal, countNext]
      omega

theorem planHeads_of_refused {self : Tracker} (shadow : self.Shadows plan current) (start : ℤ)
    (head : heads[index]? = some incoming) (answered : (current.deliverEach heads).2[index]? = some answer)
    (before : ∀ earlier ∈ (current.deliverEach heads).2.take index, earlier.merged = true)
    (refused : answer.refusalAt (start + index) incoming = some refusal) :
    self.planHeads plan start heads = .error refusal := by
  induction heads generalizing plan current start index with
  | nil => simp at head
  | cons first rest ih =>
    cases index with
    | zero =>
      simp only [deliverEach, getElem?_cons_zero, Option.some.injEq] at head answered
      subst head answered
      rw [Nat.cast_zero, add_zero] at refused
      simp only [planHeads, planHead_of_refused shadow refused]
    | succ index =>
      simp only [deliverEach, getElem?_cons_succ, take_succ_cons, mem_cons, forall_eq_or_imp]
        at head answered before
      obtain ⟨next, planned, shadowNext, _⟩ := planHead_of_merged shadow start before.1
      simp only [planHeads, planned]
      refine ih shadowNext (start + 1) head answered before.2 ?_
      rw [← refused]
      congr 1
      push_cast
      omega

theorem deliverBatch_of_merged (self : Tracker) (heads : List Head)
    (merges : ∀ answer ∈ (self.deliverEach heads).2, answer.merged = true) :
    self.deliverBatch heads = ((self.deliverEach heads).1, .ofCount (advances (self.deliverEach heads).2)) := by
  obtain ⟨final, planned, shadow, counted⟩ := planHeads_of_merged self.shadows_start 0 merges
  rw [zero_add] at counted
  unfold deliverBatch BatchDelivery.ofCount
  simp only [planned, ← counted]
  by_cases none_new : final.count = 0
  · rw [if_pos none_new, if_pos none_new, deliverEach_fst_of_advances_eq_zero self heads (by omega)]
  · rw [if_neg none_new, if_neg none_new, shadow.merged]

theorem deliverBatch_of_refused (self : Tracker) (heads : List Head) {index : ℕ}
    (head : heads[index]? = some incoming) (answered : (self.deliverEach heads).2[index]? = some answer)
    (before : ∀ earlier ∈ (self.deliverEach heads).2.take index, earlier.merged = true)
    (refused : answer.refusalAt index incoming = some refusal) : self.deliverBatch heads = (self, refusal) := by
  rw [← zero_add (index : ℤ)] at refused
  unfold deliverBatch
  simp only [planHeads_of_refused self.shadows_start 0 head answered before refused]

theorem exists_first_refusal {answers : List HeadDelivery} (refused : ¬∀ answer ∈ answers, answer.merged = true) :
    ∃ (index : ℕ) (answer : HeadDelivery), answers[index]? = some answer ∧
      answer.merged = false ∧ ∀ earlier ∈ answers.take index, earlier.merged = true := by
  induction answers with
  | nil => simp at refused
  | cons first rest ih =>
    cases decided : first.merged with
    | false => exact ⟨0, first, rfl, decided, by simp⟩
    | true =>
      have later : ¬∀ answer ∈ rest, answer.merged = true := by
        intro all
        exact refused (by simpa [decided] using all)
      obtain ⟨index, answer, found, failed, before⟩ := ih later
      exact ⟨index + 1, answer, found, failed, by simpa [decided] using before⟩

theorem length_deliverEach_snd (self : Tracker) : (self.deliverEach heads).2.length = heads.length := by
  induction heads generalizing self with
  | nil => rfl
  | cons incoming rest ih => simp only [deliverEach, length_cons, ih]

/-- A batch either does what the single deliveries do, all of them merged, or refuses and changes nothing. -/
theorem deliverBatch_cases (self : Tracker) (heads : List Head) :
    ((∀ answer ∈ (self.deliverEach heads).2, answer.merged = true) ∧
      self.deliverBatch heads = ((self.deliverEach heads).1, .ofCount (advances (self.deliverEach heads).2))) ∨
    ((¬∀ answer ∈ (self.deliverEach heads).2, answer.merged = true) ∧ (self.deliverBatch heads).1 = self ∧
      (self.deliverBatch heads).2.succeeded = false) := by
  by_cases merges : ∀ answer ∈ (self.deliverEach heads).2, answer.merged = true
  · exact Or.inl ⟨merges, self.deliverBatch_of_merged heads merges⟩
  · refine Or.inr ⟨merges, ?_⟩
    obtain ⟨index, answer, answered, failed, before⟩ := exists_first_refusal merges
    obtain ⟨bound, _⟩ := List.getElem?_eq_some_iff.mp answered
    rw [self.length_deliverEach_snd] at bound
    cases refused : answer.refusalAt index heads[index] with
    | none => simp [(HeadDelivery.refusalAt_eq_none_iff _ _ _).mp refused] at failed
    | some refusal =>
      rw [self.deliverBatch_of_refused heads (getElem?_eq_getElem bound) answered before refused]
      exact ⟨rfl, BatchDelivery.not_succeeded_of_refusalAt refused⟩

theorem deliverBatch_invariant {P : Tracker → Prop}
    (step : ∀ tracker incoming, P tracker → P (tracker.deliver incoming).1) (self : Tracker) (heads : List Head)
    (holds : P self) : P (self.deliverBatch heads).1 := by
  have each : ∀ (heads : List Head) (tracker), P tracker →
      P (tracker.deliverEach heads).1 := by
    intro heads
    induction heads with
    | nil => exact fun tracker holds => holds
    | cons incoming rest ih => exact fun tracker holds => ih _ (step tracker incoming holds)
  rcases self.deliverBatch_cases heads with ⟨_, delivered⟩ | ⟨_, kept, _⟩
  · rw [delivered]
    exact each heads self holds
  · rw [kept]
    exact holds

/-- The recorded epochs are those from `first` to the current one, and the current one has the current digest. -/
structure Contiguous (first : ℤ) (tracker : Tracker) : Prop where
  observed_iff : ∀ epoch, (tracker.observedCheckpoints.get epoch).isSome = true ↔
    first ≤ epoch ∧ epoch ≤ tracker.currentEpoch
  head : tracker.observedCheckpoints.get tracker.currentEpoch = some tracker.currentCheckpointDigest

theorem contiguous_new :
    Contiguous initial.logEpoch (new initial) where
  observed_iff epoch := by
    simp only [new, Map.get_set, Map.get_empty]
    by_cases same : epoch = initial.logEpoch
    · simp [same]
    · simp [same]
      omega
  head := Map.get_set_self _ _ _

section
variable (contiguous : Contiguous first tracker)
include contiguous

theorem Contiguous.started : first ≤ tracker.currentEpoch :=
  ((contiguous.observed_iff _).mp (by rw [contiguous.head]; rfl)).1

theorem Contiguous.next_fresh :
    tracker.observedCheckpoints.get (tracker.currentEpoch + 1) = none := by
  cases found : tracker.observedCheckpoints.get (tracker.currentEpoch + 1) with
  | none => rfl
  | some digest =>
    have bounds := (contiguous.observed_iff (tracker.currentEpoch + 1)).mp (by rw [found]; rfl)
    omega

theorem Contiguous.advance (next : incoming.logEpoch = tracker.currentEpoch + 1) :
    Contiguous first (tracker.advance incoming) where
  observed_iff epoch := by
    have started := contiguous.started
    have before := contiguous.observed_iff epoch
    simp only [Tracker.advance, Map.get_set]
    by_cases same : epoch = incoming.logEpoch
    · simp [same]
      omega
    · rw [if_neg same, before]
      omega
  head := Map.get_set_self _ _ _

theorem Contiguous.deliver (incoming : Head) :
    Contiguous first (tracker.deliver incoming).1 := by
  rcases tracker.deliver_cases with ⟨delivered, decided⟩ | ⟨kept, _⟩
  · rw [delivered]
    exact contiguous.advance ((tracker.classifyHead_advance_iff _ _ _ _).mp decided).2.2.2.1
  · rw [kept]
    exact contiguous

end

def Keeps (before after : Tracker) : Prop :=
  ∀ epoch digest, before.observedCheckpoints.get epoch = some digest →
    after.observedCheckpoints.get epoch = some digest

theorem keeps_deliver (kept : Keeps before tracker) (incoming : Head) :
    Keeps before (tracker.deliver incoming).1 := by
  rcases tracker.deliver_cases with ⟨delivered, decided⟩ | ⟨unchanged, _⟩
  · have fresh := ((tracker.classifyHead_advance_iff _ _ _ _).mp decided).2.2.1
    intro epoch digest recorded
    have earlier := kept epoch digest recorded
    have different : epoch ≠ incoming.logEpoch := by
      intro same
      rw [same, fresh] at earlier
      cases earlier
    rw [delivered]
    exact (Map.get_set_other _ _ different).trans earlier
  · rw [unchanged]
    exact kept

/-- Each of the heads is the next one of the log: its epoch follows and its parent is the head before it. -/
def Continues : Tracker → List Head → Prop
  | _, [] => True
  | tracker, head :: rest =>
    (head.logSessionId = tracker.logSessionId ∧ head.publisherKey = tracker.publisherKey ∧
      head.logEpoch = tracker.currentEpoch + 1 ∧
      head.previousCheckpointDigest = tracker.currentCheckpointDigest) ∧ Continues (tracker.advance head) rest

def extend (tracker : Tracker)
    (heads : List Head) : Tracker :=
  heads.foldl advance tracker

theorem Continues.currentEpoch_extend (continues : tracker.Continues heads) :
    (tracker.extend heads).currentEpoch = tracker.currentEpoch + heads.length := by
  induction heads generalizing tracker with
  | nil => simp [extend]
  | cons head rest ih =>
    obtain ⟨⟨_, _, next, _⟩, later⟩ := continues
    have reached := ih later
    simp only [extend, foldl_cons, length_cons] at reached ⊢
    rw [reached]
    simp only [Tracker.advance, next]
    push_cast
    omega

theorem continues_append (early late : List Head) :
    tracker.Continues (early ++ late) ↔ tracker.Continues early ∧ (tracker.extend early).Continues late := by
  induction early generalizing tracker with
  | nil => simp [Continues, extend]
  | cons head rest ih => simp only [cons_append, Continues, ih, extend, foldl_cons, and_assoc]

@[simp] theorem logSessionId_extend (tracker : Tracker) (heads : List Head) :
    (tracker.extend heads).logSessionId = tracker.logSessionId := by
  induction heads generalizing tracker with
  | nil => rfl
  | cons head rest ih => exact ih (tracker.advance head)

@[simp] theorem publisherKey_extend (tracker : Tracker) (heads : List Head) :
    (tracker.extend heads).publisherKey = tracker.publisherKey := by
  induction heads generalizing tracker with
  | nil => rfl
  | cons head rest ih => exact ih (tracker.advance head)

theorem currentCheckpointDigest_extend (tracker : Tracker) (heads : List Head) :
    (tracker.extend heads).currentCheckpointDigest = tracker.currentCheckpointDigest ∨
      ∃ head ∈ heads, (tracker.extend heads).currentCheckpointDigest = head.publicationCheckpointDigest := by
  induction heads generalizing tracker with
  | nil => exact Or.inl rfl
  | cons head rest ih =>
    rcases ih (tracker.advance head) with same | ⟨other, member, same⟩
    · exact Or.inr ⟨head, mem_cons_self, same⟩
    · exact Or.inr ⟨other, mem_cons_of_mem _ member, same⟩

section
variable (continues : tracker.Continues heads)
include continues

theorem Continues.contiguous (contiguous : Contiguous first tracker) :
    Contiguous first (tracker.extend heads) := by
  induction heads generalizing tracker with
  | nil => exact contiguous
  | cons head rest ih => exact ih continues.2 (contiguous.advance continues.1.2.2.1)

theorem Continues.epoch_at {i : ℕ} (found : heads[i]? = some head) :
    head.logEpoch = tracker.currentEpoch + (i + 1) := by
  induction heads generalizing tracker i with
  | nil => cases found
  | cons first rest ih =>
    obtain ⟨⟨_, _, next, _⟩, later⟩ := continues
    cases i with
    | zero =>
      cases found
      exact next
    | succ i =>
      rw [ih later found, Tracker.advance, next]
      push_cast
      omega

theorem Continues.epoch_le (member : head ∈ heads) :
    head.logEpoch ≤ tracker.currentEpoch + heads.length := by
  obtain ⟨i, inside, rfl⟩ := mem_iff_getElem.mp member
  have reached := continues.epoch_at (getElem?_eq_getElem inside)
  omega

theorem Continues.bounded (below : ∀ head ∈ heads, head.logEpoch ≤ bound) (some_new : heads ≠ []) :
    tracker.currentEpoch + heads.length ≤ bound := by
  have nonempty := length_pos_iff.mpr some_new
  have last := getElem?_eq_getElem (l := heads) (i := heads.length - 1) (by omega)
  have reached := continues.epoch_at last
  have bounded := below _ (mem_of_getElem? last)
  omega

end

/-- Of the heads delivered one by one, those that advance the tracker continue its log. -/
theorem deliverEach_extends (tracker : Tracker) :
    ∃ new, new.Sublist heads ∧ tracker.Continues new ∧ (tracker.deliverEach heads).1 = tracker.extend new := by
  induction heads generalizing tracker with
  | nil => exact ⟨[], List.Sublist.refl _, trivial, rfl⟩
  | cons incoming rest ih =>
    obtain ⟨new, among, continues, extended⟩ := ih (tracker.deliver incoming).1
    rcases tracker.deliver_cases with ⟨delivered, decided⟩ | ⟨kept, _⟩
    · obtain ⟨session, publisher, _, next, parent⟩ := (tracker.classifyHead_advance_iff _ _ _ _).mp decided
      rw [delivered] at continues extended
      refine ⟨incoming :: new, among.cons_cons incoming, ⟨⟨session, publisher, next, parent⟩, continues⟩, ?_⟩
      simp only [deliverEach, delivered]
      exact extended
    · rw [kept] at continues extended
      refine ⟨new, among.cons incoming, continues, ?_⟩
      simp only [deliverEach, kept]
      exact extended

theorem Continues.deliverEach (continues : tracker.Continues heads) (contiguous : Contiguous first tracker) :
    tracker.deliverEach heads = (tracker.extend heads, List.replicate heads.length .signingAnchorHeadAdvanced) := by
  induction heads generalizing tracker with
  | nil => rfl
  | cons head rest ih =>
    obtain ⟨⟨session, publisher, next, parent⟩, later⟩ := continues
    have fresh : tracker.observedCheckpoints.get head.logEpoch = none := by
      rw [next]
      exact contiguous.next_fresh
    have decided := (tracker.classifyHead_advance_iff _ tracker.currentEpoch tracker.currentCheckpointDigest head).mpr
      ⟨session, publisher, fresh, next, parent⟩
    have delivered : tracker.deliver head = (tracker.advance head, .signingAnchorHeadAdvanced) := by
      simp [deliver, decided]
    have reached := ih later (contiguous.advance next)
    simp only [Tracker.deliverEach, delivered, reached, length_cons,
      replicate_succ]
    rfl

theorem Continues.deliverBatch (continues : tracker.Continues heads) (contiguous : Contiguous first tracker) :
    tracker.deliverBatch heads = (tracker.extend heads, .ofCount heads.length) := by
  have each := continues.deliverEach contiguous
  have merges : ∀ answer ∈ (tracker.deliverEach heads).2, answer.merged = true := by
    rw [each]
    intro answer member
    rw [eq_of_mem_replicate member]
    rfl
  rw [tracker.deliverBatch_of_merged heads merges, each]
  simp [advances]

end OpenWorldObserverSigningAnchorHeadTracker

end ConvergeAudit.OpenWorld
