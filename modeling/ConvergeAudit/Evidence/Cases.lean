import ConvergeAudit.PlayerStore.Contracts
import ConvergeAudit.Lib.NumberedChain
import ConvergeAudit.Lib.Table
import Mathlib.Data.List.MinMax

/-!
The reference-game authority of `cf-game-audit/src/index.ts`: a source opens a case with a message and publishes its
resolution with another. `digest` stands for the hash of the statement of an envelope.
-/

namespace ConvergeAudit.Evidence
open Moon Js Lib Lib.Fallible Lib.Table Lib.NumberedChain PlayerStore List

/-- The order of `Int` that can be run. -/
abbrev intOrder : Preorder Int := instLatticeInt.toSemilatticeInf.toPartialOrder.toPreorder

attribute [local instance] intOrder

structure UnsignedEnvelope where
  sourceId : Str
  messageId : Str
  sequence : Int
  previousMessageDigest : Str
  operation : PlayerLocalEvidenceInboxOperation
  deriving DecidableEq

structure Envelope extends UnsignedEnvelope where
  messageDigest : Str
  deriving DecidableEq

/-- `/^[A-Za-z0-9._:-]{1,256}$/`. -/
def identity (value : Str) : Bool := boundedText value 256 && value.units.all isIdentifierUnit

def boundaryValid (boundary : AuditBoundary) : Bool :=
  safePositiveInteger boundary.protocolVersion && boundedText boundary.purpose 256 &&
  boundedText boundary.manifestDigest 4096 && boundedText boundary.scopeId 4096 && boundedText boundary.unitId 256

def evidenceHoldValid (hold : PlayerLocalEvidenceHold) : Bool :=
  boundaryValid hold.boundary && boundedText hold.holdId 256 && isNonNegativeInteger hold.epoch &&
  boundedText hold.checkpointDigest 4096 && boundedText hold.referenceDigest 4096 && decide (hold.state = .active)

def evidenceHoldResolutionValid (resolution : PlayerLocalEvidenceHoldResolution) : Bool :=
  boundaryValid resolution.boundary && boundedText resolution.holdId 256 && isNonNegativeInteger resolution.epoch &&
  boundedText resolution.checkpointDigest 4096 && boundedText resolution.referenceDigest 4096 &&
  boundedText resolution.resolutionDigest 4096

def operationValid (messageId : Str) : PlayerLocalEvidenceInboxOperation → Bool
  | .place hold => evidenceHoldValid hold && decide (messageId = hold.holdId)
  | .resolve resolution => evidenceHoldResolutionValid resolution && decide (messageId = resolution.holdId)

/-- `decodePlayerLocalEvidenceHoldEnvelope`, and the comparison with the hash of the statement. -/
abbrev Envelope.Verified (digest : UnsignedEnvelope → Str) (envelope : Envelope) : Prop :=
  envelope.messageDigest = digest envelope.toUnsignedEnvelope ∧ boundedText envelope.sourceId 256 ∧
    boundedText envelope.messageId 256 ∧ isNonNegativeInteger envelope.sequence ∧
    boundedText envelope.previousMessageDigest 4096 ∧ boundedText envelope.messageDigest 4096 ∧
    envelope.messageDigest ≠ envelope.previousMessageDigest ∧ operationValid envelope.messageId envelope.operation

structure CaseRow where
  caseId : Str
  assetId : Str
  ancestorId : Str
  sourceId : Str
  hold : PlayerLocalEvidenceHold
  holdMessageDigest : Str
  /-- Disposition and resolution id of a decided case. -/
  resolution : Option (HoldDecision × Str)
  deriving DecidableEq

def CaseRow.isOpen (caseId : Str) (row : CaseRow) : Bool := row.caseId = caseId && row.resolution.isNone

def CaseRow.decide (resolution : HoldDecision × Str) (row : CaseRow) : CaseRow := { row with resolution := some resolution }

structure MessageRow extends Envelope where
  caseId : Str
  deriving DecidableEq

/-- The column `operation_kind`. -/
def isPlace : PlayerLocalEvidenceInboxOperation → Bool
  | .place _ => true
  | .resolve _ => false

structure EvidenceCaseResolutionNotice where
  noticeSequence : Int
  unit : Str
  caseId : Str
  sourceId : Str
  acceptedAtMs : Int
  resolution : PlayerLocalEvidenceHoldResolution
  deriving DecidableEq

structure NoticeRow extends EvidenceCaseResolutionNotice where
  deliveredMessageDigest : Option Str
  deriving DecidableEq

def NoticeRow.isUndelivered (caseId : Str) (row : NoticeRow) : Bool :=
  row.caseId = caseId && row.deliveredMessageDigest.isNone

def NoticeRow.deliver (messageDigest : Str) (row : NoticeRow) : NoticeRow :=
  { row with deliveredMessageDigest := some messageDigest }

structure Authority where
  cases : List CaseRow
  inbox : List MessageRow
  notices : List NoticeRow
  deriving DecidableEq

namespace Authority

def empty : Authority := ⟨[], [], []⟩

def issued (db : Authority) : List EvidenceCaseResolutionNotice := db.notices.map (·.toEvidenceCaseResolutionNotice)

/-- The primary and unique keys of the schema. -/
@[mk_iff]
structure Keyed (db : Authority) : Prop where
  cases : (db.cases.map (·.caseId)).Nodup
  holds : (db.cases.map fun row => (row.sourceId, row.hold.holdId)).Nodup
  messages : (db.cases.map (·.holdMessageDigest)).Nodup
  resolutions : (db.cases.filterMap fun row => row.resolution.map Prod.snd).Nodup
  sequences : (db.inbox.map fun row => (row.sourceId, row.sequence)).Nodup
  digests : (db.inbox.map fun row => (row.sourceId, row.messageDigest)).Nodup
  operations : (db.inbox.map fun row => (row.caseId, isPlace row.operation)).Nodup
  noticeSequences : (db.notices.map fun row => (row.sourceId, row.noticeSequence)).Nodup
  noticeResolutions : (db.notices.map (·.resolution.resolutionDigest)).Nodup
  noticeCases : (db.notices.map (·.caseId)).Nodup
  delivered : (db.notices.filterMap (·.deliveredMessageDigest)).Nodup

instance (db : Authority) : Decidable db.Keyed := decidable_of_iff _ (keyed_iff db).symm

/-- A transaction that would break a key throws. -/
def commit (next : Authority) : Except Str Authority := do
  require next.Keyed "constraint"
  return next

section
variable (db : Authority)

def caseAt (caseId : Str) : Option CaseRow := db.cases.find? (·.caseId = caseId)

def noticeForCase (caseId : Str) : Option NoticeRow := db.notices.find? (·.caseId = caseId)

def noticeAt (sourceId : Str) (sequence : Int) : Option NoticeRow :=
  db.notices.find? fun row => (row.sourceId, row.noticeSequence) = (sourceId, sequence)

def inboxHead (sourceId : Str) : Option MessageRow :=
  (db.inbox.filter (·.sourceId = sourceId)).argmax (·.sequence)

/-- The transaction of `openReferenceGameEvidenceLineageCase`. -/
def openCase (caseId assetId ancestorId : Str) (hold : PlayerLocalEvidenceHold) (envelope : Envelope) :
    Except Str Authority := do
  require (∀ row ∈ db.cases, ¬(row.sourceId = envelope.sourceId ∧ row.hold.holdId = hold.holdId)) "evidence_hold_conflict"
  let sourceHead := db.inboxHead envelope.sourceId
  require (envelope.sequence = sourceHead.elim (-1) (·.sequence) + 1 ∧
    envelope.previousMessageDigest = sourceHead.elim envelope.previousMessageDigest (·.messageDigest))
    "evidence_source_cursor_mismatch"
  commit { db with
    cases := db.cases ++ [⟨caseId, assetId, ancestorId, envelope.sourceId, hold, envelope.messageDigest, none⟩]
    inbox := db.inbox ++ [⟨envelope, caseId⟩] }

end

def holdResolution (row : CaseRow) (decision : HoldDecision) (resolutionId : Str) : PlayerLocalEvidenceHoldResolution :=
  ⟨row.hold.boundary, row.hold.holdId, row.hold.epoch, row.hold.checkpointDigest, row.hold.referenceDigest, decision,
    resolutionId⟩

def nextNoticeSequence (db : Authority) (sourceId : Str) : Int :=
  ((db.issued.filter (·.sourceId = sourceId)).map (·.noticeSequence)).foldl max (-1) + 1

/-- What a dismissal and a lineage decision do to the case that they resolve. -/
def resolveCase (db : Authority) (admitted : CaseRow → Bool) (unit caseId : Str) (decision : HoldDecision)
    (resolutionId : Str) (acceptedAtMs : Int) : Except Str Authority := do
  let latest ← given (db.caseAt caseId) "evidence_case_raced"
  require (latest.resolution = none ∧ admitted latest) "evidence_case_raced"
  commit { db with
    cases := (updateWhere (CaseRow.isOpen caseId) (CaseRow.decide (decision, resolutionId)) db.cases).1
    notices := db.notices ++ [⟨⟨db.nextNoticeSequence latest.sourceId, unit, caseId, latest.sourceId, acceptedAtMs,
      holdResolution latest decision resolutionId⟩, none⟩] }

def dismissCase (db : Authority) : Str → Str → Str → Int → Except Str Authority :=
  fun unit caseId => db.resolveCase (fun _ => true) unit caseId .dismissed

/-- The part of `decideReferenceGameAssetLineage` that is about the evidence case. -/
def decideCase (db : Authority) (assetId ancestorId unit caseId : Str) : Str → Int → Except Str Authority :=
  db.resolveCase (fun row => row.assetId = assetId && row.ancestorId = ancestorId) unit caseId .upheld

inductive PublishDecision
  | published
  | duplicate
  deriving DecidableEq

/-- What `publishReferenceGameEvidenceCaseResolution` reads and checks before its transaction. -/
def publishable (db : Authority) (caseId : Str) (envelope : Envelope) : Except Str (CaseRow × PublishDecision) := do
  let evidenceCase ← given (db.caseAt caseId) "evidence_case_not_resolved"
  let notice ← given (db.noticeForCase caseId) "evidence_case_not_resolved"
  let (disposition, resolutionId) ← given evidenceCase.resolution "evidence_case_not_resolved"
  require (envelope.sourceId = evidenceCase.sourceId ∧
    envelope.operation = .resolve (holdResolution evidenceCase disposition resolutionId))
    "evidence_resolution_binding_mismatch"
  match notice.deliveredMessageDigest with
  | some delivered => do
    require (delivered = envelope.messageDigest) "evidence_resolution_already_delivered"
    return (evidenceCase, .duplicate)
  | none => do
    let sourceHead ← given (db.inboxHead evidenceCase.sourceId) "evidence_source_cursor_mismatch"
    require (envelope.sequence = sourceHead.sequence + 1 ∧ envelope.previousMessageDigest = sourceHead.messageDigest)
      "evidence_source_cursor_mismatch"
    return (evidenceCase, .published)

/-- Its transaction, with the case that it has read. -/
def publish (db : Authority) (evidenceCase : CaseRow) (envelope : Envelope) :
    Except Str (PublishDecision × Authority) := do
  match (db.noticeForCase evidenceCase.caseId).bind (·.deliveredMessageDigest) with
  | some delivered => do
    require (delivered = envelope.messageDigest) "evidence_resolution_already_delivered"
    return (.duplicate, db)
  | none => do
    let sourceHead ← given (db.inboxHead evidenceCase.sourceId) "evidence_source_cursor_mismatch"
    require (envelope.sequence = sourceHead.sequence + 1 ∧ envelope.previousMessageDigest = sourceHead.messageDigest)
      "evidence_source_cursor_mismatch"
    let updated := updateWhere (NoticeRow.isUndelivered evidenceCase.caseId) (NoticeRow.deliver envelope.messageDigest)
      db.notices
    require (updated.2 = 1) "reference game evidence resolution CAS failed"
    let next ← commit { db with inbox := db.inbox ++ [⟨envelope, evidenceCase.caseId⟩], notices := updated.1 }
    return (.published, next)

end Authority

/-- The authority, with the publish requests that wait between their checks and their transaction. -/
structure System where
  db : Authority
  waiting : List (CaseRow × Envelope)

def decisionValid (unit resolutionId : Str) (acceptedAtMs : Int) : Bool :=
  boundedText unit 256 && boundedText resolutionId 4096 && isNonNegativeInteger acceptedAtMs

/-- One transaction of a request that was verified. A case id is a hash. -/
inductive Step (digest : UnsignedEnvelope → Str) : System → System → Prop
  | opens {next : Authority} (verified : envelope.Verified digest) (proposed : identity envelope.sourceId ∧ isDigest caseId)
      (place : envelope.operation = .place hold)
      (done : db.openCase caseId assetId ancestorId hold envelope = .ok next) : Step digest ⟨db, waiting⟩ ⟨next, waiting⟩
  | dismisses {next : Authority} (valid : decisionValid unit resolutionId acceptedAtMs)
      (done : db.dismissCase unit caseId resolutionId acceptedAtMs = .ok next) : Step digest ⟨db, waiting⟩ ⟨next, waiting⟩
  | decides {next : Authority} (valid : decisionValid unit resolutionId acceptedAtMs)
      (done : db.decideCase assetId ancestorId unit caseId resolutionId acceptedAtMs = .ok next) :
      Step digest ⟨db, waiting⟩ ⟨next, waiting⟩
  | checks (verified : envelope.Verified digest)
      (passed : db.publishable caseId envelope = .ok (evidenceCase, .published)) :
      Step digest ⟨db, waiting⟩ ⟨db, waiting ++ [(evidenceCase, envelope)]⟩
  | publishes {next : Authority} (found : (evidenceCase, envelope) ∈ waiting)
      (done : db.publish evidenceCase envelope = .ok (decision, next)) : Step digest ⟨db, waiting⟩ ⟨next, waiting⟩

abbrev Run (digest : UnsignedEnvelope → Str) : System → System → Prop := Relation.ReflTransGen (Step digest)

abbrev Reachable (digest : UnsignedEnvelope → Str) : System → Prop := Run digest ⟨Authority.empty, []⟩

/-- The messages of every source are numbered from 0, and each names the digest of the one before. -/
def Linked (inbox : List MessageRow) : Prop :=
  ∀ sourceId, ∃ start last, Chain (·.sequence) (·.messageDigest) (·.previousMessageDigest) (-1, start)
    (inbox.filter (·.sourceId = sourceId)) last

def Numbered (notices : List EvidenceCaseResolutionNotice) : Prop :=
  ∀ sourceId, ∃ last, Chain (·.noticeSequence) (fun _ => ()) (fun _ => ()) (-1, ())
    (notices.filter (·.sourceId = sourceId)) (last, ())

/-- The notice was written when the case was resolved. -/
def EvidenceCaseResolutionNotice.Resolves (notice : EvidenceCaseResolutionNotice) (row : CaseRow) : Prop :=
  row.caseId = notice.caseId ∧ row.sourceId = notice.sourceId ∧
    decisionValid notice.unit notice.resolution.resolutionDigest notice.acceptedAtMs ∧
    ∃ decision resolutionId, row.resolution = some (decision, resolutionId) ∧
      notice.resolution = Authority.holdResolution row decision resolutionId

structure Sound (digest : UnsignedEnvelope → Str) (system : System) : Prop where
  keyed : system.db.Keyed
  linked : Linked system.db.inbox
  numbered : Numbered system.db.issued
  placed : (system.db.inbox.filter (isPlace ·.operation)).map (fun message => (message.caseId, message.sourceId)) =
    system.db.cases.map fun row => (row.caseId, row.sourceId)
  valid : ∀ entry ∈ system.db.cases.map fun row => (row.sourceId, row.caseId, row.hold),
    (identity entry.1 ∧ isDigest entry.2.1) ∧ evidenceHoldValid entry.2.2
  verified : ∀ message ∈ system.db.inbox, message.Verified digest
  noticed : ∀ row ∈ system.db.cases, row.resolution.isSome → ∃ notice ∈ system.db.issued, notice.caseId = row.caseId
  decided : ∀ notice ∈ system.db.issued, ∃ row ∈ system.db.cases, notice.Resolves row
  resolved : ∀ caseId digest, (∃ message ∈ system.db.inbox, message.caseId = caseId ∧ isPlace message.operation = false ∧
    message.messageDigest = digest) ↔
      ∃ notice ∈ system.db.notices, notice.caseId = caseId ∧ notice.deliveredMessageDigest = some digest
  waiting : ∀ entry ∈ system.waiting, entry.2.Verified digest ∧ isPlace entry.2.operation = false ∧
    entry.2.sourceId = entry.1.sourceId

theorem Authority.inboxHead_spec {db : Authority}
    (chain : Chain (·.sequence) (·.messageDigest) (·.previousMessageDigest) (-1, start)
      (db.inbox.filter (·.sourceId = sourceId)) last) :
    (db.inboxHead sourceId = none ∧ db.inbox.filter (·.sourceId = sourceId) = []) ∨
      ∃ head, db.inboxHead sourceId = some head ∧ head ∈ db.inbox ∧ head.sourceId = sourceId ∧
        last = (head.sequence, head.messageDigest) := by
  unfold Authority.inboxHead
  cases found : (db.inbox.filter (·.sourceId = sourceId)).argmax (·.sequence) with
  | none => exact .inl ⟨rfl, argmax_eq_none.mp found⟩
  | some head =>
    have member := argmax_mem found
    obtain ⟨stored, own⟩ := mem_filter.mp member
    refine .inr ⟨head, rfl, stored, of_decide_eq_true own, ?_⟩
    rcases chain.last_eq with ⟨nothing, _⟩ | ⟨final, there, same⟩
    · rw [nothing] at member
      cases member
    · have above := le_of_mem_argmax (f := fun row : MessageRow => row.sequence) there found
      have below := (chain.bounds.2 head member).2
      rw [same] at below ⊢
      rw [chain.eq_of_number member there (le_antisymm below above)]

/-- A message that continues the head of its source. -/
theorem Linked.snoc {db : Authority} (linked : Linked db.inbox)
    (next : message.sequence = (db.inboxHead message.sourceId).elim (-1) (·.sequence) + 1)
    (names : message.previousMessageDigest =
      (db.inboxHead message.sourceId).elim message.previousMessageDigest (·.messageDigest)) :
    Linked (db.inbox ++ [message]) := by
  intro sourceId
  obtain ⟨start, last, chain⟩ := linked sourceId
  rw [filter_append, filter_singleton]
  by_cases own : message.sourceId = sourceId
  · subst own
    rw [decide_eq_true rfl]
    rcases Authority.inboxHead_spec chain with ⟨none, empty⟩ | ⟨head, some, _, _, rfl⟩
    · rw [none] at next
      rw [empty]
      exact ⟨message.previousMessageDigest, _, Chain.snoc (.nil _) next rfl⟩
    · rw [some] at next names
      exact ⟨start, _, chain.snoc next names⟩
  · rw [decide_eq_false own]
    exact ⟨start, last, by simpa using chain⟩

theorem Numbered.snoc {db : Authority} (numbered : Numbered db.issued)
    (next : notice.noticeSequence = db.nextNoticeSequence notice.sourceId) : Numbered (db.issued ++ [notice]) := by
  intro sourceId
  obtain ⟨last, chain⟩ := numbered sourceId
  rw [filter_append, filter_singleton]
  by_cases own : notice.sourceId = sourceId
  · subst own
    rw [decide_eq_true rfl]
    rw [Authority.nextNoticeSequence, chain.foldl_max] at next
    exact ⟨_, chain.snoc next rfl⟩
  · rw [decide_eq_false own]
    exact ⟨last, by simpa using chain⟩

variable {next : Authority}

theorem Authority.commit_ok : Authority.commit next = .ok db ↔ next.Keyed ∧ next = db := by
  simp [Authority.commit, bind_ok, pure, Except.pure]

section
variable {waiting : List (CaseRow × Envelope)} (sound : Sound digest ⟨db, waiting⟩)
include sound

theorem Sound.opens (verified : envelope.Verified digest) (proposed : identity envelope.sourceId ∧ isDigest caseId)
    (place : envelope.operation = .place hold) (done : db.openCase caseId assetId ancestorId hold envelope = .ok next) :
    Sound digest ⟨next, waiting⟩ ∧ ∀ row ∈ db.cases, row.resolution.isSome → row ∈ next.cases := by
  obtain ⟨_, _, done⟩ := bind_ok.mp done
  obtain ⟨⟨sequence, previous⟩, done⟩ := require_bind.mp done
  obtain ⟨keyed, rfl⟩ := Authority.commit_ok.mp done
  have kind : isPlace envelope.operation = true := by rw [place]; rfl
  have held : evidenceHoldValid hold := by
    have operation := verified.2.2.2.2.2.2.2
    rw [place] at operation
    exact (Bool.and_eq_true_iff.mp operation).1
  refine ⟨⟨keyed, sound.linked.snoc sequence previous, sound.numbered, ?_, ?_, forall_mem_concat sound.verified verified, ?_,
    fun notice found => ?_, fun id digest => ?_, sound.waiting⟩, fun row member _ => mem_append_left _ member⟩
  · rw [filter_append, filter_singleton, kind, map_append, map_append, sound.placed]
    rfl
  · rw [map_append]
    exact forall_mem_concat sound.valid ⟨proposed, held⟩
  · exact forall_mem_concat sound.noticed nofun
  · obtain ⟨row, member, about⟩ := sound.decided notice found
    exact ⟨row, mem_append_left _ member, about⟩
  · rw [← sound.resolved, exists_mem_concat, or_iff_left]
    exact fun resolve => absurd (kind.symm.trans resolve.2.1) (by decide)

theorem Sound.resolves (valid : decisionValid unit resolutionId acceptedAtMs)
    (done : db.resolveCase admitted unit caseId decision resolutionId acceptedAtMs = .ok next) :
    Sound digest ⟨next, waiting⟩ ∧ ∀ row ∈ db.cases, row.resolution.isSome → row ∈ next.cases := by
  obtain ⟨latest, found, done⟩ := given_bind.mp done
  obtain ⟨⟨opened, _⟩, done⟩ := require_bind.mp done
  obtain ⟨keyed, rfl⟩ := Authority.commit_ok.mp done
  obtain ⟨stored, same⟩ := find_some found
  have kept : ∀ row ∈ db.cases, row.resolution.isSome →
      row ∈ (updateWhere (CaseRow.isOpen caseId) (CaseRow.decide (decision, resolutionId)) db.cases).1 :=
    fun row member decided => mem_updateWhere.mpr (.inl ⟨member, by simp [CaseRow.isOpen, decided]⟩)
  refine ⟨⟨keyed, sound.linked, ?_, ?_, ?_, sound.verified, fun row member decided => ?_, ?_, fun id digest => ?_,
    sound.waiting⟩, kept⟩
  all_goals try rw [Authority.issued, map_append]
  · exact sound.numbered.snoc rfl
  · rw [sound.placed]
    exact (updateWhere_map (by intros; rfl)).symm
  · rw [updateWhere_map (by intros; rfl)]
    exact sound.valid
  · refine exists_mem_concat.mpr ?_
    rcases mem_updateWhere.mp member with ⟨old, _⟩ | ⟨old, _, chosen, rfl⟩
    · exact .inl (sound.noticed row old decided)
    · exact .inr (of_decide_eq_true (Bool.and_eq_true_iff.mp chosen).1).symm
  · refine forall_mem_concat (fun notice found => ?_) ⟨_, mem_updateWhere.mpr (.inr ⟨latest, stored, ?_, rfl⟩), ?_⟩
    · obtain ⟨row, member, about⟩ := sound.decided notice found
      obtain ⟨_, _, _, _, _, decided, _⟩ := id about
      exact ⟨row, kept row member (by rw [decided]; rfl), about⟩
    · simp [CaseRow.isOpen, same, opened]
    · exact ⟨same, rfl, valid, decision, resolutionId, rfl, rfl⟩
  · rw [sound.resolved, exists_mem_concat, or_iff_left]
    exact fun undelivered => absurd undelivered.2 (by simp)

theorem Sound.publishes (found : (evidenceCase, envelope) ∈ waiting)
    (done : db.publish evidenceCase envelope = .ok (decision, next)) :
    Sound digest ⟨next, waiting⟩ ∧ next.cases = db.cases := by
  obtain ⟨verified, resolve, source⟩ := sound.waiting _ found
  unfold Authority.publish at done
  split at done
  · obtain ⟨_, _, done⟩ := bind_ok.mp done
    cases done
    exact ⟨sound, rfl⟩
  · obtain ⟨head, latest, done⟩ := bind_ok.mp done
    obtain ⟨⟨sequence, previous⟩, done⟩ := require_bind.mp done
    obtain ⟨changed, done⟩ := require_bind.mp done
    obtain ⟨_, stored, done⟩ := bind_ok.mp done
    cases done
    obtain ⟨keyed, rfl⟩ := Authority.commit_ok.mp stored
    rw [given_ok, ← source] at latest
    have issued : (updateWhere (NoticeRow.isUndelivered evidenceCase.caseId) (NoticeRow.deliver envelope.messageDigest)
        db.notices).1.map (·.toEvidenceCaseResolutionNotice) = db.issued := updateWhere_map (by intros; rfl)
    refine ⟨⟨keyed, sound.linked.snoc ?_ ?_, ?_, ?_, sound.valid, forall_mem_concat sound.verified verified, ?_, ?_,
      fun id digest => ?_, sound.waiting⟩, rfl⟩
    all_goals try rw [Authority.issued, issued]
    · exact sequence.trans (by rw [latest]; rfl)
    · exact previous.trans (by rw [latest]; rfl)
    · exact sound.numbered
    · rw [filter_append, filter_singleton, resolve, cond_false, append_nil, sound.placed]
    · exact sound.noticed
    · exact sound.decided
    · rw [exists_mem_concat, sound.resolved]
      constructor
      · rintro (⟨notice, member, about, delivered⟩ | ⟨rfl, _, rfl⟩)
        · exact ⟨notice, mem_updateWhere.mpr (.inl ⟨member, by simp [NoticeRow.isUndelivered, delivered]⟩), about, delivered⟩
        · obtain ⟨notice, member, chosen⟩ := countP_pos_iff.mp (Nat.lt_of_lt_of_eq Nat.one_pos changed.symm)
          have about := of_decide_eq_true (Bool.and_eq_true_iff.mp chosen).1
          exact ⟨_, mem_updateWhere.mpr (.inr ⟨notice, member, chosen, rfl⟩), about, rfl⟩
      · rintro ⟨notice, member, about, delivered⟩
        rcases mem_updateWhere.mp member with ⟨old, _⟩ | ⟨old, _, chosen, rfl⟩
        · exact .inl ⟨notice, old, about, delivered⟩
        · refine .inr ⟨?_, resolve, Option.some.inj delivered⟩
          exact (of_decide_eq_true (Bool.and_eq_true_iff.mp chosen).1).symm.trans about

end

theorem publishable_ok {db : Authority} (passed : db.publishable caseId envelope = .ok (evidenceCase, .published)) :
    isPlace envelope.operation = false ∧ envelope.sourceId = evidenceCase.sourceId := by
  obtain ⟨row, _, passed⟩ := bind_ok.mp passed
  obtain ⟨notice, _, passed⟩ := bind_ok.mp passed
  obtain ⟨⟨disposition, resolutionId⟩, _, passed⟩ := bind_ok.mp passed
  obtain ⟨⟨source, operation⟩, passed⟩ := require_bind.mp passed
  have same : row = evidenceCase := by
    split at passed
    · obtain ⟨_, _, passed⟩ := bind_ok.mp passed
      cases passed
    · obtain ⟨_, _, passed⟩ := bind_ok.mp passed
      obtain ⟨_, _, passed⟩ := bind_ok.mp passed
      cases passed
      rfl
  exact ⟨by rw [operation]; rfl, same ▸ source⟩

theorem Sound.step {system next : System} (sound : Sound digest system) (step : Step digest system next) :
    Sound digest next ∧ ∀ row ∈ system.db.cases, row.resolution.isSome → row ∈ next.db.cases := by
  cases step with
  | opens verified proposed place done => exact sound.opens verified proposed place done
  | dismisses valid done => exact sound.resolves valid done
  | decides valid done => exact sound.resolves valid done
  | checks verified passed =>
    have resolve := publishable_ok passed
    exact ⟨{ sound with waiting := forall_mem_concat sound.waiting ⟨verified, resolve⟩ }, fun _ member _ => member⟩
  | publishes found done =>
    obtain ⟨after, same⟩ := sound.publishes found done
    exact ⟨after, fun row member _ => same ▸ member⟩

theorem Sound.run (sound : Sound digest system) (run : Run digest system later) :
    Sound digest later ∧ ∀ row ∈ system.db.cases, row.resolution.isSome → row ∈ later.db.cases := by
  induction run with
  | refl => exact ⟨sound, fun _ member _ => member⟩
  | tail _ step ih =>
    obtain ⟨after, kept⟩ := ih.1.step step
    exact ⟨after, fun row member decided => kept row (ih.2 row member decided) decided⟩

theorem Sound.place_of_case (sound : Sound digest system) (member : row ∈ system.db.cases) :
    ∃ message ∈ system.db.inbox, message.caseId = row.caseId ∧ isPlace message.operation = true ∧
      message.sourceId = row.sourceId := by
  have listed : (row.caseId, row.sourceId) ∈ system.db.cases.map fun row => (row.caseId, row.sourceId) :=
    mem_map_of_mem member
  rw [← sound.placed] at listed
  obtain ⟨message, found, same⟩ := mem_map.mp listed
  obtain ⟨stored, place⟩ := mem_filter.mp found
  obtain ⟨same, source⟩ := Prod.mk.inj same
  exact ⟨message, stored, same, place, source⟩

theorem Reachable.sound (reached : Reachable digest system) : Sound digest system := by
  have empty : Sound digest ⟨.empty, []⟩ := by
    refine ⟨by decide, fun _ => ⟨Str.empty, _, .nil _⟩, fun _ => ⟨-1, .nil _⟩, rfl, ?_, ?_, ?_, ?_, ?_, ?_⟩
    all_goals simp [Authority.empty, Authority.issued]
  exact (empty.run reached).1

namespace Sample

def digest (envelope : UnsignedEnvelope) : Str := envelope.sourceId ++ Str.ofInt envelope.sequence

def boundary (scopeId : Str) : AuditBoundary := ⟨1, "reference-game-checkpoint-v1", "manifest", scopeId, "unit"⟩

def hold (holdId scopeId : Str) : PlayerLocalEvidenceHold :=
  ⟨⟨holdId, 0, "root", .fork, "reference", .active⟩, boundary scopeId⟩

def caseId : Str := ⟨replicate 64 48⟩

def signed (envelope : UnsignedEnvelope) : Envelope := ⟨envelope, digest envelope⟩

def place (sequence : Int) (previous holdId scopeId : Str) : Envelope :=
  signed ⟨"source", holdId, sequence, previous, .place (hold holdId scopeId)⟩

def row (resolution : Option (HoldDecision × Str)) : CaseRow :=
  ⟨caseId, "asset", "origin", "source", hold "hold" "alice", "source0", resolution⟩

def resolution : PlayerLocalEvidenceHoldResolution := Authority.holdResolution (row none) .dismissed "dismissal"

def resolve : Envelope := signed ⟨"source", "hold", 2, "source1", .resolve resolution⟩

def notice (delivered : Option Str) : NoticeRow := ⟨⟨0, "unit", caseId, "source", 7, resolution⟩, delivered⟩

def opened : Authority := ⟨[row none], [⟨place 0 "genesis" "hold" "alice", caseId⟩], []⟩

def dismissed : Authority :=
  { opened with cases := [row (some (.dismissed, "dismissal"))], notices := [notice none] }

def second : CaseRow := ⟨⟨replicate 64 49⟩, "asset", "origin", "source", hold "second" "bob", "source1", none⟩

/-- After the dismissal the source opens a case of another owner. -/
def reopened : Authority :=
  { dismissed with
    cases := dismissed.cases ++ [second], inbox := dismissed.inbox ++ [⟨place 1 "source0" "second" "bob", second.caseId⟩] }

def published : Authority :=
  { reopened with inbox := reopened.inbox ++ [⟨resolve, caseId⟩], notices := [notice (some "source2")] }

theorem reached_dismissed : Reachable digest ⟨dismissed, []⟩ := by
  have opens : Authority.empty.openCase caseId "asset" "origin" (hold "hold" "alice") (place 0 "genesis" "hold" "alice") =
      .ok opened := by decide +kernel
  have dismisses : opened.dismissCase "unit" caseId "dismissal" 7 = .ok dismissed := by decide +kernel
  exact .tail (.single (.opens (by decide) (by decide) rfl opens)) (.dismisses (by decide) dismisses)

theorem reached_reopened : Reachable digest ⟨reopened, []⟩ := by
  have opens : dismissed.openCase second.caseId "asset" "origin" (hold "second" "bob")
      (place 1 "source0" "second" "bob") = .ok reopened := by decide +kernel
  exact .tail reached_dismissed (.opens (by decide) (by decide) rfl opens)

theorem reached_published : Reachable digest ⟨published, [(row (some (.dismissed, "dismissal")), resolve)]⟩ := by
  have passed : reopened.publishable caseId resolve = .ok (row (some (.dismissed, "dismissal")), .published) := by
    decide +kernel
  have publishes : reopened.publish (row (some (.dismissed, "dismissal"))) resolve = .ok (.published, published) := by
    decide +kernel
  exact .tail (.tail reached_reopened (.checks (by decide) passed)) (.publishes (mem_singleton_self _) publishes)

end Sample

/-- Messages and notices are numbered without gaps; a case has one place message, a notice exactly if it is decided, which is
for good, and a resolve message exactly if that notice is delivered. -/
theorem evidence_case_lifecycle (reached : Reachable digest system) :
    Linked system.db.inbox ∧ Numbered system.db.issued ∧
      (∀ row ∈ system.db.cases,
        (∃! message, message ∈ system.db.inbox ∧ message.caseId = row.caseId ∧ isPlace message.operation = true) ∧
        (row.resolution.isSome → ∃! notice, notice ∈ system.db.notices ∧ notice.caseId = row.caseId) ∧
        (row.resolution = none → ∀ notice ∈ system.db.notices, notice.caseId ≠ row.caseId) ∧
        (row.resolution.isSome → ∀ later, Run digest system later → row ∈ later.db.cases)) ∧
      (∀ message ∈ system.db.inbox, ∀ other ∈ system.db.inbox, message.caseId = other.caseId →
        isPlace message.operation = isPlace other.operation → message = other) ∧
      ∀ caseId digest, (∃ message ∈ system.db.inbox, message.caseId = caseId ∧ isPlace message.operation = false ∧
        message.messageDigest = digest) ↔
          ∃ notice ∈ system.db.notices, notice.caseId = caseId ∧ notice.deliveredMessageDigest = some digest := by
  have sound := reached.sound
  have single : ∀ message ∈ system.db.inbox, ∀ other ∈ system.db.inbox, message.caseId = other.caseId →
      isPlace message.operation = isPlace other.operation → message = other := fun message here other there same kind =>
    inj_on_of_nodup_map sound.keyed.operations here there (Prod.ext same kind)
  refine ⟨sound.linked, sound.numbered, fun row member =>
    ⟨?_, fun decided => ?_, ?_, fun decided later run => ?_⟩, single, sound.resolved⟩
  · obtain ⟨message, stored, same, place, _⟩ := sound.place_of_case member
    refine ⟨message, ⟨stored, same, place⟩, fun other present => ?_⟩
    exact single _ present.1 _ stored (present.2.1.trans same.symm) (present.2.2.trans place.symm)
  · obtain ⟨_, issued, about⟩ := sound.noticed row member decided
    obtain ⟨notice, found, rfl⟩ := mem_map.mp issued
    refine ⟨notice, ⟨found, about⟩, fun other present => ?_⟩
    exact inj_on_of_nodup_map sound.keyed.noticeCases present.1 found (present.2.trans about.symm)
  · intro undecided notice found about
    obtain ⟨other, present, same, _, _, _, _, decided, _⟩ := sound.decided _ (mem_map_of_mem found)
    rw [inj_on_of_nodup_map sound.keyed.cases present member (same.trans about), undecided] at decided
    cases decided
  · exact (sound.run run).2 row member decided

/-- The first case is delivered, the second is open. -/
theorem evidence_case_lifecycle_published : Linked Sample.published.inbox ∧ Numbered Sample.published.issued ∧
    (∃! notice, notice ∈ Sample.published.notices ∧ notice.caseId = Sample.caseId) ∧
    (∃! message, message ∈ Sample.published.inbox ∧ message.caseId = Sample.second.caseId ∧
      isPlace message.operation = true) ∧
    (∀ notice ∈ Sample.published.notices, notice.caseId ≠ Sample.second.caseId) ∧
    ∃ message ∈ Sample.published.inbox, message.caseId = Sample.caseId ∧ isPlace message.operation = false ∧
      message.messageDigest = "source2" := by
  obtain ⟨linked, numbered, cases, _, delivered⟩ := evidence_case_lifecycle Sample.reached_published
  have second := cases Sample.second (.tail _ (.head _))
  exact ⟨linked, numbered, (cases _ (.head _)).2.1 rfl, second.1, second.2.2.1 rfl,
    (delivered _ _).mpr ⟨_, .head _, rfl, rfl⟩⟩

end ConvergeAudit.Evidence
