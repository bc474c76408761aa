import ConvergeAudit.Evidence.Cases

/-!
The page that `pollReferenceGameEvidenceCaseResolutions` serves, and the decoder of `evidence-case-resolution-relay.ts`.
-/

namespace ConvergeAudit.Evidence
open Moon Js Lib Lib.Fallible Lib.Table Lib.NumberedChain PlayerStore List

structure EvidenceCaseResolutionPollCursor where
  sourceId : Str
  sequence : Int
  resolutionId : Str
  deriving DecidableEq

structure EvidenceCaseResolutionPollPage where
  /-- The fields `source_id`, `after_sequence` and `after_resolution_id`. -/
  after : EvidenceCaseResolutionPollCursor
  sourceCursor : PlayerLocalEvidenceInboxCursor
  notices : List EvidenceCaseResolutionNotice
  deriving DecidableEq

def pollCursorValid (cursor : EvidenceCaseResolutionPollCursor) : Bool :=
  identity cursor.sourceId && isSafeInteger cursor.sequence && decide (-1 ≤ cursor.sequence) &&
  boundedText cursor.resolutionId 4096

def Authority.resolutionAt (db : Authority) (sourceId : Str) (sequence : Int) : Option Str :=
  if sequence = -1 then some "resolution-genesis"
  else (db.noticeAt sourceId sequence).map (·.resolution.resolutionDigest)

def Authority.pollCaseResolutions (db : Authority) (cursor : EvidenceCaseResolutionPollCursor) :
    Except Str EvidenceCaseResolutionPollPage := do
  require (db.resolutionAt cursor.sourceId cursor.sequence = some cursor.resolutionId) "evidence_resolution_cursor_mismatch"
  let sourceHead ← given (db.inboxHead cursor.sourceId) "evidence_source_cursor_not_found"
  let sourceCase ← given (db.caseAt sourceHead.caseId) "evidence_source_cursor_inconsistent"
  return ⟨cursor, ⟨⟨cursor.sourceId, sourceHead.sequence, sourceHead.messageDigest⟩, sourceCase.hold.boundary⟩,
    (db.noticeAt cursor.sourceId (cursor.sequence + 1)).toList.map (·.toEvidenceCaseResolutionNotice)⟩

def evidenceCaseResolutionNoticeValid (notice : EvidenceCaseResolutionNotice) : Bool :=
  isNonNegativeInteger notice.noticeSequence && boundedText notice.unit 256 && isDigest notice.caseId &&
  identity notice.sourceId && isNonNegativeInteger notice.acceptedAtMs && evidenceHoldResolutionValid notice.resolution

def decodeEvidenceCaseResolutionPollPage (page : EvidenceCaseResolutionPollPage)
    (expectedCursor : EvidenceCaseResolutionPollCursor) (maxNotices : Int) :
    Except Str EvidenceCaseResolutionPollPage := do
  require (pollCursorValid page.after ∧ 1 ≤ maxNotices ∧ maxNotices ≤ 128) "invalid_page"
  require (page.notices.length ≤ maxNotices) "page_limit_exceeded"
  require (page.after = expectedCursor) "invalid_page"
  require (boundaryValid page.sourceCursor.boundary ∧ page.sourceCursor.sourceId = page.after.sourceId ∧
    isSafeInteger page.sourceCursor.sequence ∧ -1 ≤ page.sourceCursor.sequence ∧
    boundedText page.sourceCursor.messageDigest 4096) "invalid_page"
  require (∀ entry ∈ page.notices.zipIdx, evidenceCaseResolutionNoticeValid entry.1 ∧
    entry.1.sourceId = page.after.sourceId ∧ entry.1.noticeSequence = expectedCursor.sequence + entry.2 + 1 ∧
    samePlayerLocalBoundary page.sourceCursor.boundary entry.1.resolution.boundary) "invalid_page"
  return page

/-- The case that the latest message of a source is about. -/
def Authority.IsLatestCase (db : Authority) (sourceId : Str) (row : CaseRow) : Prop :=
  row ∈ db.cases ∧ ∃ message ∈ db.inbox, message.caseId = row.caseId ∧ message.sourceId = sourceId ∧
    ∀ other ∈ db.inbox, other.sourceId = sourceId → other.sequence ≤ message.sequence

section
variable (sound : Sound digest system)
include sound

theorem Sound.case_of_message (member : message ∈ system.db.inbox) : ∃ row ∈ system.db.cases, row.caseId = message.caseId := by
  cases kind : isPlace message.operation with
  | true =>
    have listed : (message.caseId, message.sourceId) ∈ (system.db.inbox.filter (isPlace ·.operation)).map
        fun message => (message.caseId, message.sourceId) := mem_map_of_mem (mem_filter.mpr ⟨member, kind⟩)
    rw [sound.placed] at listed
    obtain ⟨row, stored, same⟩ := mem_map.mp listed
    exact ⟨row, stored, (Prod.mk.inj same).1⟩
  | false =>
    obtain ⟨notice, found, about, _⟩ := (sound.resolved _ _).mp ⟨message, member, rfl, kind, rfl⟩
    obtain ⟨row, stored, same, _⟩ := sound.decided _ (mem_map_of_mem found)
    exact ⟨row, stored, same.trans about⟩

section
variable (found : notice ∈ system.db.notices)
include found

/-- A source has no more notices than messages, and those are numbered with safe integers. -/
theorem Sound.noticeSequence_safe :
    isNonNegativeInteger notice.noticeSequence = true := by
  obtain ⟨_, notices⟩ := sound.numbered notice.sourceId
  obtain ⟨_, _, messages⟩ := sound.linked notice.sourceId
  have own : notice.toEvidenceCaseResolutionNotice ∈ system.db.issued.filter (·.sourceId = notice.sourceId) :=
    mem_filter.mpr ⟨mem_map_of_mem found, decide_eq_true rfl⟩
  have distinct : ((system.db.issued.filter (·.sourceId = notice.sourceId)).map (·.caseId)).Nodup := by
    refine Nodup.sublist (filter_sublist.map _) ?_
    rw [Authority.issued, map_map]
    exact sound.keyed.noticeCases
  have within : (system.db.issued.filter (·.sourceId = notice.sourceId)).map (·.caseId) ⊆
      (system.db.inbox.filter (·.sourceId = notice.sourceId)).map (·.caseId) := by
    intro caseId listed
    obtain ⟨other, present, rfl⟩ := mem_map.mp listed
    obtain ⟨issued, same⟩ := mem_filter.mp present
    obtain ⟨row, member, about, source, _⟩ := sound.decided other issued
    obtain ⟨message, stored, placed, _, owner⟩ := sound.place_of_case member
    have owner := owner.trans (source.trans (of_decide_eq_true same))
    exact mem_map.mpr ⟨message, mem_filter.mpr ⟨stored, decide_eq_true owner⟩, placed.trans about⟩
  have shorter := (subperm_of_subset distinct within).length_le
  have count := notices.last_number
  have total := messages.last_number
  have bounds := notices.bounds.2 _ own
  rw [length_map, length_map] at shorter
  rw [isNonNegativeInteger_iff]
  rcases messages.last_eq with ⟨none, _⟩ | ⟨message, stored, rfl⟩
  · rw [none] at shorter
    exact absurd (length_pos_of_mem own) (Nat.not_lt.mpr shorter)
  · have safe := isNonNegativeInteger_iff.mp (sound.verified message (mem_filter.mp stored).1).2.2.2.1
    omega

theorem Sound.notice_valid :
    evidenceCaseResolutionNoticeValid notice.toEvidenceCaseResolutionNotice = true := by
  have safe := sound.noticeSequence_safe found
  obtain ⟨row, member, same, source, decision, _, _, _, resolution⟩ := sound.decided _ (mem_map_of_mem found)
  obtain ⟨⟨named, hashed⟩, held⟩ := sound.valid _ (mem_map_of_mem member)
  rw [resolution] at decision
  simp only [decisionValid, evidenceHoldValid, Bool.and_eq_true] at decision held
  simp only [evidenceCaseResolutionNoticeValid, evidenceHoldResolutionValid, resolution, Bool.and_eq_true]
  exact ⟨⟨⟨⟨⟨safe, decision.1.1⟩, same ▸ hashed⟩, source ▸ named⟩, decision.2⟩, held.1, decision.1.2⟩

/-- The page that is served for a cursor of the source. -/
theorem Sound.served :
    ∃ cursor page, pollCursorValid cursor ∧ system.db.pollCaseResolutions cursor = .ok page ∧
      page.notices = [notice.toEvidenceCaseResolutionNotice] := by
  obtain ⟨row, member, _, source, _⟩ := sound.decided _ (mem_map_of_mem found)
  obtain ⟨message, stored, _, _, owner⟩ := sound.place_of_case member
  obtain ⟨_, _, messages⟩ := sound.linked notice.sourceId
  have own : message ∈ system.db.inbox.filter (·.sourceId = notice.sourceId) :=
    mem_filter.mpr ⟨stored, decide_eq_true (owner.trans source)⟩
  rcases Authority.inboxHead_spec messages with ⟨_, none⟩ | ⟨head, latest, present, _⟩
  · rw [none] at own
    cases own
  obtain ⟨sourceCase, kept, same⟩ := sound.case_of_message present
  have case := find_of_nodup sound.keyed.cases kept
  rw [same] at case
  have safe := isNonNegativeInteger_iff.mp (sound.noticeSequence_safe found)
  obtain ⟨resolutionId, named, bounded⟩ : ∃ resolutionId,
      system.db.resolutionAt notice.sourceId (notice.noticeSequence - 1) = some resolutionId ∧
        boundedText resolutionId 4096 := by
    unfold Authority.resolutionAt
    split
    · exact ⟨_, rfl, by decide⟩
    · obtain ⟨last, notices⟩ := sound.numbered notice.sourceId
      have within := (notices.bounds.2 _ (mem_filter.mpr ⟨mem_map_of_mem found, decide_eq_true rfl⟩)).2
      obtain ⟨_, listed, number⟩ :=
        notices.reaches (n := notice.noticeSequence - 1) (by simp only; omega) (by simp only at *; omega)
      obtain ⟨issued, own⟩ := mem_filter.mp listed
      obtain ⟨previous, before, rfl⟩ := mem_map.mp issued
      obtain ⟨_, _, _, _, decision, _⟩ := sound.decided _ issued
      have there := find_of_nodup sound.keyed.noticeSequences before
      rw [number, of_decide_eq_true own] at there
      refine ⟨_, congrArg (Option.map _) there, ?_⟩
      exact (Bool.and_eq_true_iff.mp (Bool.and_eq_true_iff.mp decision).1).2
  refine ⟨⟨notice.sourceId, notice.noticeSequence - 1, resolutionId⟩, _, ?_, require_bind.mpr ⟨named,
    given_bind.mpr ⟨head, latest, given_bind.mpr ⟨sourceCase, case, rfl⟩⟩⟩, ?_⟩
  · have valid := sound.notice_valid found
    simp only [evidenceCaseResolutionNoticeValid, Bool.and_eq_true] at valid
    simp only [pollCursorValid, Bool.and_eq_true, isSafeInteger_iff, decide_eq_true_iff]
    exact ⟨⟨⟨valid.1.1.2, by unfold maxSafeInteger at *; omega⟩, by omega⟩, bounded⟩
  · have there := find_of_nodup sound.keyed.noticeSequences found
    simp only [Authority.noticeAt, Int.sub_add_cancel, there]
    rfl

end

theorem Sound.isLatestCase_iff {head : MessageRow} (latest : system.db.inboxHead sourceId = some head)
    (case : system.db.caseAt head.caseId = some row) : system.db.IsLatestCase sourceId other ↔ other = row := by
  obtain ⟨stored, own⟩ := mem_filter.mp (argmax_mem latest)
  obtain ⟨member, same⟩ := find_some case
  have above : ∀ message ∈ system.db.inbox, message.sourceId = sourceId → message.sequence ≤ head.sequence :=
    fun message inInbox sent => le_of_mem_argmax (f := fun row : MessageRow => row.sequence)
      (mem_filter.mpr ⟨inInbox, decide_eq_true sent⟩) latest
  constructor
  · rintro ⟨listed, message, inInbox, about, sent, most⟩
    have number := le_antisymm (above message inInbox sent) (most head stored (of_decide_eq_true own))
    obtain rfl := inj_on_of_nodup_map sound.keyed.sequences inInbox stored
      (Prod.ext (sent.trans (of_decide_eq_true own).symm) number)
    exact inj_on_of_nodup_map sound.keyed.cases listed member (about.symm.trans same.symm)
  · rintro rfl
    exact ⟨member, head, stored, same.symm, of_decide_eq_true own, above⟩

theorem Sound.boundary_of_case (found : notice ∈ system.db.notices) (member : row ∈ system.db.cases)
    (about : row.caseId = notice.caseId) : notice.resolution.boundary = row.hold.boundary := by
  obtain ⟨other, listed, same, _, _, _, _, _, resolution⟩ := sound.decided _ (mem_map_of_mem found)
  obtain rfl := inj_on_of_nodup_map sound.keyed.cases listed member (same.trans about.symm)
  exact congrArg (·.boundary) resolution

end

/-- The page for a cursor is readable exactly if the case of the notice that follows the cursor has the boundary of the
source's latest case, and every notice is on a page that the authority serves. -/
theorem served_page_readable_iff (reached : Reachable digest system) :
    (∀ cursor page, pollCursorValid cursor → system.db.pollCaseResolutions cursor = .ok page →
      (decodeEvidenceCaseResolutionPollPage page cursor 1 = .ok page ↔
        ∀ notice ∈ system.db.notices, notice.sourceId = cursor.sourceId → notice.noticeSequence = cursor.sequence + 1 →
          ∀ row ∈ system.db.cases, row.caseId = notice.caseId → ∀ latest, system.db.IsLatestCase cursor.sourceId latest →
            row.hold.boundary = latest.hold.boundary)) ∧
    ∀ notice ∈ system.db.notices, ∃ cursor page, pollCursorValid cursor ∧
      system.db.pollCaseResolutions cursor = .ok page ∧ page.notices = [notice.toEvidenceCaseResolutionNotice] := by
  have sound := reached.sound
  refine ⟨fun cursor page valid served => ?_, fun notice found => ?_⟩
  · unfold Authority.pollCaseResolutions at served
    obtain ⟨_, _, served⟩ := bind_ok.mp served
    obtain ⟨head, latest, served⟩ := given_bind.mp served
    obtain ⟨row, case, served⟩ := given_bind.mp served
    cases served
    have held := (sound.valid _ (mem_map_of_mem (find_some case).1)).2
    have message := sound.verified head (mem_filter.mp (argmax_mem latest)).1
    have sequence := isNonNegativeInteger_iff.mp message.2.2.2.1
    have safe : (-maxSafeInteger ≤ head.sequence ∧ head.sequence ≤ maxSafeInteger) ∧ -1 ≤ head.sequence := by
      omega
    simp only [evidenceHoldValid, Bool.and_eq_true] at held
    simp only [sound.isLatestCase_iff latest case, decodeEvidenceCaseResolutionPollPage, bind_ok, require_ok, pure,
      Except.pure, exists_const, and_true, isSafeInteger_iff, samePlayerLocalBoundary_iff]
    cases next : system.db.noticeAt cursor.sourceId (cursor.sequence + 1) with
    | none =>
      have nothing := find_none next
      simp only [Prod.mk.injEq, not_and] at nothing
      simp +contextual [valid, held.1.1.1.1.1, safe, message.2.2.2.2.2.1, nothing]
    | some notice =>
      obtain ⟨found, place⟩ := find_some next
      obtain ⟨source, number⟩ := Prod.mk.inj place
      obtain ⟨own, decided, about, _⟩ := sound.decided _ (mem_map_of_mem found)
      have boundary := sound.boundary_of_case found decided about
      refine Iff.trans (b := row.hold.boundary = notice.resolution.boundary) ?_ ⟨?_, fun agree => ?_⟩
      · simp [valid, held.1.1.1.1.1, safe, message.2.2.2.2.2.1, sound.notice_valid found, source, number]
      · rintro readable other listed sent follows case member same _ rfl
        obtain rfl := inj_on_of_nodup_map sound.keyed.noticeSequences listed found
          (Prod.ext (sent.trans source.symm) (follows.trans number.symm))
        exact (sound.boundary_of_case listed member same).symm.trans readable.symm
      · exact (agree notice found source number own decided about row rfl).symm.trans boundary.symm
  · exact sound.served found

theorem served_page_readable_iff_dismissed :
    let cursor := ⟨"source", -1, "resolution-genesis"⟩
    (∃ page, Sample.dismissed.pollCaseResolutions cursor = .ok page ∧
      decodeEvidenceCaseResolutionPollPage page cursor 1 = .ok page) ∧
    ∃ cursor page, pollCursorValid cursor ∧ Sample.dismissed.pollCaseResolutions cursor = .ok page ∧
      page.notices = [(Sample.notice none).toEvidenceCaseResolutionNotice] := by
  obtain ⟨readable, served⟩ := served_page_readable_iff Sample.reached_dismissed
  refine ⟨⟨_, rfl, (readable _ _ (by decide) rfl).mpr ?_⟩, served _ (mem_singleton_self _)⟩
  rintro notice _ _ _ row member _ latest ⟨listed, _⟩
  rw [mem_singleton.mp member, mem_singleton.mp listed]

theorem served_page_unreadable : Reachable Sample.digest ⟨Sample.reopened, []⟩ ∧
    ∃ cursor page, pollCursorValid cursor ∧ Sample.reopened.pollCaseResolutions cursor = .ok page ∧
      page.notices = [(Sample.notice none).toEvidenceCaseResolutionNotice] ∧
      decodeEvidenceCaseResolutionPollPage page cursor 1 = .error "invalid_page" :=
  ⟨Sample.reached_reopened, ⟨"source", -1, "resolution-genesis"⟩, _, by decide, rfl, rfl, by decide +kernel⟩

end ConvergeAudit.Evidence
