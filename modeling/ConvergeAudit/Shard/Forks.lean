import ConvergeAudit.Audit.Head
import ConvergeAudit.Moon.Fields
import ConvergeAudit.Lib.Table
import Mathlib.Data.List.Induction

/-!
`GameAuditShard` of `cf-game-audit/src/index.ts`: a verified anchor advances the head of the shard or is recorded as a
fork with a replay job.
-/

namespace ConvergeAudit.Shard

open Moon Audit Lib Lib.Table List

inductive AuditMode where
  | pve
  | pvp
  | openWorld
  deriving DecidableEq

def AuditMode.text : AuditMode → Str
  | .pve => "pve"
  | .pvp => "pvp"
  | .openWorld => "open"

inductive ReplayReason where
  | fork
  | sample
  | challenge
  | highValue
  | dispute
  | marketplace
  deriving DecidableEq

def ReplayReason.text : ReplayReason → Str
  | .fork => "fork"
  | .sample => "sample"
  | .challenge => "challenge"
  | .highValue => "high_value"
  | .dispute => "dispute"
  | .marketplace => "marketplace"

structure AuditConfigRow where
  mode : AuditMode
  unitKey : Str
  sessionId : Str
  authorityKey : Str
  initialEpoch : ℤ
  initialPreviousDigest : Str

structure HeadRow where
  epoch : ℤ
  digest : Str
  previousDigest : Str
  observerId : Str
  anchorRoot : Str
  anchorSize : ℤ

structure HistoryRow extends HeadRow where
  envelopeHex : Str
  envelopeBytes : ℤ

structure VerifiedAnchor extends HeadRow where
  sessionId : Str
  publisherKey : Str
  envelopeBytes : ℤ

inductive ForkKind where
  | sameEpoch
  | wrongParent
  deriving DecidableEq

structure ForkRow where
  kind : ForkKind
  acceptedEpoch : ℤ
  acceptedDigest : Str
  observedEpoch : ℤ
  conflictingDigest : Str
  conflictingPreviousDigest : Str
  deriving DecidableEq

/-- `UNIQUE(kind, observed_epoch, conflicting_digest)`. -/
def ForkRow.key (fork : ForkRow) : ForkKind × ℤ × Str := (fork.kind, fork.observedEpoch, fork.conflictingDigest)

structure ReplayOutboxRow where
  idempotencyKey : Str
  reason : ReplayReason
  epoch : ℤ
  digest : Str
  checkpointDigest : Option Str
  deriving DecidableEq

structure ReplayJob extends ReplayOutboxRow where
  mode : AuditMode
  unit : Str

structure GameAuditShard where
  config : AuditConfigRow
  head : Option HeadRow
  history : List HistoryRow
  forks : List ForkRow
  outbox : List ReplayOutboxRow

def replayIdempotencyKey (mode : AuditMode) (unit : Str) (reason : ReplayReason) (epoch : ℤ) (digest : Str)
    (checkpointDigest : Option Str) : Str :=
  let base := "replay-v1:" ++ mode.text ++ ":" ++ unit ++ ":" ++ reason.text ++ ":" ++
    (Str.ofInt epoch ++ (lit ":" ++ digest))
  checkpointDigest.elim base fun checkpoint => base ++ ":" ++ checkpoint

def forkOutboxRow (config : AuditConfigRow) (epoch : ℤ) (digest : Str) : ReplayOutboxRow :=
  ⟨replayIdempotencyKey config.mode config.unitKey .fork epoch digest none, .fork, epoch, digest, none⟩

inductive CommitDecision where
  | boundaryRejected
  | initialized
  | classified (decision : CheckpointHeadDecision)

structure CommitResult where
  decision : CommitDecision
  epoch : ℤ
  digest : Str
  replayKey : Option Str

namespace GameAuditShard

variable (self : GameAuditShard)

def historyAt (epoch : ℤ) : Option HistoryRow := self.history.find? fun row => row.epoch = epoch

def replayOutboxAt (key : Str) : Option ReplayOutboxRow := self.outbox.find? fun row => row.idempotencyKey = key

def insertHistoryAndHead (verified : VerifiedAnchor) (envelopeHex : Str) : GameAuditShard :=
  { self with
    head := some verified.toHeadRow
    history := self.history ++ [⟨verified.toHeadRow, envelopeHex, verified.envelopeBytes⟩] }

/-- The evidence of a fork and its replay job, each written unless its key is taken. -/
def recordFork (fork : ForkRow) : Option Str × GameAuditShard :=
  let row := forkOutboxRow self.config fork.observedEpoch fork.conflictingDigest
  (if (self.replayOutboxAt row.idempotencyKey).isSome then none else some row.idempotencyKey,
    { self with
      forks := insertOrIgnore ForkRow.key self.forks fork
      outbox := insertOrIgnore ReplayOutboxRow.idempotencyKey self.outbox row })

def commitVerifiedAnchor (verified : VerifiedAnchor) (envelopeHex : Str) : CommitResult × GameAuditShard :=
  let known := self.historyAt verified.epoch
  let result (decision : CommitDecision) (key : Option Str) : CommitResult := ⟨decision, verified.epoch, verified.digest, key⟩
  match self.head with
  | none =>
    if verified.epoch ≠ self.config.initialEpoch ∨ verified.previousDigest ≠ self.config.initialPreviousDigest then
      (result .boundaryRejected none, self)
    else (result .initialized none, self.insertHistoryAndHead verified envelopeHex)
  | some head =>
    let decision := classifyCheckpointHead
      (verified.sessionId = self.config.sessionId ∧ verified.publisherKey = self.config.authorityKey)
      known.isSome (known.map (·.digest) = some verified.digest) head.epoch verified.epoch
      (verified.previousDigest = head.digest)
    match decision with
    | .advance => (result (.classified decision) none, self.insertHistoryAndHead verified envelopeHex)
    | .sameEpochFork =>
      let (key, next) := self.recordFork ⟨.sameEpoch, verified.epoch, (known.map (·.digest)).getD head.digest,
        verified.epoch, verified.digest, verified.previousDigest⟩
      (result (.classified decision) key, next)
    | .parentFork =>
      let (key, next) := self.recordFork ⟨.wrongParent, head.epoch, head.digest,
        verified.epoch, verified.digest, verified.previousDigest⟩
      (result (.classified decision) key, next)
    | _ => (result (.classified decision) none, self)

/-- The job that `dispatchReplayJob` sends for a row. -/
def jobOf (row : ReplayOutboxRow) : ReplayJob := ⟨row, self.config.mode, self.config.unitKey⟩

def evidenceCount (epoch : ℤ) (digest : Str) : Nat :=
  self.forks.countP fun fork => fork.observedEpoch = epoch ∧ fork.conflictingDigest = digest

def replayJobMatchesStoredEvidence (job : ReplayJob) (row : ReplayOutboxRow) : Bool :=
  decide (self.config.mode = job.mode ∧ self.config.unitKey = job.unit ∧ row = job.toReplayOutboxRow) &&
    if job.reason = .fork then self.evidenceCount job.epoch job.digest == 1
    else (self.historyAt job.epoch).map (·.digest) == some job.digest

/-- The replay job of a recorded fork is found under its key and matches the evidence. -/
def replayable (fork : ForkRow) : Bool :=
  (self.replayOutboxAt (forkOutboxRow self.config fork.observedEpoch fork.conflictingDigest).idempotencyKey).any fun row =>
    self.replayJobMatchesStoredEvidence (self.jobOf row) row

end GameAuditShard

section
variable (config : AuditConfigRow) (anchors : List (VerifiedAnchor × Str))

/-- The shard after a sequence of verified anchors with their envelopes. -/
def commitAll : GameAuditShard :=
  anchors.foldl (fun shard anchor => (shard.commitVerifiedAnchor anchor.1 anchor.2).2) ⟨config, none, [], [], []⟩

/-- The anchor continues the accepted chain, which has its latest anchor first. -/
def continues (chain : List HeadRow) (anchor : VerifiedAnchor) : Bool :=
  match chain with
  | [] => anchor.epoch = config.initialEpoch ∧ anchor.previousDigest = config.initialPreviousDigest
  | head :: _ => anchor.sessionId = config.sessionId ∧ anchor.publisherKey = config.authorityKey ∧
      anchor.epoch = head.epoch + 1 ∧ anchor.previousDigest = head.digest

/-- The chain that a sequence of submitted anchors builds. -/
def accepted : List HeadRow :=
  anchors.foldl (fun chain anchor => if continues config chain anchor.1 then anchor.1.toHeadRow :: chain else chain) []

/-- An anchor of the publisher is not the accepted one of its epoch, or does not name the anchor that it would follow. -/
def Conflicts (chain : List HeadRow) (anchor : VerifiedAnchor) (kind : ForkKind) : Prop :=
  anchor.sessionId = config.sessionId ∧ anchor.publisherKey = config.authorityKey ∧
    match kind with
    | .sameEpoch => ∃ row ∈ chain, row.epoch = anchor.epoch ∧ row.digest ≠ anchor.digest
    | .wrongParent => ∃ head ∈ chain.head?, anchor.epoch = head.epoch + 1 ∧ anchor.previousDigest ≠ head.digest

/-- An anchor of the epoch and the digest was submitted when it conflicted with the chain. -/
def Submitted (key : ForkKind × ℤ × Str) : Prop :=
  ∃ before anchor, before ++ [anchor] <+: anchors ∧ key.2 = (anchor.1.epoch, anchor.1.digest) ∧
    Conflicts config (accepted config before) anchor.1 key.1

end

theorem submitted_concat : Submitted config (anchors ++ [anchor]) key ↔ Submitted config anchors key ∨
    key.2 = (anchor.1.epoch, anchor.1.digest) ∧ Conflicts config (accepted config anchors) anchor.1 key.1 := by
  simp only [Submitted, prefix_concat_iff, or_and_right, exists_or]
  rw [or_comm]
  refine or_congr_right ⟨?_, fun new => ⟨anchors, anchor, rfl, new⟩⟩
  rintro ⟨before, last, same, new⟩
  obtain ⟨rfl, rfl⟩ := append_singleton_inj.mp same
  exact new

theorem forkOutboxRow_key_inj
    (same : (forkOutboxRow config epoch digest).idempotencyKey = (forkOutboxRow config epoch' digest').idempotencyKey) :
    epoch = epoch' ∧ digest = digest' :=
  ofInt_append_inj (Str.append_left_cancel same)

/-- The history is the accepted chain, every fork was submitted as one and has its replay job, and every job is the job of
one digest. -/
structure Recorded (config : AuditConfigRow) (anchors : List (VerifiedAnchor × Str)) (shard : GameAuditShard) :
    Prop where
  own : shard.config = config
  head : shard.head = (accepted config anchors).head?
  history : ∀ row, row ∈ accepted config anchors ↔ ∃ stored ∈ shard.history, stored.toHeadRow = row
  epochs : ((accepted config anchors).map (·.epoch)).Nodup
  latest : ∀ head ∈ (accepted config anchors).head?, ∀ row ∈ accepted config anchors, row.epoch ≤ head.epoch
  forks : ∀ key, key ∈ shard.forks.map ForkRow.key ↔ Submitted config anchors key
  distinct : (shard.forks.map ForkRow.key).Nodup
  sent : ∀ fork ∈ shard.forks, forkOutboxRow config fork.observedEpoch fork.conflictingDigest ∈ shard.outbox
  jobs : ∀ row ∈ shard.outbox, row = forkOutboxRow config row.epoch row.digest

theorem accepted_concat : accepted config (anchors ++ [anchor]) =
    if continues config (accepted config anchors) anchor.1 then anchor.1.toHeadRow :: accepted config anchors
    else accepted config anchors := by
  rw [accepted, foldl_concat, ← accepted]

section
variable (recorded : Recorded config anchors shard) (anchor : VerifiedAnchor × Str)
include recorded

theorem Recorded.insertHistoryAndHead (follows : continues config (accepted config anchors) anchor.1 = true)
    (calm : ∀ kind, ¬Conflicts config (accepted config anchors) anchor.1 kind) :
    Recorded config (anchors ++ [anchor]) (shard.insertHistoryAndHead anchor.1 anchor.2) := by
  have above : ∀ row ∈ accepted config anchors, row.epoch < anchor.1.epoch := by
    have latest := recorded.latest
    cases chain : accepted config anchors with
    | nil => simp
    | cons last rest =>
      rw [chain] at latest follows
      obtain ⟨_, _, next, _⟩ := of_decide_eq_true follows
      intro row member
      have := latest last rfl row member
      omega
  refine { recorded with head := ?_, history := ?_, epochs := ?_, latest := ?_, forks := ?_ }
  all_goals try rw [accepted_concat, follows, if_pos rfl]
  · rfl
  · intro row
    rw [mem_cons, recorded.history, GameAuditShard.insertHistoryAndHead, exists_mem_concat, or_comm, @eq_comm _ row]
  · refine nodup_cons.mpr ⟨fun found => ?_, recorded.epochs⟩
    obtain ⟨row, member, same⟩ := mem_map.mp found
    exact Int.ne_of_lt (above row member) same
  · rintro _ ⟨⟩ row member
    rcases mem_cons.mp member with rfl | old
    · exact Int.le_refl _
    · exact Int.le_of_lt (above row old)
  · intro key
    rw [submitted_concat, or_iff_left fun new => calm _ new.2]
    exact recorded.forks key

variable (apart : continues config (accepted config anchors) anchor.1 = false)
include apart

theorem Recorded.unchanged (calm : ∀ kind, ¬Conflicts config (accepted config anchors) anchor.1 kind) :
    Recorded config (anchors ++ [anchor]) shard := by
  have chain := accepted_concat.trans (if_neg (Bool.eq_false_iff.mp apart))
  refine { recorded with
    head := chain ▸ recorded.head, history := chain ▸ recorded.history, epochs := chain ▸ recorded.epochs
    latest := chain ▸ recorded.latest, forks := fun key => ?_ }
  rw [submitted_concat, or_iff_left fun new => calm _ new.2]
  exact recorded.forks key

theorem Recorded.recordFork (fork : ForkRow)
    (conflict : ∀ kind, Conflicts config (accepted config anchors) anchor.1 kind ↔ kind = fork.kind)
    (epoch : fork.observedEpoch = anchor.1.epoch) (digest : fork.conflictingDigest = anchor.1.digest) :
    Recorded config (anchors ++ [anchor]) (shard.recordFork fork).2 := by
  obtain ⟨rfl, head, history, epochs, latest, forks, distinct, sent, jobs⟩ := recorded
  have chain := accepted_concat.trans (if_neg (Bool.eq_false_iff.mp apart))
  refine ⟨rfl, chain ▸ head, chain ▸ history, chain ▸ epochs, chain ▸ latest, fun key => ?_, insertOrIgnore_nodup distinct fork,
    ?_, ?_⟩
  · rw [GameAuditShard.recordFork, mem_map_insertOrIgnore, forks, submitted_concat, conflict, ← epoch, ← digest, and_comm]
    exact or_congr_right Prod.ext_iff
  · intro other member
    rcases mem_insertOrIgnore.mp member with old | ⟨rfl, _⟩
    · exact mem_insertOrIgnore.mpr (Or.inl (sent other old))
    -- the row that has the key already is the same row
    · obtain ⟨row, found, same⟩ := exists_insertOrIgnore ReplayOutboxRow.idempotencyKey shard.outbox
        (forkOutboxRow shard.config other.observedEpoch other.conflictingDigest)
      rcases mem_insertOrIgnore.mp found with old | ⟨rfl, _⟩
      · rw [jobs row old] at same
        obtain ⟨epochs, digests⟩ := forkOutboxRow_key_inj same
        rw [← epochs, ← digests, ← jobs row old]
        exact found
      · exact found
  · intro row member
    rcases mem_insertOrIgnore.mp member with old | ⟨rfl, _⟩
    · exact jobs row old
    · rfl

omit apart

/-- The step lemma: a transaction accepts the anchor, records it as a fork or changes nothing. -/
theorem Recorded.commit :
    Recorded config (anchors ++ [anchor]) (shard.commitVerifiedAnchor anchor.1 anchor.2).2 := by
  have follow := recorded.insertHistoryAndHead anchor
  have keep := recorded.unchanged anchor
  have fork := recorded.recordFork anchor
  obtain ⟨rfl, head, history, epochs, latest, _⟩ := recorded
  unfold GameAuditShard.commitVerifiedAnchor
  rw [head]
  generalize accepted shard.config anchors = chain at *
  cases chain with
  | nil =>
    have calm : ∀ kind, ¬Conflicts shard.config [] anchor.1 kind := by rintro (_ | _) <;> simp [Conflicts]
    dsimp only [head?_nil]
    split
    · rename_i off
      exact keep (by simpa [continues, ← not_and_or] using off) calm
    · rename_i fits
      exact follow (by simpa [continues] using fits) calm
  | cons last rest =>
    have below : ∀ row ∈ last :: rest, row.epoch ≤ last.epoch := latest last rfl
    dsimp only [head?_cons]
    by_cases own : anchor.1.sessionId = shard.config.sessionId ∧ anchor.1.publisherKey = shard.config.authorityKey
    · cases known : shard.historyAt anchor.1.epoch with
      | some found =>
        obtain ⟨stored, epoch⟩ := find_some known
        have member := (history _).mpr ⟨found, stored, rfl⟩
        have bound := below _ member
        have only : ∀ row ∈ last :: rest, row.epoch = anchor.1.epoch → row = found.toHeadRow := fun row present same =>
          inj_on_of_nodup_map epochs present member (same.trans epoch.symm)
        have apart : continues shard.config (last :: rest) anchor.1 = false := by
          simp [continues]
          omega
        by_cases same : found.digest = anchor.1.digest
        · simp [classifyCheckpointHead, own, same]
          refine keep apart ?_
          rintro (_ | _) ⟨_, _, row, present, at_, differs⟩
          · exact differs (by rw [only row present at_, same])
          · cases present
            omega
        · simp [classifyCheckpointHead, own, same]
          refine fork apart _ ?_ rfl rfl
          rintro (_ | _)
          · exact iff_of_true ⟨own.1, own.2, _, member, epoch, same⟩ rfl
          · refine iff_of_false ?_ nofun
            rintro ⟨_, _, _, ⟨⟩, next, _⟩
            omega
      | none =>
        have unknown : ¬Conflicts shard.config (last :: rest) anchor.1 .sameEpoch := by
          rintro ⟨_, _, row, present, at_, _⟩
          obtain ⟨stored, found, rfl⟩ := (history row).mp present
          exact find_none known stored found at_
        by_cases next : anchor.1.epoch = last.epoch + 1
        · have above : last.epoch < anchor.1.epoch := by omega
          have near : anchor.1.epoch - 1 = last.epoch := by omega
          by_cases parent : anchor.1.previousDigest = last.digest
          · simp [classifyCheckpointHead, own, above, near, parent]
            refine follow (by simp [continues, own, next, parent]) ?_
            rintro (_ | _)
            · exact unknown
            · simp [Conflicts, parent]
          · simp [classifyCheckpointHead, own, above, near, parent]
            refine fork (by simp [continues, parent]) _ ?_ rfl rfl
            rintro (_ | _)
            · exact iff_of_false unknown nofun
            · exact iff_of_true ⟨own.1, own.2, last, rfl, next, parent⟩ rfl
        · have apart : anchor.1.epoch - 1 ≠ last.epoch := by omega
          have calm : ∀ kind, ¬Conflicts shard.config (last :: rest) anchor.1 kind := by
            rintro (_ | _)
            · exact unknown
            · simp [Conflicts, next]
          by_cases late : last.epoch < anchor.1.epoch <;> simp [classifyCheckpointHead, own, apart, late]
          all_goals exact keep (by simp [continues, next]) calm
    · simp [classifyCheckpointHead, own]
      exact keep (decide_eq_false fun fits => own ⟨fits.1, fits.2.1⟩) fun _ conflict => own ⟨conflict.1, conflict.2.1⟩

end

theorem recorded_commitAll (config : AuditConfigRow) (anchors : List (VerifiedAnchor × Str)) :
    Recorded config anchors (commitAll config anchors) := by
  induction anchors using List.reverseRecOn with
  | nil => refine ⟨rfl, rfl, ?_, nodup_nil, ?_, ?_, nodup_nil, ?_, ?_⟩ <;> simp [accepted, commitAll, Submitted]
  | append_singleton anchors anchor ih =>
    rw [commitAll, foldl_concat, ← commitAll]
    exact ih.commit anchor

theorem Recorded.replayOutboxAt_fork (recorded : Recorded config anchors shard) (member : fork ∈ shard.forks) :
    shard.replayOutboxAt (forkOutboxRow config fork.observedEpoch fork.conflictingDigest).idempotencyKey =
      some (forkOutboxRow config fork.observedEpoch fork.conflictingDigest) := by
  cases read : shard.replayOutboxAt (forkOutboxRow config fork.observedEpoch fork.conflictingDigest).idempotencyKey with
  | none => exact absurd rfl (find_none read _ (recorded.sent fork member))
  | some row =>
    obtain ⟨stored, same⟩ := find_some read
    rw [recorded.jobs row stored] at same
    obtain ⟨epochs, digests⟩ := forkOutboxRow_key_inj same
    rw [← epochs, ← digests, ← recorded.jobs row stored]

theorem Recorded.replayable_iff (recorded : Recorded config anchors shard) (member : fork ∈ shard.forks) :
    shard.replayable fork = true ↔ shard.evidenceCount fork.observedEpoch fork.conflictingDigest = 1 := by
  have read := recorded.replayOutboxAt_fork member
  rw [← recorded.own] at read
  unfold GameAuditShard.replayable
  rw [read]
  simp [GameAuditShard.replayJobMatchesStoredEvidence, GameAuditShard.jobOf, forkOutboxRow]

/-- The replay job of a recorded fork can be used exactly if its digest was not submitted both as the successor of a wrong
parent and after another anchor of its epoch was accepted. -/
theorem fork_replayable_iff (config : AuditConfigRow) (anchors : List (VerifiedAnchor × Str)) (fork : ForkRow)
    (member : fork ∈ (commitAll config anchors).forks) :
    (commitAll config anchors).replayable fork = true ↔
      ¬(Submitted config anchors (.wrongParent, fork.observedEpoch, fork.conflictingDigest) ∧
        Submitted config anchors (.sameEpoch, fork.observedEpoch, fork.conflictingDigest)) := by
  have recorded := recorded_commitAll config anchors
  rw [recorded.replayable_iff member, ← recorded.forks, ← recorded.forks]
  constructor
  · intro once ⟨first, second⟩
    obtain ⟨wrongParent, found, named⟩ := mem_map.mp first
    obtain ⟨sameEpoch, present, known⟩ := mem_map.mp second
    rw [GameAuditShard.evidenceCount, countP_eq_length_filter, length_eq_one_iff] at once
    obtain ⟨only, filtered⟩ := once
    have here := filtered ▸ mem_filter.mpr ⟨found, by simpa using (Prod.mk.inj named).2⟩
    have there := filtered ▸ mem_filter.mpr ⟨present, by simpa using (Prod.mk.inj known).2⟩
    rw [mem_singleton.mp here] at named
    rw [mem_singleton.mp there, named] at known
    cases known
  · intro oneKind
    have counted : (commitAll config anchors).evidenceCount fork.observedEpoch fork.conflictingDigest =
        (commitAll config anchors).forks.count fork := by
      refine countP_congr fun other found => ?_
      rw [decide_eq_true_eq, beq_iff_eq]
      refine ⟨fun ⟨epoch, digest⟩ => ?_, fun same => same ▸ ⟨rfl, rfl⟩⟩
      have here := mem_map_of_mem (f := ForkRow.key) member
      have there := mem_map_of_mem (f := ForkRow.key) found
      refine inj_on_of_nodup_map recorded.distinct found member ?_
      unfold ForkRow.key at *
      rw [epoch, digest] at there ⊢
      cases theirs : other.kind <;> cases ours : fork.kind <;> rw [theirs] at there <;> rw [ours] at here
      · exact absurd ⟨here, there⟩ oneKind
      · exact absurd ⟨there, here⟩ oneKind
    rw [counted]
    exact count_eq_one_of_mem (List.Nodup.of_map _ recorded.distinct) member

section Sample

def sampleConfig : AuditConfigRow := ⟨.pve, "u", "s", "k", 0, "g"⟩

def sampleAnchor (epoch : ℤ) (digest previousDigest : Str) : VerifiedAnchor × Str :=
  (⟨⟨epoch, digest, previousDigest, "o", "r", 1⟩, "s", "k", 1⟩, "e")

def sampleAnchors : List (VerifiedAnchor × Str) :=
  [sampleAnchor 0 "a" "g", sampleAnchor 1 "x" "y", sampleAnchor 1 "b" "a"]

def sampleFork : ForkRow := ⟨.wrongParent, 0, "a", 1, "x", "y"⟩

theorem fork_replayable_sample : (commitAll sampleConfig sampleAnchors).replayable sampleFork = true :=
  (fork_replayable_iff sampleConfig sampleAnchors sampleFork (by decide +kernel)).mpr fun both =>
    absurd (((recorded_commitAll _ _).forks _).mpr both.2) (by decide +kernel)

/-- The wrong-parent fork is submitted again after the head has reached its epoch, and is recorded a second time. -/
theorem repeated_fork_not_replayable :
    let shard := commitAll sampleConfig (sampleAnchors ++ [sampleAnchor 1 "x" "y"])
    sampleFork ∈ shard.forks ∧ shard.replayable sampleFork = false := by
  decide +kernel

end Sample

end ConvergeAudit.Shard
