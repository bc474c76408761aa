import ConvergeAudit.OpenWorld.AnchorHead

/-!
`signing_anchor.mbt` and `signing_anchor_transport.mbt`: a transport serves bounded pages by cursor, and `recoverGap`
opens a page and merges it. What a transport answers is not trusted.
-/

namespace ConvergeAudit.OpenWorld
open Moon Bft Game Audit AuthMap

inductive OpenWorldSigningAnchorPublicationDecision where
  | publishSigningAnchor
  | rejectInvalidSigningAnchor
  | rejectSigningAnchorLogSession
  | rejectSigningAnchorLogManifest
  | rejectSigningAnchorMembership
  deriving DecidableEq

def classifyOpenWorldSigningAnchorPublication (anchorValid logSessionMatches logManifestMatches
    membershipProofValid : Bool) : OpenWorldSigningAnchorPublicationDecision :=
  if !anchorValid then .rejectInvalidSigningAnchor
  else if !logSessionMatches then .rejectSigningAnchorLogSession
  else if !logManifestMatches then .rejectSigningAnchorLogManifest
  else if !membershipProofValid then .rejectSigningAnchorMembership
  else .publishSigningAnchor

theorem classifyOpenWorldSigningAnchorPublication_publish_iff (anchorValid logSessionMatches logManifestMatches
    membershipProofValid : Bool) :
    classifyOpenWorldSigningAnchorPublication anchorValid logSessionMatches logManifestMatches membershipProofValid =
        .publishSigningAnchor ↔
      anchorValid = true ∧ logSessionMatches = true ∧ logManifestMatches = true ∧ membershipProofValid = true := by
  cases anchorValid <;> cases logSessionMatches <;> cases logManifestMatches <;> cases membershipProofValid <;> decide

section
variable (anchor : OpenWorldObserverSigningAnchor)

inductive OpenWorldObserverSigningAnchorPublicationRefusal where
  | invalidObserverSigningAnchor
  | observerSigningAnchorLogSessionMismatch
  | observerSigningAnchorLogManifestMismatch
  | observerSigningAnchorMembershipProofInvalid
  deriving DecidableEq

inductive OpenWorldObserverSigningAnchorPublicationResult where
  | observerSigningAnchorPublished (published : PublishedOpenWorldObserverSigningAnchor)
  | observerSigningAnchorPublicationRefused (reason : OpenWorldObserverSigningAnchorPublicationRefusal)

def openWorldObserverSigningAnchorLogManifest (hasher : Hasher) (logSessionId : Str) : Digest :=
  hasher.hashString ([lit "open-world-observer-signing-anchor-log-v1", logSessionId].foldl appendField Str.empty)

def openWorldObserverSigningAnchorKey : Str :=
  [lit "open-world-observer-signing-anchor-key-v1", anchor.observerId, anchor.signerKey.text].foldl appendField Str.empty

def openWorldObserverSigningAnchorValue : Str :=
  [lit "open-world-observer-signing-anchor-value-v1", anchor.root.text, Str.ofInt anchor.size].foldl appendField Str.empty

def openWorldObserverSigningAnchorValid : Bool :=
  anchor.observerId != Str.empty && anchor.signerKey.text != Str.empty && anchor.root.text != Str.empty &&
    decide (anchor.size ≥ 0)

def logSessionMatches (checkpoint : Checkpoint) (logSessionId : Str) : Bool :=
  logSessionId != Str.empty && checkpoint.sessionId == logSessionId

end

theorem logSessionMatches_iff :
    logSessionMatches checkpoint logSessionId = true ↔
      logSessionId ≠ Str.empty ∧ checkpoint.sessionId = logSessionId := by
  simp [logSessionMatches]

variable [StrOrder]

def openPublishedOpenWorldObserverSigningAnchor (hasher : Hasher) (publicationCheckpoint : VerifiedCheckpoint)
    (logSessionId : Str) (anchor : OpenWorldObserverSigningAnchor) (membershipProof : AuthMapProof) :
    OpenWorldObserverSigningAnchorPublicationResult :=
  let checkpoint := publicationCheckpoint.checkpoint
  let anchorValid := openWorldObserverSigningAnchorValid anchor
  let sessionMatches := logSessionMatches checkpoint logSessionId
  let manifestMatches := checkpoint.manifestDigest == openWorldObserverSigningAnchorLogManifest hasher logSessionId
  let membershipProofValid :=
    if anchorValid && sessionMatches && manifestMatches then
      membershipProof.key == openWorldObserverSigningAnchorKey anchor &&
        membershipProof.value == openWorldObserverSigningAnchorValue anchor &&
        verifyMembership hasher checkpoint.publicStateRoot membershipProof
    else false
  match decided : classifyOpenWorldSigningAnchorPublication anchorValid sessionMatches manifestMatches
      membershipProofValid with
  | .rejectInvalidSigningAnchor => .observerSigningAnchorPublicationRefused .invalidObserverSigningAnchor
  | .rejectSigningAnchorLogSession => .observerSigningAnchorPublicationRefused .observerSigningAnchorLogSessionMismatch
  | .rejectSigningAnchorLogManifest => .observerSigningAnchorPublicationRefused .observerSigningAnchorLogManifestMismatch
  | .rejectSigningAnchorMembership => .observerSigningAnchorPublicationRefused .observerSigningAnchorMembershipProofInvalid
  | .publishSigningAnchor =>
    .observerSigningAnchorPublished
      { anchor
        publicationCheckpointDigest := publicationCheckpoint.digest
        previousCheckpointDigest := checkpoint.previousCheckpoint
        publisherKey := publicationCheckpoint.authorityKey
        logSessionId
        logEpoch := checkpoint.epoch
        log_named := (logSessionMatches_iff.mp
          ((classifyOpenWorldSigningAnchorPublication_publish_iff _ _ _ _).mp decided).2.1).1 }

structure OpenWorldObserverSigningAnchorEnvelope where
  signedCheckpoint : SignedCheckpoint
  anchor : OpenWorldObserverSigningAnchor
  membershipProof : AuthMapProof
  deriving DecidableEq

inductive OpenWorldObserverSigningAnchorEnvelopeRefusal where
  | observerSigningAnchorEnvelopeCheckpointRefused (reason : CheckpointVerification)
  | observerSigningAnchorEnvelopePublicationRefused (reason : OpenWorldObserverSigningAnchorPublicationRefusal)
  deriving DecidableEq

inductive OpenWorldObserverSigningAnchorEnvelopeOpenResult where
  | observerSigningAnchorEnvelopeOpened (published : PublishedOpenWorldObserverSigningAnchor)
  | observerSigningAnchorEnvelopeRefused (reason : OpenWorldObserverSigningAnchorEnvelopeRefusal)
  deriving DecidableEq

def openOpenWorldObserverSigningAnchorEnvelope (hasher : Hasher) (verifier : Verifier)
    (expectedPublisherKey : PublicKey) (logSessionId : Str) (envelope : OpenWorldObserverSigningAnchorEnvelope) :
    OpenWorldObserverSigningAnchorEnvelopeOpenResult :=
  match openCheckpoint hasher verifier expectedPublisherKey envelope.signedCheckpoint with
  | .refused reason =>
    .observerSigningAnchorEnvelopeRefused (.observerSigningAnchorEnvelopeCheckpointRefused reason)
  | .opened verifiedCheckpoint =>
    match openPublishedOpenWorldObserverSigningAnchor hasher verifiedCheckpoint logSessionId envelope.anchor
        envelope.membershipProof with
    | .observerSigningAnchorPublished published => .observerSigningAnchorEnvelopeOpened published
    | .observerSigningAnchorPublicationRefused reason =>
      .observerSigningAnchorEnvelopeRefused (.observerSigningAnchorEnvelopePublicationRefused reason)

/-- What the opening of an envelope establishes about it and about the capability. -/
structure OpensTo (hasher : Hasher) (verifier : Verifier) (publisherKey : PublicKey) (logSessionId : Str)
    (envelope : OpenWorldObserverSigningAnchorEnvelope) (head : PublishedOpenWorldObserverSigningAnchor) : Prop where
  opened : openOpenWorldObserverSigningAnchorEnvelope hasher verifier publisherKey logSessionId envelope =
    .observerSigningAnchorEnvelopeOpened head
  verified : verifyCheckpoint hasher verifier publisherKey envelope.signedCheckpoint = .verified
  authority : envelope.signedCheckpoint.authorityKey = publisherKey
  session : envelope.signedCheckpoint.checkpoint.sessionId = logSessionId
  head_session : head.logSessionId = logSessionId
  head_publisher : head.publisherKey = publisherKey
  head_epoch : head.logEpoch = envelope.signedCheckpoint.checkpoint.epoch
  head_parent : head.previousCheckpointDigest = envelope.signedCheckpoint.checkpoint.previousCheckpoint
  head_digest : head.publicationCheckpointDigest = envelope.signedCheckpoint.digest

theorem opensTo_of_opened
    (opened : openOpenWorldObserverSigningAnchorEnvelope hasher verifier publisherKey logSessionId envelope =
      .observerSigningAnchorEnvelopeOpened head) :
    OpensTo hasher verifier publisherKey logSessionId envelope head := by
  have whole := opened
  unfold openOpenWorldObserverSigningAnchorEnvelope at opened
  cases checkpointOpened : openCheckpoint hasher verifier publisherKey envelope.signedCheckpoint with
  | refused reason => simp [checkpointOpened] at opened
  | opened verifiedCheckpoint =>
    obtain ⟨same, verified, authority⟩ := openCheckpoint_opened checkpointOpened
    simp only [checkpointOpened] at opened
    cases published : openPublishedOpenWorldObserverSigningAnchor hasher verifiedCheckpoint logSessionId envelope.anchor
        envelope.membershipProof with
    | observerSigningAnchorPublicationRefused reason => simp [published] at opened
    | observerSigningAnchorPublished given =>
      simp only [published, OpenWorldObserverSigningAnchorEnvelopeOpenResult.observerSigningAnchorEnvelopeOpened.injEq]
        at opened
      subst given
      unfold openPublishedOpenWorldObserverSigningAnchor at published
      dsimp only at published
      split at published <;>
        simp only [OpenWorldObserverSigningAnchorPublicationResult.observerSigningAnchorPublished.injEq,
          reduceCtorEq] at published
      rename_i decided
      have sessionMatches := ((classifyOpenWorldSigningAnchorPublication_publish_iff _ _ _ _).mp decided).2.1
      subst published same
      exact ⟨whole, verified, authority, (logSessionMatches_iff.mp sessionMatches).2, rfl, authority, rfl, rfl, rfl⟩

structure OpenWorldObserverSigningAnchorGapRequest where
  logSessionId : Str
  publisherKey : PublicKey
  afterEpoch : ℤ
  afterCheckpointDigest : Digest
  targetEpoch : ℤ
  maxItems : ℤ

structure OpenWorldObserverSigningAnchorGapResponse where
  envelopes : List OpenWorldObserverSigningAnchorEnvelope

inductive OpenWorldObserverSigningAnchorGapFetchResult where
  | observerSigningAnchorGapFetched (response : OpenWorldObserverSigningAnchorGapResponse)
  | observerSigningAnchorGapUnavailable
  | observerSigningAnchorGapSourceAmbiguous (candidateCount : ℤ)
  | observerSigningAnchorGapRequestInvalid

/-- The trait; an implementation may answer anything. -/
structure OpenWorldObserverSigningAnchorGapTransport where
  fetch : OpenWorldObserverSigningAnchorGapRequest → OpenWorldObserverSigningAnchorGapFetchResult

structure OpenWorldInMemoryObserverSigningAnchorGapTransport where
  byCursor : Map Str (List OpenWorldObserverSigningAnchorEnvelope)

def openWorldObserverSigningAnchorGapCursorKey (logSessionId : Str) (publisherKey : PublicKey) (epoch : ℤ)
    (previousCheckpoint : Digest) : Str :=
  [lit "open-world-observer-signing-anchor-gap-cursor-v1", logSessionId, publisherKey.text, Str.ofInt epoch,
    previousCheckpoint.text].foldl appendField Str.empty

def OpenWorldObserverSigningAnchorEnvelope.cursor (envelope : OpenWorldObserverSigningAnchorEnvelope) : Str :=
  openWorldObserverSigningAnchorGapCursorKey envelope.signedCheckpoint.checkpoint.sessionId
    envelope.signedCheckpoint.authorityKey envelope.signedCheckpoint.checkpoint.epoch
    envelope.signedCheckpoint.checkpoint.previousCheckpoint

def openWorldObserverSigningAnchorGapRequestValid (request : OpenWorldObserverSigningAnchorGapRequest) : Bool :=
  request.logSessionId != Str.empty && request.publisherKey.text != Str.empty &&
    request.afterCheckpointDigest.text != Str.empty && decide (request.targetEpoch > request.afterEpoch) &&
    decide (request.maxItems > 0)

def openWorldObserverSigningAnchorEnvelopeIsNewCandidate (candidates : List OpenWorldObserverSigningAnchorEnvelope)
    (candidate : OpenWorldObserverSigningAnchorEnvelope) : Bool :=
  !candidates.any (· == candidate)

namespace OpenWorldInMemoryObserverSigningAnchorGapTransport

def addEnvelope (byCursor : Map Str (List OpenWorldObserverSigningAnchorEnvelope))
    (envelope : OpenWorldObserverSigningAnchorEnvelope) : Map Str (List OpenWorldObserverSigningAnchorEnvelope) :=
  match byCursor.get envelope.cursor with
  | none => byCursor.set envelope.cursor [envelope]
  | some existing =>
    if openWorldObserverSigningAnchorEnvelopeIsNewCandidate existing envelope then
      byCursor.set envelope.cursor (existing ++ [envelope])
    else byCursor

def new (envelopes : List OpenWorldObserverSigningAnchorEnvelope) :
    OpenWorldInMemoryObserverSigningAnchorGapTransport :=
  ⟨envelopes.foldl addEnvelope .empty⟩

/-- The loop of `fetch`; the first argument is the room that is left on the page. -/
def fetchPage (self : OpenWorldInMemoryObserverSigningAnchorGapTransport)
    (request : OpenWorldObserverSigningAnchorGapRequest) :
    ℕ → ℤ → Digest → List OpenWorldObserverSigningAnchorEnvelope → OpenWorldObserverSigningAnchorGapFetchResult
  | 0, _, _, selected => .observerSigningAnchorGapFetched ⟨selected⟩
  | room + 1, currentEpoch, currentCheckpointDigest, selected =>
    if currentEpoch < request.targetEpoch then
      let cursor := openWorldObserverSigningAnchorGapCursorKey request.logSessionId request.publisherKey
        (currentEpoch + 1) currentCheckpointDigest
      match self.byCursor.get cursor with
      | none =>
        if selected.length = 0 then .observerSigningAnchorGapUnavailable
        else .observerSigningAnchorGapFetched ⟨selected⟩
      -- No empty list is ever stored; the source would stop here.
      | some [] => .observerSigningAnchorGapUnavailable
      | some (next :: others) =>
        if (next :: others).length > 1 then .observerSigningAnchorGapSourceAmbiguous (next :: others).length
        else
          self.fetchPage request room next.signedCheckpoint.checkpoint.epoch next.signedCheckpoint.digest
            (selected ++ [next])
    else .observerSigningAnchorGapFetched ⟨selected⟩

def fetch (self : OpenWorldInMemoryObserverSigningAnchorGapTransport)
    (request : OpenWorldObserverSigningAnchorGapRequest) : OpenWorldObserverSigningAnchorGapFetchResult :=
  if !openWorldObserverSigningAnchorGapRequestValid request then .observerSigningAnchorGapRequestInvalid
  else self.fetchPage request request.maxItems.toNat request.afterEpoch request.afterCheckpointDigest []

def transport (self : OpenWorldInMemoryObserverSigningAnchorGapTransport) :
    OpenWorldObserverSigningAnchorGapTransport := ⟨self.fetch⟩

end OpenWorldInMemoryObserverSigningAnchorGapTransport

inductive OpenWorldObserverSigningAnchorGapRecoveryResult where
  | observerSigningAnchorGapRecoveryAdvanced (advanced : ℤ) (hasMore : Bool)
  | observerSigningAnchorGapRecoveryNoChange (hasMore : Bool)
  | observerSigningAnchorGapRecoveryBatchRefused (refusal : OpenWorldObserverSigningAnchorHeadBatchDelivery)
  | observerSigningAnchorGapRecoveryUnavailable
  | observerSigningAnchorGapRecoverySourceAmbiguous (candidateCount : ℤ)
  | observerSigningAnchorGapRecoveryInvalidRequest
  | observerSigningAnchorGapRecoveryMalformedResponse
  | observerSigningAnchorGapRecoveryEnvelopeRefused (index : ℤ)
      (reason : OpenWorldObserverSigningAnchorEnvelopeRefusal)
  deriving DecidableEq

namespace OpenWorldObserverSigningAnchorHeadTracker

section
variable (self tracker : OpenWorldObserverSigningAnchorHeadTracker)

def gapRequest (targetEpoch maxItems : ℤ) : OpenWorldObserverSigningAnchorGapRequest where
  logSessionId := self.logSessionId
  publisherKey := self.publisherKey
  afterEpoch := self.currentEpoch
  afterCheckpointDigest := self.currentCheckpointDigest
  targetEpoch := targetEpoch
  maxItems := maxItems

def openPage (self : OpenWorldObserverSigningAnchorHeadTracker) (hasher : Hasher) (verifier : Verifier)
    (targetEpoch : ℤ) : ℤ → List OpenWorldObserverSigningAnchorEnvelope →
      Except OpenWorldObserverSigningAnchorGapRecoveryResult (List PublishedOpenWorldObserverSigningAnchor)
  | _, [] => .ok []
  | index, envelope :: rest =>
    if envelope.signedCheckpoint.checkpoint.epoch > targetEpoch then
      .error .observerSigningAnchorGapRecoveryMalformedResponse
    else
      match openOpenWorldObserverSigningAnchorEnvelope hasher verifier self.publisherKey self.logSessionId envelope with
      | .observerSigningAnchorEnvelopeRefused reason =>
        .error (.observerSigningAnchorGapRecoveryEnvelopeRefused index reason)
      | .observerSigningAnchorEnvelopeOpened anchor =>
        (self.openPage hasher verifier targetEpoch (index + 1) rest).map (anchor :: ·)

def recoveryResult (delivery : OpenWorldObserverSigningAnchorHeadBatchDelivery) (hasMore : Bool) :
    OpenWorldObserverSigningAnchorGapRecoveryResult :=
  match delivery with
  | .signingAnchorHeadBatchAdvanced advanced => .observerSigningAnchorGapRecoveryAdvanced advanced hasMore
  | .signingAnchorHeadBatchNoChange => .observerSigningAnchorGapRecoveryNoChange hasMore
  | refusal => .observerSigningAnchorGapRecoveryBatchRefused refusal

def recoverGap (hasher : Hasher) (verifier : Verifier) (transport : OpenWorldObserverSigningAnchorGapTransport)
    (targetEpoch maxItems : ℤ) :
    OpenWorldObserverSigningAnchorHeadTracker × OpenWorldObserverSigningAnchorGapRecoveryResult :=
  let request := self.gapRequest targetEpoch maxItems
  if !openWorldObserverSigningAnchorGapRequestValid request then (self, .observerSigningAnchorGapRecoveryInvalidRequest)
  else
    match transport.fetch request with
    | .observerSigningAnchorGapRequestInvalid => (self, .observerSigningAnchorGapRecoveryInvalidRequest)
    | .observerSigningAnchorGapUnavailable => (self, .observerSigningAnchorGapRecoveryUnavailable)
    | .observerSigningAnchorGapSourceAmbiguous candidateCount =>
      (self, .observerSigningAnchorGapRecoverySourceAmbiguous candidateCount)
    | .observerSigningAnchorGapFetched response =>
      if response.envelopes.length = 0 ∨ (response.envelopes.length : ℤ) > maxItems then
        (self, .observerSigningAnchorGapRecoveryMalformedResponse)
      else
        match self.openPage hasher verifier targetEpoch 0 response.envelopes with
        | .error refusal => (self, refusal)
        | .ok published =>
          let delivered := self.deliverBatch published
          (delivered.1, recoveryResult delivered.2 (decide (delivered.1.currentEpoch < targetEpoch)))

/-- A call on a tracker; a recovery may come with any hasher, verifier and transport. -/
inductive Call where
  | deliver (incoming : PublishedOpenWorldObserverSigningAnchor)
  | deliverBatch (incomingHeads : List PublishedOpenWorldObserverSigningAnchor)
  | recoverGap (hasher : Hasher) (verifier : Verifier) (transport : OpenWorldObserverSigningAnchorGapTransport)
      (targetEpoch maxItems : ℤ)

def step : Call → OpenWorldObserverSigningAnchorHeadTracker
  | .deliver incoming => (tracker.deliver incoming).1
  | .deliverBatch incomingHeads => (tracker.deliverBatch incomingHeads).1
  | .recoverGap hasher verifier transport targetEpoch maxItems =>
    (tracker.recoverGap hasher verifier transport targetEpoch maxItems).1

def run (calls : List Call) : OpenWorldObserverSigningAnchorHeadTracker :=
  calls.foldl step tracker

end

end OpenWorldObserverSigningAnchorHeadTracker

end ConvergeAudit.OpenWorld
