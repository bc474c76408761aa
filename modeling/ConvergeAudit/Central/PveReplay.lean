import ConvergeAudit.Central.EventGraph
import ConvergeAudit.Market.Receipts
import ConvergeAudit.Replay.EncounterCheckpoint

/-!
`central_replay/pve_replay.mbt`, with the decoder as a parameter: the declared loot is replayed against the outcome of
the replayed encounter.
-/

namespace ConvergeAudit.Central
open Moon Bft Merkle Game Market Replay Lib.Fallible List

section
variable (hasher : Hasher) (bundle : PveReplayBundle) (authenticated : Map Str AuthenticatedEvent)

structure PveReplayDodgeEvidence where
  input : SignedEvent
  receipt : SignedEvent
  intent : DodgeIntent
  observed : DodgeReceipt

structure PveReplayAttackTranscript where
  attackId : Str
  telegraph : SignedEvent
  dodgeEvidence : List PveReplayDodgeEvidence

structure PveReplayAssetEffectEvidence where
  source : SignedEvent
  effect : AssetEffect

structure PveReplayBundle where
  authorityPeerId : Str
  signedCheckpoint : SignedCheckpoint
  config : DungeonEncounterConfig
  players : List DungeonPlayer
  attacks : List DungeonEncounterAttack
  transcripts : List PveReplayAttackTranscript
  assetEffects : List PveReplayAssetEffectEvidence

inductive PveReplayWireError where
  | pveWireInputTooLarge (actual limit : ℤ)
  | pveWireTextTooLarge (actual limit : ℤ)
  | pveWirePlayersTooMany (actual limit : ℤ)
  | pveWireAttacksTooMany (actual limit : ℤ)
  | pveWireTranscriptsTooMany (actual limit : ℤ)
  | pveWireDodgeEvidenceTooMany (actual limit : ℤ)
  | pveWireAssetEffectsTooMany (actual limit : ℤ)
  | pveWireDependenciesTooMany (actual limit : ℤ)
  | pveWireValuesTooMany (actual limit : ℤ)
  | pveWireUnsupportedVersion (version : ℤ)
  | pveWireNonCanonicalEncoding
  | pveWireMalformedCbor
  | pveWireInvalidShape
  | pveWireIntegerOutOfRange

inductive PveCentralReplayRefusal where
  | wireReplayRefused (reason : PveReplayWireError)
  | expectedSessionMismatch
  | expectedAuthorityMismatch
  | expectedCheckpointMismatch
  | invalidAuthorityPeer
  | invalidRosterBoundary
  | duplicateEventDigest (digest : Str)
  | eventAuthenticationRefused (digest : Str)
  | incompleteEventGraph
  | checkpointAuthenticationRefused (reason : CheckpointVerification)
  | encounterReplayRefused (reason : DungeonEncounterRefusal)
  | assetEffectReplayRefused (index : ℤ) (reason : ReplayRefusal)
  | assetReceiptBatchRefused (reason : ReceiptBatchError)
  | assetDeltaRootMismatch

structure PveCentralReplayVerified where
  sessionId : Str
  checkpointDigest : Digest
  authorityKey : PublicKey
  epoch : ℤ
  cleared : Bool
  acceptedDodges : ℤ
  survivors : List Str
  defeated : List Str
  playerStates : List DungeonEncounterPlayerState
  replayedAssets : ℤ

inductive PveCentralReplayResult where
  | replayVerified (summary : PveCentralReplayVerified)
  | replayRefused (reason : PveCentralReplayRefusal)

structure OpenedPveAssetReceipt where
  proof : ItemReceiptProof
  replayed : ReplayedAssetEffect

structure OpenedPveCentralReplay where
  checkpoint : VerifiedCheckpoint
  resolution : DungeonEncounterResolution
  assetReceipts : List OpenedPveAssetReceipt

def pveSignedEvents : List SignedEvent :=
  (bundle.transcripts.flatMap fun transcript =>
    transcript.telegraph :: transcript.dodgeEvidence.flatMap fun evidence => [evidence.input, evidence.receipt]) ++
    bundle.assetEffects.map (·.source)

def pveGraphRefusals : GraphRefusals PveCentralReplayRefusal where
  invalidRosterBoundary := .invalidRosterBoundary
  duplicateEventDigest := .duplicateEventDigest
  eventAuthenticationRefused := .eventAuthenticationRefused
  incompleteEventGraph := .incompleteEventGraph

def authenticatePveEventGraph [StrOrder] [DoubleFormat] (hasher : Hasher) (verifier : Verifier) (bundle : PveReplayBundle)
    (expectedSessionId : Str) (expectedAuthorityKey : PublicKey) :
    Except PveCentralReplayRefusal (Map Str AuthenticatedEvent) :=
  authenticateEventGraph pveGraphRefusals hasher verifier expectedSessionId bundle.authorityPeerId expectedAuthorityKey
    (bundle.players.map fun player => (player.playerId, player.publicKey)) (pveSignedEvents bundle)

def authenticatedPveDodge (evidence : PveReplayDodgeEvidence) : Except PveCentralReplayRefusal DodgeEvidence := do
  let input ← given (authenticated.get evidence.input.digest.text) .incompleteEventGraph
  let receipt ← given (authenticated.get evidence.receipt.digest.text) .incompleteEventGraph
  return { input, receipt, intent := evidence.intent, observed := evidence.observed }

def authenticatedPveTranscript (transcript : PveReplayAttackTranscript) :
    Except PveCentralReplayRefusal DungeonAttackTranscript := do
  let telegraph ← given (authenticated.get transcript.telegraph.digest.text) .incompleteEventGraph
  let dodgeEvidence ← transcript.dodgeEvidence.mapM (authenticatedPveDodge authenticated)
  return { attackId := transcript.attackId, telegraph, dodgeEvidence }

def authenticatedPveTranscripts : Except PveCentralReplayRefusal (List DungeonAttackTranscript) :=
  bundle.transcripts.mapM (authenticatedPveTranscript authenticated)

def pveItemReceipt (effect : AssetEffect) (sourceDigest : Digest) : Option ItemReceipt :=
  match effect with
  | .create assetId recipientId itemType quantity outputIndex =>
    some { assetId, recipientId, itemType, quantity, sourceEvent := sourceDigest, outputIndex }
  | .transfer .. => none

def replayAssetEffects (engine : ReplayEngine) (authenticated : Map Str AuthenticatedEvent) :
    ℤ → List PveReplayAssetEffectEvidence → Except PveCentralReplayRefusal (List (ItemReceipt × ReplayedAssetEffect))
  | _, [] => .ok []
  | index, evidence :: rest => do
    let source ← given (authenticated.get evidence.source.digest.text) .incompleteEventGraph
    let replayed ← (match engine.replay source evidence.effect with
      | .replayed capability => .ok capability
      | .refused reason => .error (.assetEffectReplayRefused index reason))
    let receipt ← given (pveItemReceipt evidence.effect replayed.sourceDigest)
      (.assetEffectReplayRefused index .kernelRejected)
    let later ← replayAssetEffects engine authenticated (index + 1) rest
    return (receipt, replayed) :: later

def openPveAssetReceipts (checkpoint : VerifiedCheckpoint) (resolution : DungeonEncounterResolution)
    (expectedSessionId : Str) :
    Except PveCentralReplayRefusal (List OpenedPveAssetReceipt) := do
  let engine : ReplayEngine := ⟨expectedSessionId, resolution.lootKernel.kernel⟩
  let effects ← replayAssetEffects engine authenticated 0 bundle.assetEffects
  let batch ← (match buildReceiptBatch hasher (effects.map Prod.fst) with
    | .built batch => .ok batch
    | .batchRejected reason => .error (.assetReceiptBatchRefused reason))
  require (batch.root = checkpoint.checkpoint.assetDeltaRoot) .assetDeltaRootMismatch
  (batch.receipts.zip (effects.map Prod.snd)).mapM fun (receipt, replayed) => do
    let proof ← given (batch.proofFor receipt.assetId) .assetDeltaRootMismatch
    return { proof, replayed }

end

section
variable [StrOrder] [DoubleFormat]

def openDecodedPveReplayBundle (arith : Arithmetic) (hasher : Hasher) (verifier : Verifier) (bundle : PveReplayBundle)
    (expectedSessionId : Str) (expectedAuthorityKey : PublicKey) (expectedCheckpointDigest : Digest) :
    Except PveCentralReplayRefusal OpenedPveCentralReplay := do
  let signedCheckpoint := bundle.signedCheckpoint
  require (signedCheckpoint.checkpoint.sessionId = expectedSessionId) .expectedSessionMismatch
  require (signedCheckpoint.authorityKey = expectedAuthorityKey) .expectedAuthorityMismatch
  require (signedCheckpoint.digest = expectedCheckpointDigest) .expectedCheckpointMismatch
  require (bundle.authorityPeerId ≠ Str.empty) .invalidAuthorityPeer
  let checkpoint ← (match openCheckpoint hasher verifier expectedAuthorityKey signedCheckpoint with
    | .opened checkpoint => .ok checkpoint
    | .refused reason => .error (.checkpointAuthenticationRefused reason))
  let authenticated ← authenticatePveEventGraph hasher verifier bundle expectedSessionId expectedAuthorityKey
  let transcripts ← authenticatedPveTranscripts bundle authenticated
  let candidate ← (match prepareDungeonEncounter arith hasher expectedSessionId expectedAuthorityKey bundle.config
      bundle.players bundle.attacks transcripts with
    | .candidateReady candidate => .ok candidate
    | .refused reason => .error (.encounterReplayRefused reason))
  let resolution ← (match finalizeDungeonEncounter candidate checkpoint with
    | .encounterFinalized resolution => .ok resolution
    | .refused reason => .error (.encounterReplayRefused reason))
  let assetReceipts ← openPveAssetReceipts hasher bundle authenticated checkpoint resolution expectedSessionId
  return { checkpoint, resolution, assetReceipts }

def verifyPveReplayBundle (arith : Arithmetic) (hasher : Hasher) (verifier : Verifier)
    (decodePveReplayBundle : List UInt8 → Except PveReplayWireError PveReplayBundle) (bundleBytes : List UInt8)
    (expectedSessionId : Str) (expectedAuthorityKey : PublicKey) (expectedCheckpointDigest : Digest) :
    PveCentralReplayResult :=
  match decodePveReplayBundle bundleBytes with
  | .error reason => .replayRefused (.wireReplayRefused reason)
  | .ok bundle =>
    match openDecodedPveReplayBundle arith hasher verifier bundle expectedSessionId expectedAuthorityKey
      expectedCheckpointDigest with
    | .error reason => .replayRefused reason
    | .ok opened =>
      let resolution := opened.resolution
      let replayMatch := resolution.replayMatch
      .replayVerified
        { sessionId := expectedSessionId
          checkpointDigest := replayMatch.checkpointDigest
          authorityKey := replayMatch.authorityKey
          epoch := opened.checkpoint.checkpoint.epoch
          cleared := resolution.candidate.cleared
          acceptedDodges := resolution.candidate.acceptedDodges
          survivors := resolution.candidate.survivors
          defeated := resolution.candidate.defeated
          playerStates := resolution.candidate.playerStates
          replayedAssets := opened.assetReceipts.length }

end

def PveReplayAttackTranscript.authenticated (transcript : PveReplayAttackTranscript) : DungeonAttackTranscript where
  attackId := transcript.attackId
  telegraph := authenticatedEvent transcript.telegraph
  dodgeEvidence := transcript.dodgeEvidence.map fun evidence =>
    { input := authenticatedEvent evidence.input, receipt := authenticatedEvent evidence.receipt
      intent := evidence.intent, observed := evidence.observed }

/-- After a complete graph no look-up fails: the transcripts that are replayed are those of the bundle. -/
theorem authenticatedPveTranscripts_eq (complete : ∀ signed ∈ pveSignedEvents bundle,
      authenticated.get signed.digest.text = some (authenticatedEvent signed)) :
    authenticatedPveTranscripts bundle authenticated = .ok (bundle.transcripts.map (·.authenticated)) := by
  refine mapM_eq_map fun transcript member => ?_
  have events : ∀ signed ∈ transcript.telegraph ::
      transcript.dodgeEvidence.flatMap (fun evidence => [evidence.input, evidence.receipt]),
      authenticated.get signed.digest.text = some (authenticatedEvent signed) := by
    intro signed inTranscript
    exact complete signed (mem_append_left _ (mem_flatMap.mpr ⟨transcript, member, inTranscript⟩))
  have dodges : transcript.dodgeEvidence.mapM (authenticatedPveDodge authenticated) =
      .ok transcript.authenticated.dodgeEvidence := by
    refine mapM_eq_map fun evidence inEvidence => ?_
    have input := events evidence.input
      (mem_cons_of_mem _ (mem_flatMap.mpr ⟨evidence, inEvidence, mem_cons_self⟩))
    have receipt := events evidence.receipt
      (mem_cons_of_mem _ (mem_flatMap.mpr ⟨evidence, inEvidence, by simp⟩))
    refine given_bind.mpr ⟨_, input, given_bind.mpr ⟨_, receipt, rfl⟩⟩
  exact given_bind.mpr ⟨_, (events _ mem_cons_self), bind_ok.mpr ⟨_, dodges, rfl⟩⟩

/-- The item is the loot of a survivor of a cleared encounter. -/
def IsLoot (candidate : DungeonEncounterCandidate) (item : ItemReceipt) : Prop :=
  candidate.cleared = true ∧ item.recipientId ∈ candidate.survivors ∧
    item.assetId = dungeonEncounterLootAssetId candidate.session candidate.encounterId item.recipientId

theorem replayAssetEffects_loot {resolution : DungeonEncounterResolution}
    (replayed : replayAssetEffects ⟨sessionId, resolution.lootKernel.kernel⟩ authenticated index declared = .ok effects) :
    ∀ effect ∈ effects, IsLoot resolution.candidate effect.1 := by
  induction declared generalizing index effects with
  | nil =>
    cases replayed
    intro effect member
    cases member
  | cons evidence rest ih =>
    obtain ⟨source, found, replayed⟩ := bind_ok.mp replayed
    obtain ⟨capability, accepted, replayed⟩ := bind_ok.mp replayed
    obtain ⟨receipt, created, replayed⟩ := given_bind.mp replayed
    obtain ⟨later, others, replayed⟩ := bind_ok.mp replayed
    cases replayed
    have loot : IsLoot resolution.candidate receipt := by
      split at accepted
      · rename_i kernelAccepted
        obtain ⟨_, accepts⟩ := ReplayEngine.replay_replayed kernelAccepted
        obtain ⟨recipientId, ⟨cleared, survived⟩, declares⟩ := resolution.lootKernel_replay accepts
        rw [declares, deterministicEncounterLootEffect, pveItemReceipt, Option.some.injEq] at created
        rw [← created]
        exact ⟨cleared, survived, rfl⟩
      · cases accepted
    intro effect member
    rcases mem_cons.mp member with rfl | inLater
    · exact loot
    · exact ih others effect inLater

theorem openPveAssetReceipts_ok
    (passed : openPveAssetReceipts hasher bundle authenticated checkpoint resolution sessionId = .ok opened) :
    ∃ items : List ItemReceipt, items.length = opened.length ∧ (items.map ItemReceipt.assetId).Nodup ∧
      (MerkleTree.build hasher (items.map serializeItemReceipt)).root = checkpoint.checkpoint.assetDeltaRoot ∧
      ∀ item ∈ items, IsLoot resolution.candidate item := by
  obtain ⟨effects, replayed, passed⟩ := bind_ok.mp passed
  obtain ⟨batch, batched, passed⟩ := bind_ok.mp passed
  obtain ⟨rooted, passed⟩ := require_bind.mp passed
  have built : buildReceiptBatch hasher (effects.map Prod.fst) = .built batch := by
    split at batched
    · rename_i built
      rw [built, Except.ok.inj batched]
    · cases batched
  obtain ⟨receipts, root⟩ := buildReceiptBatch_built built
  refine ⟨effects.map Prod.fst, ?_, ?_, root ▸ rooted, ?_⟩
  · have lengths := (mapM_ok.mp passed).length_eq
    simpa [receipts] using lengths
  · exact receipts ▸ batch.assets_distinct
  · intro item member
    obtain ⟨effect, inEffects, rfl⟩ := mem_map.mp member
    exact replayAssetEffects_loot replayed effect inEffects

section
variable [StrOrder] [DoubleFormat]

structure PveAccepted (arith : Arithmetic) (hasher : Hasher) (verifier : Verifier) (bundle : PveReplayBundle)
    (sessionId : Str) (authorityKey : PublicKey) (candidate : DungeonEncounterCandidate) (items : List ItemReceipt) :
    Prop where
  signed : verifyCheckpoint hasher verifier authorityKey bundle.signedCheckpoint = .verified
  prepared : prepareDungeonEncounter arith hasher sessionId authorityKey bundle.config bundle.players bundle.attacks
    (bundle.transcripts.map (·.authenticated)) = .candidateReady candidate
  stateRoot : bundle.signedCheckpoint.checkpoint.publicStateRoot = candidate.publicStateRoot
  assetRoot : (MerkleTree.build hasher (items.map serializeItemReceipt)).root =
    bundle.signedCheckpoint.checkpoint.assetDeltaRoot
  assets : (items.map ItemReceipt.assetId).Nodup
  loot : ∀ item ∈ items, IsLoot candidate item

theorem openDecodedPveReplayBundle_ok
    (passed : openDecodedPveReplayBundle arith hasher verifier bundle sessionId authorityKey digest = .ok opened) :
    bundle.signedCheckpoint.digest = digest ∧ opened.checkpoint = ⟨bundle.signedCheckpoint⟩ ∧
      opened.resolution.checkpointDigest = digest ∧
      ∃ items, items.length = opened.assetReceipts.length ∧
        PveAccepted arith hasher verifier bundle sessionId authorityKey opened.resolution.candidate items := by
  simp only [openDecodedPveReplayBundle, bind_ok, require_ok] at passed
  obtain ⟨_, _, _, _, _, expected, _, _, checkpoint, opens, authenticated, graph, transcripts, replays, candidate, prepares,
    resolution, finalizes, receipts, assets, ⟨⟩⟩ := passed
  rw [authenticatedPveTranscripts_eq (authenticateEventGraph_ok graph)] at replays
  cases replays
  split at opens
  · rename_i verified
    cases opens
    obtain ⟨rfl, signed, _⟩ := openCheckpoint_opened verified
    split at prepares
    · rename_i prepared
      cases prepares
      split at finalizes
      · rename_i finalized
        cases finalizes
        simp (disch := simp) only [finalizeDungeonEncounter, Lib.passes, ne_eq, not_not] at finalized
        obtain ⟨_, _, _, _, stateRoot, finalized⟩ := finalized
        cases finalized
        obtain ⟨items, lengths, distinct, assetRoot, loot⟩ := openPveAssetReceipts_ok assets
        exact ⟨expected, rfl, expected, items, lengths, signed, prepared, stateRoot, assetRoot, distinct, loot⟩
      · cases finalizes
    · cases prepares
  · cases opens

theorem verifyPveReplayBundle_verified
    (verified : verifyPveReplayBundle arith hasher verifier decode bytes sessionId authorityKey digest =
      .replayVerified summary) :
    ∃ bundle candidate items, decode bytes = .ok bundle ∧ bundle.signedCheckpoint.digest = digest ∧
      PveAccepted arith hasher verifier bundle sessionId authorityKey candidate items ∧
      summary =
        { sessionId, checkpointDigest := digest, authorityKey := candidate.authority
          epoch := bundle.signedCheckpoint.checkpoint.epoch
          cleared := candidate.cleared
          acceptedDodges := candidate.acceptedDodges
          survivors := candidate.survivors
          defeated := candidate.defeated
          playerStates := candidate.playerStates
          replayedAssets := items.length } := by
  unfold verifyPveReplayBundle at verified
  split at verified
  · cases verified
  rename_i bundle decoded
  split at verified
  · cases verified
  rename_i opened passed
  obtain ⟨expected, checkpoint, resolved, items, lengths, accepted⟩ := openDecodedPveReplayBundle_ok passed
  refine ⟨bundle, opened.resolution.candidate, items, decoded, expected, accepted, ?_⟩
  rw [← PveCentralReplayResult.replayVerified.inj verified, checkpoint, lengths]
  simp only [DungeonEncounterResolution.replayMatch, resolved]
  rfl

end

end ConvergeAudit.Central
