import ConvergeAudit.Central.PvpReplay
import ConvergeAudit.Merkle.Inclusion

/-!
The central verifiers are given a session, a key and a checkpoint digest. Whatever bundle they then accept, the
outcome that they report is the one that the checkpoint commits to.
-/

namespace ConvergeAudit.Central
open Moon Bft Merkle Game Market Replay ItemReceipt

variable {items : List ItemReceipt}

theorem receipts_eq_of_root (injective : hasher.CollisionFree)
    (same : (MerkleTree.build hasher (items.map serializeItemReceipt)).root =
      (MerkleTree.build hasher (others.map serializeItemReceipt)).root) : items = others :=
  List.map_injective_iff.mpr serializeItemReceipt_injective (root_injective injective same)

theorem recipients_nodup (assets : (items.map assetId).Nodup)
    (loot : ∀ item ∈ items, IsLoot candidate item) : (items.map recipientId).Nodup := by
  have named : items.map assetId = (items.map recipientId).map
      (dungeonEncounterLootAssetId candidate.session candidate.encounterId) := by
    rw [List.map_map]
    refine List.map_congr_left fun item member => ?_
    rw [(loot item member).2.2, Function.comp_apply]
  rw [named] at assets
  exact List.Nodup.of_map _ assets

section
variable [StrOrder]

theorem PveAccepted.outcome_eq (injective : hasher.CollisionFree)
    (accepted : PveAccepted arith hasher verifier bundle sessionId authorityKey candidate items)
    (accepted' : PveAccepted arith hasher verifier' other sessionId authorityKey candidate' items')
    (same : bundle.signedCheckpoint.digest = other.signedCheckpoint.digest) :
    bundle.signedCheckpoint.checkpoint = other.signedCheckpoint.checkpoint ∧ items = items' ∧
      candidate.authority = candidate'.authority ∧ candidate.cleared = candidate'.cleared ∧
      candidate.acceptedDodges = candidate'.acceptedDodges ∧ candidate.playerStates = candidate'.playerStates ∧
      candidate.survivors = candidate'.survivors ∧ candidate.defeated = candidate'.defeated := by
  have checkpoints := verifyCheckpoint_inj injective accepted.signed accepted'.signed same
  obtain ⟨canonical, _, authority⟩ := prepareDungeonEncounter_canonical accepted.prepared
  obtain ⟨canonical', _, authority'⟩ := prepareDungeonEncounter_canonical accepted'.prepared
  have stateRoots : candidate.publicStateRoot = candidate'.publicStateRoot := by
    rw [← accepted.stateRoot, ← accepted'.stateRoot, checkpoints]
  have assetRoots := accepted.assetRoot.trans ((congrArg Checkpoint.assetDeltaRoot checkpoints).trans
    accepted'.assetRoot.symm)
  obtain ⟨cleared, dodges, states, survivors, defeated, _⟩ := canonical.outcome_eq injective canonical' stateRoots
  exact ⟨checkpoints, receipts_eq_of_root injective assetRoots, authority.trans authority'.symm, cleared, dodges, states,
    survivors, defeated⟩

theorem PvpAccepted.outcome_eq (injective : hasher.CollisionFree)
    (accepted : PvpAccepted arith hasher verifier bundle sessionId refereeKey candidate)
    (accepted' : PvpAccepted arith hasher verifier' other sessionId refereeKey candidate')
    (same : bundle.signedCheckpoint.digest = other.signedCheckpoint.digest) :
    bundle.signedCheckpoint.checkpoint = other.signedCheckpoint.checkpoint ∧
      candidate.acceptedCommands = candidate'.acceptedCommands ∧ candidate.playerStates = candidate'.playerStates ∧
      candidate.teamStates = candidate'.teamStates ∧ candidate.equivocators = candidate'.equivocators := by
  have checkpoints := verifyCheckpoint_inj injective accepted.signed accepted'.signed same
  have stateRoots : candidate.publicStateRoot = candidate'.publicStateRoot := by
    rw [← accepted.stateRoot, ← accepted'.stateRoot, checkpoints]
  exact ⟨checkpoints, (preparePvpEpoch_canonical accepted.prepared).outcome_eq injective
    (preparePvpEpoch_canonical accepted'.prepared) stateRoots⟩

end

/-- The verdict is a function of the checkpoint. Two accepted PvE bundles have one summary; two accepted PvP bundles have
one outcome; and the items that the checkpoint of an accepted PvE bundle commits to are loot of distinct survivors. The
decoders and the verifiers are arbitrary, and need not be the same in the two runs. -/
theorem central_replay_bound_to_checkpoint [StrOrder] [DoubleFormat] (arith : Arithmetic) (hasher : Hasher)
    (injective : hasher.CollisionFree) (sessionId : Str) (key : PublicKey) (digest : Digest) :
    (∀ verifier verifier' decode decode' bytes bytes' summary summary',
      verifyPveReplayBundle arith hasher verifier decode bytes sessionId key digest = .replayVerified summary →
      verifyPveReplayBundle arith hasher verifier' decode' bytes' sessionId key digest = .replayVerified summary' →
      summary = summary') ∧
    (∀ verifier verifier' decode decode' bytes bytes' summary summary',
      verifyPvpReplayBundle arith hasher verifier decode bytes sessionId key digest = .pvpReplayVerified summary →
      verifyPvpReplayBundle arith hasher verifier' decode' bytes' sessionId key digest = .pvpReplayVerified summary' →
      summary.epoch = summary'.epoch ∧ summary.acceptedCommands = summary'.acceptedCommands ∧
        summary.playerStates = summary'.playerStates ∧ summary.teamStates = summary'.teamStates ∧
        summary.equivocators = summary'.equivocators) ∧
    ∀ verifier decode bytes summary,
      verifyPveReplayBundle arith hasher verifier decode bytes sessionId key digest = .replayVerified summary →
      ∃ bundle items, decode bytes = .ok bundle ∧
        (∀ others : List ItemReceipt, (MerkleTree.build hasher (others.map serializeItemReceipt)).root =
          bundle.signedCheckpoint.checkpoint.assetDeltaRoot ↔ others = items) ∧
        items.length = summary.replayedAssets ∧ (items.map recipientId).Nodup ∧
        (∀ item ∈ items, summary.cleared = true ∧ item.recipientId ∈ summary.survivors) ∧
        (summary.cleared = false → items = []) := by
  refine ⟨?_, ?_, ?_⟩
  · intro verifier verifier' decode decode' bytes bytes' summary summary' verified verified'
    obtain ⟨bundle, candidate, items, _, expected, accepted, rfl⟩ := verifyPveReplayBundle_verified verified
    obtain ⟨other, candidate', items', _, expected', accepted', rfl⟩ := verifyPveReplayBundle_verified verified'
    obtain ⟨checkpoints, assets, authority, cleared, dodges, states, survivors, defeated⟩ :=
      accepted.outcome_eq injective accepted' (expected.trans expected'.symm)
    rw [checkpoints, assets, authority, cleared, dodges, states, survivors, defeated]
  · intro verifier verifier' decode decode' bytes bytes' summary summary' verified verified'
    obtain ⟨bundle, candidate, expected, accepted, epoch, commands, players, teams, equivocators⟩ :=
      verifyPvpReplayBundle_verified verified
    obtain ⟨other, candidate', expected', accepted', epoch', commands', players', teams', equivocators'⟩ :=
      verifyPvpReplayBundle_verified verified'
    obtain ⟨checkpoints, sameCommands, samePlayers, sameTeams, sameEquivocators⟩ :=
      accepted.outcome_eq injective accepted' (expected.trans expected'.symm)
    rw [epoch, epoch', commands, commands', players, players', teams, teams', equivocators, equivocators', checkpoints]
    exact ⟨rfl, sameCommands, samePlayers, sameTeams, sameEquivocators⟩
  · intro verifier decode bytes summary verified
    obtain ⟨bundle, candidate, items, decoded, _, accepted, rfl⟩ := verifyPveReplayBundle_verified verified
    refine ⟨bundle, items, decoded, ?_, rfl, recipients_nodup accepted.assets accepted.loot, ?_, ?_⟩
    · intro others
      rw [← accepted.assetRoot]
      exact ⟨receipts_eq_of_root injective, fun same => by rw [same]⟩
    · intro item member
      obtain ⟨cleared, survived, _⟩ := accepted.loot item member
      exact ⟨cleared, survived⟩
    · intro failed
      rw [List.eq_nil_iff_forall_not_mem]
      intro item member
      exact Bool.false_ne_true (failed.symm.trans (accepted.loot item member).1)

namespace BindingSample

section
open Shortlex DoubleBits

def signer (key : Str) : Signer := ⟨fun digest => ⟨digest.text⟩, ⟨key⟩⟩

def verifier : Verifier := ⟨fun _ _ _ => true⟩

def sign (key : Str) (event : Event) (depHashes : List Digest) : SignedEvent :=
  (AuditAdapter.new .marked verifier "s").sign (signer key) event depHashes

def attacks : List DungeonEncounterAttack := [⟨EncounterSample.attack, 10⟩]

def transcripts : List PveReplayAttackTranscript :=
  [⟨"a", sign "A" (makeDungeonTelegraphEvent ⟨"a"⟩ 0 0 [] EncounterSample.attack) [], []⟩]

def loot : AssetEffect := .create (dungeonEncounterLootAssetId "s" "e" "p") "p" "coin" 1 0

def lootSource : SignedEvent :=
  sign "A"
    { id := ⟨⟨"a"⟩, 1⟩, deps := [], lamport := 1
      op := .insert "converge.asset-effect.v1" (dungeonEncounterLootAssetId "s" "e" "p")
        [(lit "effect", .str (serializeAssetEffect loot))] } []

def item : ItemReceipt := ⟨dungeonEncounterLootAssetId "s" "e" "p", "p", "coin", 1, lootSource.digest, 0⟩

def checkpoint : Checkpoint where
  sessionId := "s"
  epoch := 3
  previousCheckpoint := ⟨"c"⟩
  manifestDigest := telegraphDungeonEncounterManifest .marked ⟨"A"⟩ EncounterSample.config
    EncounterSample.players attacks
  eventRoot := dungeonEncounterTranscriptRoot .marked (transcripts.map (·.authenticated))
  publicStateRoot := encounterPublicStateRoot .marked "s" "e" [⟨"q", 0, 0⟩, ⟨"p", 3, 10⟩] true 0 []
  assetDeltaRoot := (MerkleTree.build .marked [serializeItemReceipt item]).root
  hiddenStateCommitment := none

def bundle (signature : Str) : PveReplayBundle where
  authorityPeerId := "a"
  signedCheckpoint := { signCheckpoint .marked (signer "A") checkpoint with signature := ⟨signature⟩ }
  config := EncounterSample.config
  players := EncounterSample.players
  attacks := attacks
  transcripts := transcripts
  assetEffects := [⟨lootSource, loot⟩]

def digest : Digest := Hasher.marked.hashString (serializeCheckpoint checkpoint)

def decode : List UInt8 → Except PveReplayWireError PveReplayBundle
  | [] => .ok (bundle "")
  | _ => .ok (bundle "t")

def verdict (bytes : List UInt8) : PveCentralReplayResult :=
  verifyPveReplayBundle .int32 .marked verifier decode bytes "s" ⟨"A"⟩ digest

def isVerified : PveCentralReplayResult → Bool
  | .replayVerified _ => true
  | .replayRefused _ => false

theorem exists_summary (verified : isVerified result = true) : ∃ summary, result = .replayVerified summary := by
  cases result with
  | replayVerified summary => exact ⟨summary, rfl⟩
  | replayRefused reason => cases verified

def witnesses : List Participant := [⟨"w", ⟨"W"⟩⟩]

def strike : PvpReplayCommandEvidence :=
  let intent : PvpCommandIntent := ⟨"m", 0, ⟨"c"⟩, 0, "p", 0, some "q"⟩
  let input := sign "P" (makePvpCommandEvent ⟨"p"⟩ 0 1 [] intent) []
  let observed : PvpCommandReceipt := ⟨input.digest, 1⟩
  let receipt := sign "A" (makePvpCommandReceiptEvent ⟨"a"⟩ 0 2 [⟨⟨"p"⟩, 0⟩] observed) [input.digest]
  { input, receipt, intent, observed }

def duelCheckpoint : Checkpoint where
  sessionId := "s"
  epoch := 0
  previousCheckpoint := ⟨"c"⟩
  manifestDigest := replayWitnessSessionManifest .marked
    (pvpEpochGameManifest .marked "s" ⟨"A"⟩ PvpSample.config PvpSample.teams PvpSample.players 0 none) ⟨"A"⟩ witnesses 0
  eventRoot := pvpEpochTranscriptRoot .marked [strike.authenticated]
  publicStateRoot := pvpPublicStateRoot .marked "s" PvpSample.config [⟨"q", "blue", 1, 0⟩, ⟨"p", "red", 0, 10⟩]
    [⟨"red", 5⟩, ⟨"blue", 0⟩] [] [] 1 0 none
  assetDeltaRoot := pvpNoAssetDeltaRoot .marked "s" PvpSample.config
  hiddenStateCommitment := none

def duelDigest : Digest := Hasher.marked.hashString (serializeCheckpoint duelCheckpoint)

def approval : SignedAttestation :=
  let attestation : Attestation := ⟨duelDigest, "w", .replayWitness, .approve⟩
  ⟨attestation, Hasher.marked.hashString (serializeAttestation attestation), ⟨""⟩, ⟨"W"⟩⟩

def duelBundle : PvpReplayBundle where
  refereePeerId := "a"
  signedCheckpoint := signCheckpoint .marked (signer "A") duelCheckpoint
  config := PvpSample.config
  teams := PvpSample.teams
  players := PvpSample.players
  witnesses := witnesses
  maxFaults := 0
  commands := [strike]
  attestations := [approval]

def duelDecode : List UInt8 → Except PvpReplayWireError PvpReplayBundle := fun _ => .ok duelBundle

def duelVerdict (bytes : List UInt8) : PvpCentralReplayResult :=
  verifyPvpReplayBundle .int32 .marked verifier duelDecode bytes "s" ⟨"A"⟩ duelDigest

def isDuelVerified : PvpCentralReplayResult → Bool
  | .pvpReplayVerified _ => true
  | .pvpReplayRefused _ => false

theorem exists_duelSummary (verified : isDuelVerified result = true) :
    ∃ summary, result = .pvpReplayVerified summary := by
  cases result with
  | pvpReplayVerified summary => exact ⟨summary, rfl⟩
  | pvpReplayRefused reason => cases verified

end

end BindingSample

section
open Shortlex DoubleBits BindingSample

theorem central_replay_bound_to_checkpoint_two_runs :
    (∃ summary items, verdict [] = .replayVerified summary ∧ verdict [0] = .replayVerified summary ∧
      (items : List ItemReceipt).length = summary.replayedAssets ∧ (items.map recipientId).Nodup) ∧
    ∃ summary summary', duelVerdict [] = .pvpReplayVerified summary ∧ duelVerdict [0] = .pvpReplayVerified summary' ∧
      summary.teamStates = summary'.teamStates := by
  have runs : isVerified (verdict []) = true ∧ isVerified (verdict [0]) = true := by decide +kernel
  have duelRun : isDuelVerified (duelVerdict []) = true := by decide +kernel
  obtain ⟨summary, first⟩ := exists_summary runs.1
  obtain ⟨summary', second⟩ := exists_summary runs.2
  obtain ⟨duel, third⟩ := exists_duelSummary duelRun
  have fourth := third
  have encounters := central_replay_bound_to_checkpoint .int32 .marked Hasher.marked_collisionFree "s" ⟨"A"⟩ digest
  have duels := central_replay_bound_to_checkpoint .int32 .marked Hasher.marked_collisionFree "s" ⟨"A"⟩ duelDigest
  obtain rfl := encounters.1 _ _ _ _ _ _ _ _ first second
  obtain ⟨_, items, _, _, count, distinct, _⟩ := encounters.2.2 _ _ _ _ first
  obtain ⟨_, _, _, teams, _⟩ := duels.2.1 _ _ _ _ _ _ _ _ third fourth
  exact ⟨⟨summary, items, first, second, count, distinct⟩, duel, duel, third, fourth, teams⟩

end

end ConvergeAudit.Central
