import ConvergeAudit.Central.PveReplay
import ConvergeAudit.Replay.PvpCheckpoint

/-!
`central_replay/pvp_replay.mbt`: as for PvE, and the replayed epoch must also be certified by its witnesses. The
decoder is a parameter.
-/

namespace ConvergeAudit.Central
open Moon Bft Game Replay Lib.Fallible

section
variable (bundle : PvpReplayBundle) (authenticated : Map Str AuthenticatedEvent)

structure PvpReplayCommandEvidence where
  input : SignedEvent
  receipt : SignedEvent
  intent : PvpCommandIntent
  observed : PvpCommandReceipt

structure PvpReplayBundle where
  refereePeerId : Str
  signedCheckpoint : SignedCheckpoint
  config : PvpEpochConfig
  teams : List PvpTeam
  players : List PvpPlayer
  witnesses : List Participant
  maxFaults : ℤ
  commands : List PvpReplayCommandEvidence
  attestations : List SignedAttestation

inductive PvpReplayWireError where
  | pvpWireInputTooLarge (actual limit : ℤ)
  | pvpWireTeamsTooMany (actual limit : ℤ)
  | pvpWirePlayersTooMany (actual limit : ℤ)
  | pvpWireWitnessesTooMany (actual limit : ℤ)
  | pvpWireCommandsTooMany (actual limit : ℤ)
  | pvpWireAttestationsTooMany (actual limit : ℤ)
  | pvpWireUnsupportedVersion (version : ℤ)
  | pvpWireNonCanonicalEncoding
  | pvpWireMalformedCbor
  | pvpWireCodecRefused (reason : PveReplayWireError)

inductive PvpCentralReplayRefusal where
  | pvpWireReplayRefused (reason : PvpReplayWireError)
  | pvpExpectedSessionMismatch
  | pvpExpectedRefereeMismatch
  | pvpExpectedCheckpointMismatch
  | pvpInvalidRefereePeer
  | pvpInvalidRosterBoundary
  | pvpDuplicateEventDigest (digest : Str)
  | pvpEventAuthenticationRefused (digest : Str)
  | pvpIncompleteEventGraph
  | pvpCheckpointAuthenticationRefused (reason : CheckpointVerification)
  | pvpEpochReplayRefused (reason : PvpEpochRefusal)
  | pvpWitnessSessionRefused (reason : PvpReplayWitnessSessionRefusal)
  | pvpWitnessEvidenceRefused (kind : EvidenceAlertKind)
  | pvpWitnessCheckpointMismatch
  | pvpWitnessRefereeMismatch
  | pvpWitnessQuorumPending (actual required : ℤ)

structure PvpCentralReplayVerified where
  sessionId : Str
  checkpointDigest : Digest
  refereeKey : PublicKey
  epoch : ℤ
  acceptedCommands : ℤ
  approvalCount : ℤ
  requiredApprovals : ℤ
  playerStates : List PvpPlayerState
  teamStates : List PvpTeamState
  equivocators : List Str

inductive PvpCentralReplayResult where
  | pvpReplayVerified (summary : PvpCentralReplayVerified)
  | pvpReplayRefused (reason : PvpCentralReplayRefusal)

def pvpSignedEvents : List SignedEvent :=
  bundle.commands.flatMap fun command => [command.input, command.receipt]

def pvpGraphRefusals : GraphRefusals PvpCentralReplayRefusal where
  invalidRosterBoundary := .pvpInvalidRosterBoundary
  duplicateEventDigest := .pvpDuplicateEventDigest
  eventAuthenticationRefused := .pvpEventAuthenticationRefused
  incompleteEventGraph := .pvpIncompleteEventGraph

def authenticatePvpEventGraph [StrOrder] [DoubleFormat] (hasher : Hasher) (verifier : Verifier) (bundle : PvpReplayBundle)
    (expectedSessionId : Str) (expectedRefereeKey : PublicKey) :
    Except PvpCentralReplayRefusal (Map Str AuthenticatedEvent) :=
  authenticateEventGraph pvpGraphRefusals hasher verifier expectedSessionId bundle.refereePeerId expectedRefereeKey
    (bundle.players.map fun player => (player.playerId, player.publicKey)) (pvpSignedEvents bundle)

def authenticatedPvpCommand (command : PvpReplayCommandEvidence) :
    Except PvpCentralReplayRefusal PvpCommandEvidence := do
  let input ← given (authenticated.get command.input.digest.text) .pvpIncompleteEventGraph
  let receipt ← given (authenticated.get command.receipt.digest.text) .pvpIncompleteEventGraph
  return { input, receipt, intent := command.intent, observed := command.observed }

def authenticatedPvpCommands : Except PvpCentralReplayRefusal (List PvpCommandEvidence) :=
  bundle.commands.mapM (authenticatedPvpCommand authenticated)

def deliverWitnessEvidence (session : PvpReplayWitnessSession) (signed : SignedAttestation) :
    Except PvpCentralReplayRefusal PvpReplayWitnessSession :=
  match session.deliver signed with
  | (session, .accepted) => .ok session
  | (session, .duplicate) => .ok session
  | (_, .rejected alert) => .error (.pvpWitnessEvidenceRefused alert.kind)

end

section
variable [StrOrder] [DoubleFormat]

def openDecodedPvpReplayBundle (arith : Arithmetic) (hasher : Hasher) (verifier : Verifier) (bundle : PvpReplayBundle)
    (expectedSessionId : Str) (expectedRefereeKey : PublicKey) (expectedCheckpointDigest : Digest) :
    Except PvpCentralReplayRefusal PvpCentralReplayVerified := do
  let signedCheckpoint := bundle.signedCheckpoint
  require (signedCheckpoint.checkpoint.sessionId = expectedSessionId) .pvpExpectedSessionMismatch
  require (signedCheckpoint.authorityKey = expectedRefereeKey) .pvpExpectedRefereeMismatch
  require (signedCheckpoint.digest = expectedCheckpointDigest) .pvpExpectedCheckpointMismatch
  require (bundle.refereePeerId ≠ Str.empty) .pvpInvalidRefereePeer
  let checkpoint ← (match openCheckpoint hasher verifier expectedRefereeKey signedCheckpoint with
    | .opened checkpoint => .ok checkpoint
    | .refused reason => .error (.pvpCheckpointAuthenticationRefused reason))
  let authenticated ← authenticatePvpEventGraph hasher verifier bundle expectedSessionId expectedRefereeKey
  let commands ← authenticatedPvpCommands bundle authenticated
  -- the bundle has no cooldown and no objective
  let candidate ← (match preparePvpEpoch arith hasher expectedSessionId expectedRefereeKey bundle.config bundle.teams
      bundle.players commands bundle.witnesses bundle.maxFaults 0 none with
    | .pvpCandidateReady candidate => .ok candidate
    | .pvpCandidateRefused reason => .error (.pvpEpochReplayRefused reason))
  let resolution ← (match finalizePvpEpoch candidate checkpoint with
    | .pvpEpochFinalized resolution => .ok resolution
    | .pvpFinalizeRefused reason => .error (.pvpEpochReplayRefused reason))
  let prepared := prepareCheckpoint hasher signedCheckpoint.checkpoint
  let witnessSession ← (match preparePvpReplayWitnessSession arith hasher verifier prepared resolution expectedRefereeKey
      bundle.witnesses bundle.maxFaults with
    | .pvpWitnessSessionReady session => .ok session
    | .pvpWitnessSessionRefused reason => .error (.pvpWitnessSessionRefused reason))
  let witnessSession ← bundle.attestations.foldlM deliverWitnessEvidence witnessSession
  match witnessSession.certify arith checkpoint with
  | .witnessCertified certificate =>
    return {
      sessionId := expectedSessionId
      checkpointDigest := certificate.checkpointDigest
      refereeKey := certificate.refereeKey
      epoch := signedCheckpoint.checkpoint.epoch
      acceptedCommands := resolution.candidate.acceptedCommands
      approvalCount := certificate.approvalCount
      requiredApprovals := certificate.requiredApprovals arith
      playerStates := resolution.candidate.playerStates
      teamStates := resolution.candidate.teamStates
      equivocators := resolution.candidate.equivocators }
  | .witnessCheckpointMismatch => throw .pvpWitnessCheckpointMismatch
  | .witnessRefereeMismatch => throw .pvpWitnessRefereeMismatch
  | .witnessQuorumPending actual required => throw (.pvpWitnessQuorumPending actual required)

def verifyPvpReplayBundle (arith : Arithmetic) (hasher : Hasher) (verifier : Verifier)
    (decodePvpReplayBundle : List UInt8 → Except PvpReplayWireError PvpReplayBundle) (bundleBytes : List UInt8)
    (expectedSessionId : Str) (expectedRefereeKey : PublicKey) (expectedCheckpointDigest : Digest) :
    PvpCentralReplayResult :=
  match decodePvpReplayBundle bundleBytes with
  | .error reason => .pvpReplayRefused (.pvpWireReplayRefused reason)
  | .ok bundle =>
    match openDecodedPvpReplayBundle arith hasher verifier bundle expectedSessionId expectedRefereeKey
      expectedCheckpointDigest with
    | .error reason => .pvpReplayRefused reason
    | .ok summary => .pvpReplayVerified summary

end

def PvpReplayCommandEvidence.authenticated (command : PvpReplayCommandEvidence) : PvpCommandEvidence where
  input := authenticatedEvent command.input
  receipt := authenticatedEvent command.receipt
  intent := command.intent
  observed := command.observed

theorem authenticatedPvpCommands_eq (complete : ∀ signed ∈ pvpSignedEvents bundle,
      authenticated.get signed.digest.text = some (authenticatedEvent signed)) :
    authenticatedPvpCommands bundle authenticated = .ok (bundle.commands.map (·.authenticated)) := by
  refine mapM_eq_map fun command member => ?_
  have input := complete command.input (List.mem_flatMap.mpr ⟨command, member, List.mem_cons_self⟩)
  have receipt := complete command.receipt (List.mem_flatMap.mpr ⟨command, member, by simp⟩)
  exact given_bind.mpr ⟨_, input, given_bind.mpr ⟨_, receipt, rfl⟩⟩

section
variable [StrOrder] [DoubleFormat]

structure PvpAccepted (arith : Arithmetic) (hasher : Hasher) (verifier : Verifier) (bundle : PvpReplayBundle)
    (sessionId : Str) (refereeKey : PublicKey) (candidate : PvpEpochCandidate) : Prop where
  signed : verifyCheckpoint hasher verifier refereeKey bundle.signedCheckpoint = .verified
  prepared : preparePvpEpoch arith hasher sessionId refereeKey bundle.config bundle.teams bundle.players
    (bundle.commands.map (·.authenticated)) bundle.witnesses bundle.maxFaults 0 none = .pvpCandidateReady candidate
  stateRoot : bundle.signedCheckpoint.checkpoint.publicStateRoot = candidate.publicStateRoot

theorem openDecodedPvpReplayBundle_ok
    (passed : openDecodedPvpReplayBundle arith hasher verifier bundle sessionId refereeKey digest = .ok summary) :
    bundle.signedCheckpoint.digest = digest ∧ ∃ candidate,
      PvpAccepted arith hasher verifier bundle sessionId refereeKey candidate ∧
      summary.epoch = bundle.signedCheckpoint.checkpoint.epoch ∧
      summary.acceptedCommands = candidate.acceptedCommands ∧ summary.playerStates = candidate.playerStates ∧
      summary.teamStates = candidate.teamStates ∧ summary.equivocators = candidate.equivocators := by
  simp only [openDecodedPvpReplayBundle, bind_ok, require_ok] at passed
  obtain ⟨_, _, _, _, _, expected, _, _, checkpoint, opens, authenticated, graph, commands, replays, candidate, prepares,
    resolution, finalizes, _, _, _, _, passed⟩ := passed
  rw [authenticatedPvpCommands_eq (authenticateEventGraph_ok graph)] at replays
  cases replays
  split at opens
  · rename_i verified
    cases opens
    obtain ⟨rfl, signed, _⟩ := openCheckpoint_opened verified
    split at prepares
    · rename_i prepared
      cases prepares
      split at finalizes
      · rename_i finalized
        cases finalizes
        simp (disch := simp) only [finalizePvpEpoch, Lib.passes, ne_eq, not_not] at finalized
        obtain ⟨_, _, _, _, _, _, stateRoot, _, _, finalized⟩ := finalized
        cases finalized
        refine ⟨expected, candidate, ⟨signed, prepared, stateRoot⟩, ?_⟩
        split at passed
        · cases passed
          exact ⟨rfl, rfl, rfl, rfl, rfl⟩
        all_goals cases passed
      · cases finalizes
    · cases prepares
  · cases opens

theorem verifyPvpReplayBundle_verified
    (verified : verifyPvpReplayBundle arith hasher verifier decode bytes sessionId refereeKey digest =
      .pvpReplayVerified summary) :
    ∃ bundle candidate, bundle.signedCheckpoint.digest = digest ∧
      PvpAccepted arith hasher verifier bundle sessionId refereeKey candidate ∧
      summary.epoch = bundle.signedCheckpoint.checkpoint.epoch ∧
      summary.acceptedCommands = candidate.acceptedCommands ∧ summary.playerStates = candidate.playerStates ∧
      summary.teamStates = candidate.teamStates ∧ summary.equivocators = candidate.equivocators := by
  unfold verifyPvpReplayBundle at verified
  split at verified
  · cases verified
  rename_i bundle decoded
  split at verified
  · cases verified
  rename_i opened passed
  cases verified
  obtain ⟨expected, candidate, accepted, outcome⟩ := openDecodedPvpReplayBundle_ok passed
  exact ⟨bundle, candidate, expected, accepted, outcome⟩

end

end ConvergeAudit.Central
