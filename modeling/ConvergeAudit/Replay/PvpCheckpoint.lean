import ConvergeAudit.Replay.PvpAdmission

/-!
The end of `replay/pvp_epoch.mbt` and `pvp_session/session.mbt`: a candidate is finalized against the signed
checkpoint, and witnesses can only be collected for a finalized epoch.
-/

namespace ConvergeAudit.Replay
open Moon Bft Game

/-- A candidate whose roots a verified checkpoint has committed to. -/
structure PvpEpochResolution where
  candidate : PvpEpochCandidate
  checkpointDigest : Digest

inductive PvpEpochFinalizeResult where
  | pvpEpochFinalized (resolution : PvpEpochResolution)
  | pvpFinalizeRefused (reason : PvpEpochRefusal)

def finalizePvpEpoch (candidate : PvpEpochCandidate) (checkpoint : VerifiedCheckpoint) : PvpEpochFinalizeResult :=
  let committed := checkpoint.checkpoint
  if checkpoint.authorityKey ≠ candidate.referee then .pvpFinalizeRefused .checkpointRefereeMismatch
  else if committed.sessionId ≠ candidate.session then .pvpFinalizeRefused .checkpointSessionMismatch
  else if committed.epoch ≠ candidate.config.epoch then .pvpFinalizeRefused .checkpointEpochMismatch
  else if committed.previousCheckpoint ≠ candidate.config.previousCheckpoint then
    .pvpFinalizeRefused .checkpointParentMismatch
  else if committed.manifestDigest ≠ candidate.manifest then .pvpFinalizeRefused .checkpointManifestMismatch
  else if committed.eventRoot ≠ candidate.eventRoot then .pvpFinalizeRefused .checkpointEventRootMismatch
  else if committed.publicStateRoot ≠ candidate.publicStateRoot then
    .pvpFinalizeRefused .checkpointPublicStateRootMismatch
  else if committed.assetDeltaRoot ≠ candidate.assetDeltaRoot then .pvpFinalizeRefused .checkpointAssetDeltaRootMismatch
  else if committed.hiddenStateCommitment.isSome then .pvpFinalizeRefused .checkpointHiddenStatePresent
  else .pvpEpochFinalized ⟨candidate, checkpoint.digest⟩

variable {candidate : PvpEpochCandidate}

def PvpEpochResolution.replayMatch (self : PvpEpochResolution) : CheckpointReplayMatch where
  checkpointDigest := self.checkpointDigest
  authorityKey := self.candidate.referee

/-- A collector for the checkpoint of one finalized epoch. -/
structure PvpReplayWitnessSession where
  collector : ReplayWitnessCollector

inductive PvpReplayWitnessSessionRefusal where
  | replayCheckpointMismatch
  | replayRefereeMismatch
  | invalidGameManifest
  | invalidRefereeKey
  | invalidWitnessPolicy
  | invalidWitnessRoster
  | refereeIsWitness
  | witnessManifestMismatch

inductive PvpReplayWitnessSessionBuildResult where
  | pvpWitnessSessionReady (session : PvpReplayWitnessSession)
  | pvpWitnessSessionRefused (reason : PvpReplayWitnessSessionRefusal)

def mapCollectorRefusal : ReplayWitnessCollectorBuildResult → PvpReplayWitnessSessionBuildResult
  | .witnessCollectorReady collector => .pvpWitnessSessionReady ⟨collector⟩
  | .invalidGameManifest => .pvpWitnessSessionRefused .invalidGameManifest
  | .invalidRefereeKey => .pvpWitnessSessionRefused .invalidRefereeKey
  | .invalidWitnessPolicy => .pvpWitnessSessionRefused .invalidWitnessPolicy
  | .invalidWitnessRoster => .pvpWitnessSessionRefused .invalidWitnessRoster
  | .refereeIsWitness => .pvpWitnessSessionRefused .refereeIsWitness
  | .witnessManifestMismatch => .pvpWitnessSessionRefused .witnessManifestMismatch

def preparePvpReplayWitnessSession [StrOrder] (arith : Arithmetic) (hasher : Hasher) (verifier : Verifier)
    (checkpoint : PreparedCheckpoint) (resolution : PvpEpochResolution) (refereeKey : PublicKey)
    (witnesses : List Participant) (maxFaults : ℤ) : PvpReplayWitnessSessionBuildResult :=
  let replayMatch := resolution.replayMatch
  if replayMatch.checkpointDigest ≠ checkpoint.digest then .pvpWitnessSessionRefused .replayCheckpointMismatch
  else if replayMatch.authorityKey ≠ refereeKey then .pvpWitnessSessionRefused .replayRefereeMismatch
  else
    mapCollectorRefusal (ReplayWitnessCollector.new arith hasher verifier checkpoint resolution.candidate.gameManifest
      refereeKey witnesses maxFaults)

namespace PvpReplayWitnessSession

def deliver (self : PvpReplayWitnessSession) (signed : SignedAttestation) :
    PvpReplayWitnessSession × EvidenceDeliveryResult :=
  let delivery := self.collector.deliver signed
  (⟨delivery.1⟩, delivery.2)

def certify (arith : Arithmetic) (self : PvpReplayWitnessSession) (checkpoint : VerifiedCheckpoint) :
    ReplayWitnessCertificationResult :=
  self.collector.certify arith checkpoint

end PvpReplayWitnessSession

theorem pvpPlayerStateFields_injective : Function.Injective pvpPlayerStateFields := by
  rintro ⟨id, team, position, hp⟩ ⟨id', team', position', hp'⟩ same
  simp only [pvpPlayerStateFields, List.cons.injEq, Str.ofInt_inj, and_true] at same
  obtain ⟨rfl, rfl, rfl, rfl⟩ := same
  rfl

theorem pvpTeamStateFields_injective : Function.Injective pvpTeamStateFields := by
  rintro ⟨id, score⟩ ⟨id', score'⟩ same
  simp only [pvpTeamStateFields, List.cons.injEq, Str.ofInt_inj, and_true] at same
  obtain ⟨rfl, rfl⟩ := same
  rfl

section
variable [StrOrder]

/-- A candidate of which the public state root tells everything: the arrays are in the order that the root sorts them
to. -/
structure PvpEpochCandidate.Canonical (hasher : Hasher) (candidate : PvpEpochCandidate) : Prop where
  root : ∃ attackCooldownTicks objectiveRule, candidate.publicStateRoot =
    pvpPublicStateRoot hasher candidate.session candidate.config candidate.playerStates candidate.teamStates
      candidate.equivocators candidate.cooldownViolators candidate.acceptedCommands attackCooldownTicks objectiveRule
  players_sorted : sortBy (fun left right => compare right.playerId left.playerId) candidate.playerStates =
    candidate.playerStates
  teams_sorted : sortBy (fun left right => compare right.teamId left.teamId) candidate.teamStates = candidate.teamStates
  equivocators_sorted : sortBy (fun left right => compare right left) candidate.equivocators = candidate.equivocators

theorem preparePvpEpoch_canonical
    (ready : preparePvpEpoch arith hasher sessionId refereeKey config teams players transcript witnesses maxFaults
      attackCooldownTicks objectiveRule = .pvpCandidateReady candidate) :
    candidate.Canonical hasher := by
  obtain ⟨_, teamsById, playersById, index, _, _, _, _, _, _, rfl⟩ := preparePvpEpoch_ready_iff.mp ready
  have sortedPlayers := pairwise_sortBy (fun left right : PvpPlayer => compare right.playerId left.playerId) players
  have sortedTeams := pairwise_sortBy (fun left right : PvpTeam => compare right.teamId left.teamId) teams
  refine ⟨⟨_, _, rfl⟩, ?_, ?_, ?_⟩
  · exact sortBy_desc_map (fun _ => rfl) sortedPlayers
  · exact sortBy_desc_map (fun _ => rfl) sortedTeams
  · exact sortBy_desc_map_key (sortedPlayers.filter _)

theorem PvpEpochCandidate.Canonical.outcome_eq (injective : hasher.CollisionFree) {other : PvpEpochCandidate}
    (canonical : candidate.Canonical hasher) (canonical' : other.Canonical hasher)
    (same : candidate.publicStateRoot = other.publicStateRoot) :
    candidate.acceptedCommands = other.acceptedCommands ∧ candidate.playerStates = other.playerStates ∧
      candidate.teamStates = other.teamStates ∧ candidate.equivocators = other.equivocators := by
  obtain ⟨_, _, root⟩ := canonical.root
  obtain ⟨_, _, root'⟩ := canonical'.root
  rw [root, root'] at same
  have values := foldl_appendField_inj (injective same)
  simp only [List.append_assoc, List.cons_append, List.nil_append, List.cons.injEq] at values
  obtain ⟨_, _, _, _, commands, counts, later⟩ := values
  obtain ⟨players, later⟩ := counted_append_inj pvpPlayerStateFields_injective (fun _ _ => rfl) counts later
  obtain ⟨counts, later⟩ := List.cons.inj later
  obtain ⟨teams, later⟩ := counted_append_inj pvpTeamStateFields_injective (fun _ _ => rfl) counts later
  obtain ⟨marked, later⟩ := List.cons.inj later
  have equivocators := (List.append_inj later (Int.ofNat.inj (Str.ofInt_injective marked))).1
  rw [canonical.players_sorted, canonical'.players_sorted] at players
  rw [canonical.teams_sorted, canonical'.teams_sorted] at teams
  rw [canonical.equivocators_sorted, canonical'.equivocators_sorted] at equivocators
  exact ⟨Str.ofInt_injective commands, players, teams, equivocators⟩

end

end ConvergeAudit.Replay
