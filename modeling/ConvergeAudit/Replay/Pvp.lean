import ConvergeAudit.Game.ReplayWitness
import ConvergeAudit.Replay.Encounter
import ConvergeAudit.Replay.Slots

/-!
`replay/pvp_epoch.mbt` and the decisions of `audit/pvp_epoch.mbt`. In a tick everybody moves, then
everybody strikes, then the objective is scored.
-/

namespace ConvergeAudit.Replay
open Moon Bft Merkle Game

section
variable (peer : PeerId) (counter lamport : ℤ) (deps : List EventId) (sessionId : Str) (intent : PvpCommandIntent)
  (arith : Arithmetic) (refereeKey : PublicKey) (config : PvpEpochConfig)

structure PvpEpochConfig where
  matchId : Str
  epoch : ℤ
  previousCheckpoint : Digest
  playerMaxHp : ℤ
  ticksPerEpoch : ℤ
  maxLateTicks : ℤ
  maxMoveDistance : ℤ
  arenaMinX : ℤ
  arenaMaxX : ℤ
  attackRange : ℤ
  attackDamage : ℤ
  scorePerElimination : ℤ
  deriving DecidableEq

structure PvpTeam where
  teamId : Str
  initialScore : ℤ

structure PvpPlayer where
  playerId : Str
  publicKey : PublicKey
  teamId : Str
  initialX : ℤ
  initialHp : ℤ

structure PvpCommandIntent where
  matchId : Str
  epoch : ℤ
  baseCheckpointDigest : Digest
  tick : ℤ
  playerId : Str
  moveToX : ℤ
  attackTargetId : Option Str

structure PvpCommandReceipt where
  commandDigest : Digest
  receivedTick : ℤ

@[ext] structure PvpCommandEvidence where
  input : AuthenticatedEvent
  receipt : AuthenticatedEvent
  intent : PvpCommandIntent
  observed : PvpCommandReceipt

structure PvpPlayerState where
  playerId : Str
  teamId : Str
  positionX : ℤ
  hp : ℤ
  deriving DecidableEq

structure PvpTeamState where
  teamId : Str
  score : ℤ
  deriving DecidableEq

structure PvpObjectiveRule where
  centerX : ℤ
  radius : ℤ
  scorePerTick : ℤ

inductive PvpEpochRefusal where
  | invalidEpochConfiguration
  | invalidTeamRoster
  | invalidPlayerRoster
  | invalidWitnessRoster
  | tooManyCommands
  | invalidCommandEvidence (index : ℤ)
  | conflictingCommandReceipt (digest : Digest)
  | emptyGameManifest
  | checkpointRefereeMismatch
  | checkpointSessionMismatch
  | checkpointEpochMismatch
  | checkpointParentMismatch
  | checkpointManifestMismatch
  | checkpointEventRootMismatch
  | checkpointPublicStateRootMismatch
  | checkpointAssetDeltaRootMismatch
  | checkpointHiddenStatePresent
  deriving DecidableEq

structure PvpEpochCandidate where
  session : Str
  referee : PublicKey
  config : PvpEpochConfig
  gameManifest : Digest
  manifest : Digest
  eventRoot : Digest
  publicStateRoot : Digest
  assetDeltaRoot : Digest
  playerStates : List PvpPlayerState
  teamStates : List PvpTeamState
  equivocators : List Str
  cooldownViolators : List Str
  acceptedCommands : ℤ
  deriving DecidableEq

inductive PvpEpochCandidateResult where
  | pvpCandidateReady (candidate : PvpEpochCandidate)
  | pvpCandidateRefused (reason : PvpEpochRefusal)
  deriving DecidableEq

def pvpCommandTable : Str := "converge.pvp.command.v1"

def pvpReceiptTable : Str := "converge.pvp.command-receipt.v1"

def maxPvpPlayers : ℕ := 64

def maxPvpTicks : ℤ := 256

def maxPvpCommands : ℕ := 4096

def maxPvpCoordinate : ℤ := 1000000

def maxPvpScore : ℤ := 1000000

def maxPvpTextLength : ℕ := 256

def serializeOptionalTarget (buffer : Str) : Option Str → Str
  | none => buffer ++ lit "0"
  | some target => appendField (buffer ++ lit "1") target

def serializePvpCommand : Str :=
  serializeOptionalTarget
    ([lit "pvp-command-v1", intent.matchId, Str.ofInt intent.epoch, intent.baseCheckpointDigest.text,
      Str.ofInt intent.tick, intent.playerId, Str.ofInt intent.moveToX].foldl appendField Str.empty)
    intent.attackTargetId

def serializePvpCommandReceipt (receipt : PvpCommandReceipt) : Str :=
  [lit "pvp-command-receipt-v1", receipt.commandDigest.text, Str.ofInt receipt.receivedTick].foldl appendField Str.empty

def pvpCommandRowId : Str :=
  intent.matchId ++ lit ":" ++ Str.ofInt intent.epoch ++ lit ":" ++ Str.ofInt intent.tick ++ lit ":" ++ intent.playerId

def makePvpCommandEvent : Event where
  id := ⟨peer, counter⟩
  deps := deps
  lamport := lamport
  op := .insert pvpCommandTable (pvpCommandRowId intent) [(lit "command", .str (serializePvpCommand intent))]

def makePvpCommandReceiptEvent (receipt : PvpCommandReceipt) : Event where
  id := ⟨peer, counter⟩
  deps := deps
  lamport := lamport
  op := .insert pvpReceiptTable receipt.commandDigest.text [(lit "receipt", .str (serializePvpCommandReceipt receipt))]

def pvpCommandEvidenceValid (player : PvpPlayer) (evidence : PvpCommandEvidence) : Bool :=
  let input := evidence.input
  let receipt := evidence.receipt
  let intent := evidence.intent
  let observed := evidence.observed
  let targetIdValid := match intent.attackTargetId with
    | none => true
    | some targetId => targetId.length ≤ maxPvpTextLength
  intent.matchId == config.matchId && intent.epoch == config.epoch &&
    intent.baseCheckpointDigest == config.previousCheckpoint && intent.playerId == player.playerId && targetIdValid &&
    input.sessionId == sessionId && input.authorKey == player.publicKey && input.event.id.peer.text == player.playerId &&
    exactInsert input pvpCommandTable (pvpCommandRowId intent) "command" (serializePvpCommand intent) &&
    observed.commandDigest == input.digest && receipt.sessionId == sessionId && receipt.authorKey == refereeKey &&
    exactInsert receipt pvpReceiptTable input.digest.text "receipt" (serializePvpCommandReceipt observed) &&
    oneDependency receipt input.event.id

def pvpSlot (tick : ℤ) (playerId : Str) : Str := Str.ofInt tick ++ lit ":" ++ playerId

def pvpSlotKey : Str := pvpSlot intent.tick intent.playerId

def pvpPairKey (evidence : PvpCommandEvidence) : Str :=
  let inputDigest := evidence.input.digest.text
  let receiptDigest := evidence.receipt.digest.text
  Str.ofInt inputDigest.length ++ lit ":" ++ inputDigest ++ Str.ofInt receiptDigest.length ++ lit ":" ++ receiptDigest

/-- Conflicting commands are held against the player. -/
def pvpIndexing : Indexing PvpCommandEvidence where
  slot evidence := pvpSlotKey evidence.intent
  conflict evidence := evidence.intent.playerId
  pair := pvpPairKey
  input evidence := evidence.input.digest
  receipt evidence := evidence.receipt.digest

/-- What the loop over the transcript asks of a command. -/
def pvpCommandAdmitted (playersById : Map Str PvpPlayer) (evidence : PvpCommandEvidence) : Bool :=
  match playersById.get evidence.intent.playerId with
  | none => false
  | some player => pvpCommandEvidenceValid sessionId refereeKey config player evidence

def pvpCommandIndex (playersById : Map Str PvpPlayer) (transcript : List PvpCommandEvidence) :
    Except PvpEpochRefusal (SlotIndex PvpCommandEvidence) :=
  SlotIndex.readAll pvpIndexing (pvpCommandAdmitted sessionId refereeKey config playersById) .invalidCommandEvidence
    .conflictingCommandReceipt transcript

def pvpConfigValid : Bool :=
  config.matchId != Str.empty && config.matchId.length ≤ maxPvpTextLength && config.epoch ≥ 0 &&
    config.previousCheckpoint.text != Str.empty && config.playerMaxHp > 0 && config.playerMaxHp ≤ 1000000 &&
    config.ticksPerEpoch > 0 && config.ticksPerEpoch ≤ maxPvpTicks && config.maxLateTicks ≥ 0 &&
    config.maxLateTicks ≤ maxPvpTicks && config.maxMoveDistance ≥ 0 && config.maxMoveDistance ≤ maxPvpCoordinate &&
    config.arenaMinX ≥ -maxPvpCoordinate && config.arenaMaxX ≤ maxPvpCoordinate &&
    config.arenaMinX ≤ config.arenaMaxX && config.attackRange ≥ 0 && config.attackRange ≤ maxPvpCoordinate &&
    config.attackDamage > 0 && config.attackDamage ≤ config.playerMaxHp && config.scorePerElimination > 0 &&
    config.scorePerElimination ≤ 1000

def pvpExtendedRulesValid (attackCooldownTicks : ℤ) (objectiveRule : Option PvpObjectiveRule) : Bool :=
  if attackCooldownTicks < 0 || attackCooldownTicks > config.ticksPerEpoch then false
  else
    match objectiveRule with
    | none => true
    | some rule =>
      rule.centerX ≥ config.arenaMinX && rule.centerX ≤ config.arenaMaxX && rule.radius ≥ 0 &&
        rule.radius ≤ maxPvpCoordinate && rule.scorePerTick > 0 && rule.scorePerTick ≤ 1000

def pvpTeamValid (team : PvpTeam) : Bool :=
  !(team.teamId == Str.empty || team.teamId.length > maxPvpTextLength || team.initialScore < 0 ||
    team.initialScore > maxPvpScore)

def pvpTeamMap (teams : List PvpTeam) : Option (Map Str PvpTeam) :=
  if teams.length ≠ 2 then none else collectDistinct (·.teamId) id pvpTeamValid Map.empty teams

def pvpPlayerValid (teams : Map Str PvpTeam) (player : PvpPlayer) : Bool :=
  !(player.playerId == Str.empty || player.playerId.length > maxPvpTextLength || player.publicKey.text == Str.empty ||
    player.publicKey.text.length > maxPvpTextLength || !teams.contains player.teamId ||
    player.initialX < config.arenaMinX || player.initialX > config.arenaMaxX || player.initialHp < 0 ||
    player.initialHp > config.playerMaxHp)

def representedTeams (players : List PvpPlayer) : Map Str Bool :=
  players.foldl (fun m player => m.set player.teamId true) Map.empty

def pvpPlayerMap (teams : Map Str PvpTeam) (players : List PvpPlayer) : Option (Map Str PvpPlayer) :=
  if players.length < 2 ∨ players.length > maxPvpPlayers then none
  else
    match collectRoster (·.playerId) (·.publicKey.text) (pvpPlayerValid config teams) Map.empty Map.empty players with
    | none => none
    | some byId => if (representedTeams players).length ≠ 2 then none else some byId

def pvpWitnessValid (witness : Participant) : Bool :=
  !(witness.id == Str.empty || witness.id.length > maxPvpTextLength || witness.key.text == Str.empty ||
    witness.key.text.length > maxPvpTextLength || witness.key == refereeKey)

def pvpWitnessRosterValid (witnesses : List Participant) (maxFaults : ℤ) : Bool :=
  if witnesses.length > maxPvpPlayers || !replayWitnessPolicyValid arith witnesses.length maxFaults then false
  else (collectRoster (·.id) (·.key.text) (pvpWitnessValid refereeKey) Map.empty Map.empty witnesses).isSome

def pvpAbs (value : ℤ) : ℤ := if value ≥ 0 then value else arith.neg value

def pvpCommandAllowed (actorHp : ℤ) (equivocated : Bool)
    (tick ticksPerEpoch receiptTick maxLateTicks moveDistance maxMoveDistance : ℤ) (destinationInArena : Bool) : Bool :=
  actorHp > 0 && !equivocated && tick ≥ 0 && tick < ticksPerEpoch && maxLateTicks ≥ 0 && receiptTick ≥ tick &&
    receiptTick ≤ arith.add tick maxLateTicks && moveDistance ≥ 0 && maxMoveDistance ≥ 0 &&
    moveDistance ≤ maxMoveDistance && destinationInArena

def pvpEliminationScoreDelta (targetHpBefore targetHpAfter : ℤ) (enemyDamage : Bool) (scorePerElimination : ℤ) : ℤ :=
  if targetHpBefore > 0 && targetHpAfter == 0 && enemyDamage && scorePerElimination > 0 then scorePerElimination else 0

def pvpAttackCooldownAllowed (previousTick : ℤ) (hasPrevious : Bool) (tick cooldownTicks : ℤ) : Bool :=
  tick ≥ 0 && cooldownTicks ≥ 0 &&
    (!hasPrevious || (previousTick ≥ 0 && tick ≥ previousTick && arith.sub tick previousTick ≥ cooldownTicks))

def pvpObjectiveScoreDelta (occupyingTeamCount : ℤ) (teamOccupies : Bool) (scorePerTick : ℤ) : ℤ :=
  if occupyingTeamCount == 1 && teamOccupies && scorePerTick > 0 then scorePerTick else 0

/-- What the tick loop reads and does not change. Players and teams are in their canonical order. -/
structure PvpEpoch where
  config : PvpEpochConfig
  attackCooldownTicks : ℤ
  objectiveRule : Option PvpObjectiveRule
  playersById : Map Str PvpPlayer
  players : List PvpPlayer
  teams : List PvpTeam
  commandsBySlot : Map Str PvpCommandEvidence
  equivocators : Map Str Bool

structure PvpState where
  positions : Map Str ℤ
  hitPoints : Map Str ℤ
  scores : Map Str ℤ
  lastAttackTicks : Map Str ℤ
  cooldownViolators : Map Str Bool
  acceptedCommands : ℤ

def PvpState.hp (state : PvpState) (id : Str) : ℤ := (state.hitPoints.get id).getD 0

/-- What the loop over the attacks of a tick fills. -/
structure PvpAttacks where
  damageByTarget : Map Str ℤ
  enemyDamage : Map Str Bool
  lastAttackTicks : Map Str ℤ
  cooldownViolators : Map Str Bool

def pvpOtherTeam (sortedTeams : List PvpTeam) (teamId : Str) : Str :=
  match sortedTeams with
  | first :: second :: _ => if first.teamId = teamId then second.teamId else first.teamId
  -- not reached: a roster has two teams
  | _ => teamId

end

namespace PvpEpoch

def initial (epoch : PvpEpoch) : PvpState where
  positions := epoch.players.foldl (fun m player => m.set player.playerId player.initialX) Map.empty
  hitPoints := epoch.players.foldl (fun m player => m.set player.playerId player.initialHp) Map.empty
  scores := epoch.teams.foldl (fun m team => m.set team.teamId team.initialScore) Map.empty
  lastAttackTicks := Map.empty
  cooldownViolators := Map.empty
  acceptedCommands := 0

section
variable (arith : Arithmetic) (epoch : PvpEpoch) (state : PvpState) (tick : ℤ)

section
variable (accepted : Map Str PvpCommandEvidence) (positions : Map Str ℤ)

def targetValid (player : PvpPlayer) : Option Str → Bool
  | none => true
  | some targetId =>
    match epoch.playersById.get targetId with
    | some target => target.teamId != player.teamId
    | none => false

def accepts (player : PvpPlayer) (evidence : PvpCommandEvidence) : Bool :=
  let intent := evidence.intent
  let destinationInArena := intent.moveToX ≥ epoch.config.arenaMinX && intent.moveToX ≤ epoch.config.arenaMaxX
  let currentX := (state.positions.get player.playerId).getD player.initialX
  let moveDistance := if destinationInArena then pvpAbs arith (arith.sub intent.moveToX currentX)
    else arith.add epoch.config.maxMoveDistance 1
  epoch.targetValid player intent.attackTargetId &&
    pvpCommandAllowed arith (state.hp player.playerId) (epoch.equivocators.contains player.playerId) tick
      epoch.config.ticksPerEpoch evidence.observed.receivedTick epoch.config.maxLateTicks moveDistance
      epoch.config.maxMoveDistance destinationInArena

def acceptStep (accepted : Map Str PvpCommandEvidence × ℤ) (player : PvpPlayer) : Map Str PvpCommandEvidence × ℤ :=
  match epoch.commandsBySlot.get (pvpSlot tick player.playerId) with
  | none => accepted
  | some evidence =>
    if epoch.accepts arith state tick player evidence then
      (accepted.1.set player.playerId evidence, arith.add accepted.2 1)
    else accepted

def moveStep (player : PvpPlayer) : Map Str ℤ :=
  match accepted.get player.playerId with
  | some evidence => positions.set player.playerId evidence.intent.moveToX
  | none => positions

def attackStep (attacks : PvpAttacks) (player : PvpPlayer) : PvpAttacks :=
  match accepted.get player.playerId with
  | none => attacks
  | some evidence =>
    match evidence.intent.attackTargetId with
    | none => attacks
    | some targetId =>
      let previousTick := (attacks.lastAttackTicks.get player.playerId).getD 0
      if !pvpAttackCooldownAllowed arith previousTick (attacks.lastAttackTicks.contains player.playerId) tick
          epoch.attackCooldownTicks then
        { attacks with cooldownViolators := attacks.cooldownViolators.set player.playerId true }
      else
        let attacks := { attacks with lastAttackTicks := attacks.lastAttackTicks.set player.playerId tick }
        let targetHp := state.hp targetId
        let actorX := (positions.get player.playerId).getD 0
        let targetX := (positions.get targetId).getD 0
        if state.hp player.playerId > 0 && targetHp > 0 &&
            pvpAbs arith (arith.sub actorX targetX) ≤ epoch.config.attackRange then
          let accumulated := (attacks.damageByTarget.get targetId).getD 0
          let remaining := arith.sub targetHp accumulated
          { attacks with
            damageByTarget :=
              if remaining > 0 then
                attacks.damageByTarget.set targetId
                  (if epoch.config.attackDamage ≥ remaining then targetHp
                    else arith.add accumulated epoch.config.attackDamage)
              else attacks.damageByTarget
            enemyDamage := attacks.enemyDamage.set targetId true }
        else attacks

def damageStep (attacks : PvpAttacks) (table : Map Str ℤ × Map Str ℤ) (player : PvpPlayer) : Map Str ℤ × Map Str ℤ :=
  let (hitPoints, scores) := table
  let before := (hitPoints.get player.playerId).getD 0
  let damage := (attacks.damageByTarget.get player.playerId).getD 0
  let after := hpAfterEncounterDamage arith before damage (damage > 0)
  let delta := pvpEliminationScoreDelta before after (attacks.enemyDamage.contains player.playerId)
    epoch.config.scorePerElimination
  let scoringTeam := pvpOtherTeam epoch.teams player.teamId
  (hitPoints.set player.playerId after,
    if delta > 0 then scores.set scoringTeam (arith.add ((scores.get scoringTeam).getD 0) delta) else scores)

def occupies (hitPoints : Map Str ℤ) (rule : PvpObjectiveRule) (player : PvpPlayer) : Bool :=
  (hitPoints.get player.playerId).getD 0 > 0 &&
    pvpAbs arith (arith.sub ((positions.get player.playerId).getD player.initialX) rule.centerX) ≤ rule.radius

def objectiveStep (occupyingTeams : Map Str Bool) (rule : PvpObjectiveRule) (scores : Map Str ℤ) (team : PvpTeam) :
    Map Str ℤ :=
  let delta := pvpObjectiveScoreDelta occupyingTeams.length (occupyingTeams.contains team.teamId) rule.scorePerTick
  if delta > 0 then scores.set team.teamId (arith.add ((scores.get team.teamId).getD team.initialScore) delta) else scores

def scoreObjective (hitPoints scores : Map Str ℤ) : Map Str ℤ :=
  match epoch.objectiveRule with
  | none => scores
  | some rule =>
    let occupyingTeams := epoch.players.foldl
      (fun m player => if occupies arith positions hitPoints rule player then m.set player.teamId true else m) Map.empty
    epoch.teams.foldl (objectiveStep arith occupyingTeams rule) scores

def step : PvpState :=
  let (accepted, acceptedCommands) :=
    epoch.players.foldl (acceptStep arith epoch state tick) (Map.empty, state.acceptedCommands)
  let positions := epoch.players.foldl (moveStep accepted) state.positions
  let attacks := epoch.players.foldl (attackStep arith epoch state tick accepted positions)
    ⟨Map.empty, Map.empty, state.lastAttackTicks, state.cooldownViolators⟩
  let (hitPoints, scores) := epoch.players.foldl (damageStep arith epoch attacks) (state.hitPoints, state.scores)
  { positions, hitPoints
    scores := epoch.scoreObjective arith positions hitPoints scores
    lastAttackTicks := attacks.lastAttackTicks
    cooldownViolators := attacks.cooldownViolators
    acceptedCommands }

end

end

def stateAt (arith : Arithmetic) (epoch : PvpEpoch) (ticks : ℕ) : PvpState :=
  (List.range ticks).foldl (fun state (tick : ℕ) => epoch.step arith state tick) epoch.initial

def run (arith : Arithmetic) (epoch : PvpEpoch) : PvpState := epoch.stateAt arith epoch.config.ticksPerEpoch.toNat

end PvpEpoch

section
variable [StrOrder]

section
variable (hasher : Hasher) (sessionId : Str) (refereeKey : PublicKey) (config : PvpEpochConfig)

def sortedPvpTeams (teams : List PvpTeam) : List PvpTeam :=
  sortBy (fun left right => compare right.teamId left.teamId) teams

def sortedPvpPlayers (players : List PvpPlayer) : List PvpPlayer :=
  sortBy (fun left right => compare right.playerId left.playerId) players

def extendedRules (attackCooldownTicks : ℤ) (objectiveRule : Option PvpObjectiveRule) : Bool :=
  attackCooldownTicks > 0 || objectiveRule.isSome

def objectiveFields : Option PvpObjectiveRule → List Str
  | none => [lit "no-objective"]
  | some rule => [lit "objective", Str.ofInt rule.centerX, Str.ofInt rule.radius, Str.ofInt rule.scorePerTick]

def pvpEpochGameManifest (teams : List PvpTeam) (players : List PvpPlayer) (attackCooldownTicks : ℤ)
    (objectiveRule : Option PvpObjectiveRule) : Digest :=
  let extended := extendedRules attackCooldownTicks objectiveRule
  let sortedTeams := sortedPvpTeams teams
  let sortedPlayers := sortedPvpPlayers players
  hasher.hashString
    (([if extended then lit "public-pvp-epoch-kernel-v2" else lit "public-pvp-epoch-kernel-v1", sessionId,
      refereeKey.text, config.matchId, Str.ofInt config.epoch, config.previousCheckpoint.text,
      Str.ofInt config.playerMaxHp, Str.ofInt config.ticksPerEpoch, Str.ofInt config.maxLateTicks,
      Str.ofInt config.maxMoveDistance, Str.ofInt config.arenaMinX, Str.ofInt config.arenaMaxX,
      Str.ofInt config.attackRange, Str.ofInt config.attackDamage, Str.ofInt config.scorePerElimination] ++
      (if extended then Str.ofInt attackCooldownTicks :: objectiveFields objectiveRule else []) ++
      [Str.ofInt sortedTeams.length] ++
      sortedTeams.flatMap (fun team => [team.teamId, Str.ofInt team.initialScore]) ++
      [Str.ofInt sortedPlayers.length] ++
      sortedPlayers.flatMap fun player => [player.playerId, player.publicKey.text, player.teamId,
        Str.ofInt player.initialX, Str.ofInt player.initialHp]).foldl appendField Str.empty)

def pvpEpochTranscriptRoot (transcript : List PvpCommandEvidence) : Digest :=
  eventSetRoot hasher
    (transcript.flatMap fun evidence => [evidence.input.digest.text, evidence.receipt.digest.text])

def pvpPlayerStateFields (state : PvpPlayerState) : List Str :=
  [state.playerId, state.teamId, Str.ofInt state.positionX, Str.ofInt state.hp]

def pvpTeamStateFields (state : PvpTeamState) : List Str := [state.teamId, Str.ofInt state.score]

def pvpPublicStateRoot (playerStates : List PvpPlayerState) (teamStates : List PvpTeamState)
    (equivocators cooldownViolators : List Str) (acceptedCommands attackCooldownTicks : ℤ)
    (objectiveRule : Option PvpObjectiveRule) : Digest :=
  let extended := extendedRules attackCooldownTicks objectiveRule
  let sortedPlayers := sortBy (fun left right => compare right.playerId left.playerId) playerStates
  let sortedTeams := sortBy (fun left right => compare right.teamId left.teamId) teamStates
  let sortedEquivocators := sortBy (fun left right => compare right left) equivocators
  let sortedViolators := sortBy (fun left right => compare right left) cooldownViolators
  hasher.hashString
    (([if extended then lit "public-pvp-epoch-state-v2" else lit "public-pvp-epoch-state-v1", sessionId, config.matchId,
      Str.ofInt config.epoch, Str.ofInt acceptedCommands, Str.ofInt sortedPlayers.length] ++
      sortedPlayers.flatMap pvpPlayerStateFields ++ [Str.ofInt sortedTeams.length] ++
      sortedTeams.flatMap pvpTeamStateFields ++ [Str.ofInt sortedEquivocators.length] ++ sortedEquivocators ++
      (if extended then [Str.ofInt attackCooldownTicks, Str.ofInt sortedViolators.length] ++ sortedViolators ++
        objectiveFields objectiveRule else [])).foldl appendField Str.empty)

def pvpNoAssetDeltaRoot : Digest :=
  hasher.hashString ([lit "public-pvp-no-asset-delta-v1", sessionId, config.matchId, Str.ofInt config.epoch].foldl
    appendField Str.empty)

def pvpEpochCandidate (gameManifest manifest : Digest) (transcript : List PvpCommandEvidence) (epoch : PvpEpoch)
    (state : PvpState) : PvpEpochCandidate :=
  let playerStates := epoch.players.map fun player =>
    { playerId := player.playerId, teamId := player.teamId
      positionX := (state.positions.get player.playerId).getD player.initialX
      hp := state.hp player.playerId : PvpPlayerState }
  let equivocators := (epoch.players.filter fun player => epoch.equivocators.contains player.playerId).map (·.playerId)
  let cooldownViolators :=
    (epoch.players.filter fun player => state.cooldownViolators.contains player.playerId).map (·.playerId)
  let teamStates := epoch.teams.map fun team =>
    { teamId := team.teamId, score := (state.scores.get team.teamId).getD team.initialScore : PvpTeamState }
  { session := sessionId
    referee := refereeKey
    config := epoch.config
    gameManifest, manifest
    eventRoot := pvpEpochTranscriptRoot hasher transcript
    publicStateRoot := pvpPublicStateRoot hasher sessionId epoch.config playerStates teamStates equivocators
      cooldownViolators state.acceptedCommands epoch.attackCooldownTicks epoch.objectiveRule
    assetDeltaRoot := pvpNoAssetDeltaRoot hasher sessionId epoch.config
    playerStates, teamStates, equivocators, cooldownViolators
    acceptedCommands := state.acceptedCommands }

def preparePvpEpoch (arith : Arithmetic) (hasher : Hasher) (sessionId : Str) (refereeKey : PublicKey)
    (config : PvpEpochConfig) (teams : List PvpTeam) (players : List PvpPlayer) (transcript : List PvpCommandEvidence)
    (witnesses : List Participant) (maxFaults attackCooldownTicks : ℤ) (objectiveRule : Option PvpObjectiveRule) :
    PvpEpochCandidateResult :=
  if sessionId == Str.empty || sessionId.length > maxPvpTextLength || refereeKey.text == Str.empty ||
      refereeKey.text.length > maxPvpTextLength || !pvpConfigValid config ||
      !pvpExtendedRulesValid config attackCooldownTicks objectiveRule then
    .pvpCandidateRefused .invalidEpochConfiguration
  else
    match pvpTeamMap teams with
    | none => .pvpCandidateRefused .invalidTeamRoster
    | some teamsById =>
      match pvpPlayerMap config teamsById players with
      | none => .pvpCandidateRefused .invalidPlayerRoster
      | some playersById =>
        if !pvpWitnessRosterValid arith refereeKey witnesses maxFaults then .pvpCandidateRefused .invalidWitnessRoster
        else if transcript.length > maxPvpCommands then .pvpCandidateRefused .tooManyCommands
        else
          match pvpCommandIndex sessionId refereeKey config playersById transcript with
          | .error reason => .pvpCandidateRefused reason
          | .ok index =>
            let gameManifest := pvpEpochGameManifest hasher sessionId refereeKey config teams players attackCooldownTicks
              objectiveRule
            if gameManifest.text = Str.empty then .pvpCandidateRefused .emptyGameManifest
            else
              let epoch : PvpEpoch :=
                { config, attackCooldownTicks, objectiveRule, playersById
                  players := sortedPvpPlayers players
                  teams := sortedPvpTeams teams
                  commandsBySlot := index.bySlot
                  equivocators := index.conflicts }
              .pvpCandidateReady (pvpEpochCandidate hasher sessionId refereeKey gameManifest
                (replayWitnessSessionManifest hasher gameManifest refereeKey witnesses maxFaults) transcript epoch
                (epoch.run arith))

end

end

namespace PvpSample

def config : PvpEpochConfig := ⟨"m", 0, ⟨"c"⟩, 10, 2, 1, 3, -10, 10, 2, 10, 5⟩

def teams : List PvpTeam := [⟨"red", 0⟩, ⟨"blue", 0⟩]

def players : List PvpPlayer := [⟨"p", ⟨"P"⟩, "red", 0, 10⟩, ⟨"q", ⟨"Q"⟩, "blue", 1, 10⟩]

end PvpSample

end ConvergeAudit.Replay
