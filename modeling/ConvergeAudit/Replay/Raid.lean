import ConvergeAudit.Replay.Pvp

/-!
`replay/raid.mbt`: the surviving players attack the boss. The attacks are indexed by slot, in the same loop as the
commands of a PvP epoch; conflicts are held against the slot.
-/

namespace ConvergeAudit.Replay
open Moon Bft Merkle Game

section
variable (peer : PeerId) (counter lamport : ℤ) (deps : List EventId) (intent : DungeonPlayerAttackIntent)
  (arith : Arithmetic) (sessionId : Str) (authorityKey : PublicKey)

/-- Public rules for the deterministic damage phase following a telegraphed defense phase. -/
structure DungeonRaidRules where
  bossMaxHp : ℤ
  playerAttackDamage : ℤ
  playerAttackCooldownTicks : ℤ
  damagePhaseStartTick : ℤ
  enrageTick : ℤ

structure DungeonPlayerAttackIntent where
  encounterId : Str
  playerId : Str
  tick : ℤ

structure DungeonPlayerAttackReceipt where
  inputDigest : Digest
  receivedTick : ℤ

@[ext] structure DungeonPlayerAttackEvidence where
  input : AuthenticatedEvent
  receipt : AuthenticatedEvent
  intent : DungeonPlayerAttackIntent
  observed : DungeonPlayerAttackReceipt

inductive DungeonRaidRefusal where
  | invalidRaidRules
  | defensePhaseRefused (reason : DungeonEncounterRefusal)
  | invalidPlayerAttackEvidence (index : ℤ)
  | conflictingPlayerAttackReceipt (digest : Digest)
  | emptyRaidManifest
  deriving DecidableEq

structure DungeonRaidCandidate where
  defense : DungeonEncounterCandidate
  manifest : Digest
  eventRoot : Digest
  publicStateRoot : Digest
  bossHp : ℤ
  acceptedPlayerAttacks : ℤ
  cooldownViolators : List Str
  cleared : Bool
  deriving DecidableEq

inductive DungeonRaidCandidateResult where
  | raidCandidateReady (candidate : DungeonRaidCandidate)
  | raidCandidateRefused (reason : DungeonRaidRefusal)
  deriving DecidableEq

def dungeonPlayerAttackTable : Str := "converge.dungeon.player-attack.v1"

def dungeonPlayerAttackReceiptTable : Str := "converge.dungeon.player-attack-receipt.v1"

def serializeDungeonPlayerAttack : Str :=
  [lit "dungeon-player-attack-v1", intent.encounterId, intent.playerId, Str.ofInt intent.tick].foldl appendField Str.empty

def serializeDungeonPlayerAttackReceipt (receipt : DungeonPlayerAttackReceipt) : Str :=
  [lit "dungeon-player-attack-receipt-v1", receipt.inputDigest.text, Str.ofInt receipt.receivedTick].foldl appendField
    Str.empty

def dungeonPlayerAttackRowId : Str :=
  intent.encounterId ++ lit ":" ++ Str.ofInt intent.tick ++ lit ":" ++ intent.playerId

def makeDungeonPlayerAttackEvent : Event where
  id := ⟨peer, counter⟩
  deps := deps
  lamport := lamport
  op := .insert dungeonPlayerAttackTable (dungeonPlayerAttackRowId intent)
    [(lit "attack", .str (serializeDungeonPlayerAttack intent))]

def makeDungeonPlayerAttackReceiptEvent (receipt : DungeonPlayerAttackReceipt) : Event where
  id := ⟨peer, counter⟩
  deps := deps
  lamport := lamport
  op := .insert dungeonPlayerAttackReceiptTable receipt.inputDigest.text
    [(lit "receipt", .str (serializeDungeonPlayerAttackReceipt receipt))]

def dungeonPlayerAttackEvidenceValid (encounterId : Str) (player : DungeonPlayer) (rules : DungeonRaidRules)
    (maxLateTicks : ℤ) (evidence : DungeonPlayerAttackEvidence) :
    Bool :=
  let intent := evidence.intent
  let observed := evidence.observed
  let input := evidence.input
  let receipt := evidence.receipt
  intent.encounterId == encounterId && intent.playerId == player.playerId &&
    intent.tick ≥ rules.damagePhaseStartTick && intent.tick ≤ rules.enrageTick && input.sessionId == sessionId &&
    input.authorKey == player.publicKey && input.event.id.peer.text == player.playerId &&
    exactInsert input dungeonPlayerAttackTable (dungeonPlayerAttackRowId intent) "attack"
      (serializeDungeonPlayerAttack intent) &&
    observed.inputDigest == input.digest && observed.receivedTick ≥ intent.tick &&
    arith.sub observed.receivedTick intent.tick ≤ maxLateTicks && receipt.sessionId == sessionId &&
    receipt.authorKey == authorityKey &&
    exactInsert receipt dungeonPlayerAttackReceiptTable input.digest.text "receipt"
      (serializeDungeonPlayerAttackReceipt observed) &&
    oneDependency receipt input.event.id

def raidSlot (tick : ℤ) (playerId : Str) : Str := Str.ofInt tick ++ lit ":" ++ playerId

/-- The lengths of the digests are not part of the key. -/
def raidPairKey (evidence : DungeonPlayerAttackEvidence) : Str :=
  evidence.input.digest.text ++ lit ":" ++ evidence.receipt.digest.text

def raidIndexing : Indexing DungeonPlayerAttackEvidence where
  slot evidence := raidSlot evidence.intent.tick evidence.intent.playerId
  conflict evidence := raidSlot evidence.intent.tick evidence.intent.playerId
  pair := raidPairKey
  input evidence := evidence.input.digest
  receipt evidence := evidence.receipt.digest

def raidAttackAdmitted (encounterConfig : DungeonEncounterConfig) (raidRules : DungeonRaidRules)
    (playersById : Map Str DungeonPlayer) (evidence : DungeonPlayerAttackEvidence) : Bool :=
  match playersById.get evidence.intent.playerId with
  | none => false
  | some player =>
    dungeonPlayerAttackEvidenceValid arith sessionId authorityKey encounterConfig.encounterId player raidRules
      encounterConfig.attackRules.maxBackdateTicks evidence

def raidAttackIndex (encounterConfig : DungeonEncounterConfig) (raidRules : DungeonRaidRules)
    (playersById : Map Str DungeonPlayer) (playerAttacks : List DungeonPlayerAttackEvidence) :
    Except DungeonRaidRefusal (SlotIndex DungeonPlayerAttackEvidence) :=
  SlotIndex.readAll raidIndexing (raidAttackAdmitted arith sessionId authorityKey encounterConfig raidRules playersById)
    .invalidPlayerAttackEvidence .conflictingPlayerAttackReceipt playerAttacks

def raidRulesValid (rules : DungeonRaidRules) (attacks : List DungeonEncounterAttack) : Bool :=
  if rules.bossMaxHp ≤ 0 || rules.bossMaxHp > 1000000 || rules.playerAttackDamage ≤ 0 ||
      rules.playerAttackDamage > rules.bossMaxHp || rules.playerAttackCooldownTicks < 0 ||
      rules.damagePhaseStartTick < 0 || rules.enrageTick < rules.damagePhaseStartTick || rules.enrageTick > 1000000 then
    false
  else attacks.all fun attack => !(attack.attack.resolveTick ≥ rules.damagePhaseStartTick)

def raidBossClearAllowed (defensePhaseCleared : Bool) (bossHp : ℤ) : Bool := defensePhaseCleared && bossHp == 0

/-- What the damage phase reads and does not change. Players are in their canonical order. -/
structure RaidPhase where
  rules : DungeonRaidRules
  players : List DungeonPlayer
  survivors : Map Str Bool
  bySlot : Map Str DungeonPlayerAttackEvidence
  conflictingSlots : Map Str Bool

structure RaidState where
  lastAttackTick : Map Str ℤ
  cooldownViolators : Map Str Bool
  bossHp : ℤ
  acceptedPlayerAttacks : ℤ

end

namespace RaidPhase

def attackStep (arith : Arithmetic) (phase : RaidPhase) (tick : ℤ) (state : RaidState) (player : DungeonPlayer) :
    RaidState :=
  let slot := raidSlot tick player.playerId
  if phase.conflictingSlots.contains slot then
    { state with cooldownViolators := state.cooldownViolators.set player.playerId true }
  else
    match phase.bySlot.get slot with
    | none => state
    | some _ =>
      if state.bossHp ≤ 0 || !phase.survivors.contains player.playerId then state
      else
        let previousTick := (state.lastAttackTick.get player.playerId).getD 0
        if !pvpAttackCooldownAllowed arith previousTick (state.lastAttackTick.contains player.playerId) tick
            phase.rules.playerAttackCooldownTicks then
          { state with cooldownViolators := state.cooldownViolators.set player.playerId true }
        else
          { state with
            lastAttackTick := state.lastAttackTick.set player.playerId tick
            bossHp := hpAfterEncounterDamage arith state.bossHp phase.rules.playerAttackDamage true
            acceptedPlayerAttacks := arith.add state.acceptedPlayerAttacks 1 }

def initial (phase : RaidPhase) : RaidState := ⟨Map.empty, Map.empty, phase.rules.bossMaxHp, 0⟩

def ticks (rules : DungeonRaidRules) : List ℤ :=
  (List.range (rules.enrageTick - rules.damagePhaseStartTick + 1).toNat).map fun n : ℕ => rules.damagePhaseStartTick + n

def run (arith : Arithmetic) (phase : RaidPhase) : RaidState :=
  (ticks phase.rules).foldl (fun state tick => phase.players.foldl (phase.attackStep arith tick) state) phase.initial

end RaidPhase

section
variable [StrOrder]

def dungeonRaidManifest (hasher : Hasher) (defenseManifest : Digest) (rules : DungeonRaidRules) : Digest :=
  hasher.hashString ([lit "telegraph-dungeon-raid-kernel-v1", defenseManifest.text, Str.ofInt rules.bossMaxHp,
    Str.ofInt rules.playerAttackDamage, Str.ofInt rules.playerAttackCooldownTicks, Str.ofInt rules.damagePhaseStartTick,
    Str.ofInt rules.enrageTick].foldl appendField Str.empty)

def dungeonRaidEventRoot (hasher : Hasher) (defenseRoot : Digest) (attacks : List DungeonPlayerAttackEvidence) : Digest :=
  eventSetRoot hasher
    (defenseRoot.text :: attacks.flatMap fun evidence => [evidence.input.digest.text, evidence.receipt.digest.text])

def dungeonRaidPublicStateRoot (hasher : Hasher) (defenseRoot : Digest) (bossHp acceptedPlayerAttacks : ℤ)
    (cooldownViolators : List Str) (cleared : Bool) : Digest :=
  let sorted := sortBy (fun left right => compare right left) cooldownViolators
  hasher.hashString
    (([lit "telegraph-dungeon-raid-state-v1", defenseRoot.text, Str.ofInt bossHp, Str.ofInt acceptedPlayerAttacks,
      if cleared then lit "cleared" else lit "failed", Str.ofInt sorted.length] ++ sorted).foldl appendField Str.empty)

def raidCandidate (hasher : Hasher) (defense : DungeonEncounterCandidate)
    (playerAttacks : List DungeonPlayerAttackEvidence) (phase : RaidPhase) (state : RaidState) : DungeonRaidCandidate :=
  let violatorIds :=
    (phase.players.filter fun player => state.cooldownViolators.contains player.playerId).map (·.playerId)
  let cleared := raidBossClearAllowed defense.cleared state.bossHp
  { defense
    manifest := dungeonRaidManifest hasher defense.manifest phase.rules
    eventRoot := dungeonRaidEventRoot hasher defense.eventRoot playerAttacks
    publicStateRoot := dungeonRaidPublicStateRoot hasher defense.publicStateRoot state.bossHp state.acceptedPlayerAttacks
      violatorIds cleared
    bossHp := state.bossHp
    acceptedPlayerAttacks := state.acceptedPlayerAttacks
    cooldownViolators := violatorIds
    cleared }

def raidPhaseOf (rules : DungeonRaidRules) (players : List DungeonPlayer) (defense : DungeonEncounterCandidate)
    (index : SlotIndex DungeonPlayerAttackEvidence) : RaidPhase where
  rules := rules
  players := sortedPlayers players
  survivors := defense.survivors.foldl (fun m playerId => m.set playerId true) Map.empty
  bySlot := index.bySlot
  conflictingSlots := index.conflicts

def prepareDungeonRaid (arith : Arithmetic) (hasher : Hasher) (sessionId : Str) (authorityKey : PublicKey)
    (encounterConfig : DungeonEncounterConfig) (raidRules : DungeonRaidRules) (players : List DungeonPlayer)
    (attacks : List DungeonEncounterAttack) (defenseTranscripts : List DungeonAttackTranscript)
    (playerAttacks : List DungeonPlayerAttackEvidence) : DungeonRaidCandidateResult :=
  if !raidRulesValid raidRules attacks then .raidCandidateRefused .invalidRaidRules
  else
    match rosterMap encounterConfig.attackRules players with
    | none => .raidCandidateRefused .invalidRaidRules
    | some playersById =>
      match prepareDungeonEncounter arith hasher sessionId authorityKey encounterConfig players attacks
          defenseTranscripts with
      | .refused reason => .raidCandidateRefused (.defensePhaseRefused reason)
      | .candidateReady defense =>
        match raidAttackIndex arith sessionId authorityKey encounterConfig raidRules playersById playerAttacks with
        | .error reason => .raidCandidateRefused reason
        | .ok index =>
          let phase := raidPhaseOf raidRules players defense index
          if (dungeonRaidManifest hasher defense.manifest raidRules).text = Str.empty then
            .raidCandidateRefused .emptyRaidManifest
          else .raidCandidateReady (raidCandidate hasher defense playerAttacks phase (phase.run arith))

end

end ConvergeAudit.Replay
