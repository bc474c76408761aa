import ConvergeAudit.Game.Attestation
import ConvergeAudit.Merkle.Model
import ConvergeAudit.Replay.Assets
import ConvergeAudit.Replay.Dungeon

/-!
`replay/encounter.mbt` and the decisions of `audit/dungeon_encounter.mbt`: a planned sequence of telegraphed attacks
is replayed from the evidence of each attack.
-/

namespace ConvergeAudit.Replay
open Moon Bft Merkle Game List

structure DungeonEncounterConfig where
  encounterId : Str
  playerMaxHp : ℤ
  attackRules : TelegraphDungeonConfig

structure DungeonEncounterAttack where
  attack : TelegraphedAttack
  damage : ℤ

structure DungeonAttackTranscript where
  attackId : Str
  telegraph : AuthenticatedEvent
  dodgeEvidence : List DodgeEvidence

structure DungeonEncounterPlayerState where
  playerId : Str
  positionX : ℤ
  hp : ℤ
  deriving DecidableEq

inductive DungeonEncounterRefusal where
  | invalidEncounterConfiguration
  | invalidAttackPlan
  | duplicateAttackTranscript (attackId : Str)
  | unknownAttackTranscript (attackId : Str)
  | missingAttackTranscript (attackId : Str)
  | invalidAttackTelegraph (attackId : Str)
  | emptyEncounterManifest
  | checkpointAuthorityMismatch
  | checkpointSessionMismatch
  | checkpointManifestMismatch
  | checkpointEventRootMismatch
  | checkpointPublicStateRootMismatch
  deriving DecidableEq

structure DungeonEncounterCandidate where
  session : Str
  authority : PublicKey
  encounterId : Str
  lootItemType : Str
  manifest : Digest
  eventRoot : Digest
  publicStateRoot : Digest
  playerStates : List DungeonEncounterPlayerState
  survivors : List Str
  defeated : List Str
  equivocators : List Str
  acceptedDodges : ℤ
  cleared : Bool
  deriving DecidableEq

inductive DungeonEncounterCandidateResult where
  | candidateReady (candidate : DungeonEncounterCandidate)
  | refused (reason : DungeonEncounterRefusal)
  deriving DecidableEq

def hpAfterEncounterDamage (arith : Arithmetic) (hp damage : ℤ) (wasHit : Bool) : ℤ :=
  if hp ≤ 0 then 0
  else if !wasHit || damage ≤ 0 then hp
  else if damage ≥ hp then 0
  else arith.sub hp damage

theorem exact_hpAfterEncounterDamage (exact : arith.ExactInt32) (fits : hp < 2 ^ 31) (damage : ℤ) (wasHit : Bool) :
    hpAfterEncounterDamage arith hp damage wasHit = hpAfterEncounterDamage .unbounded hp damage wasHit := by
  unfold hpAfterEncounterDamage
  split
  · rfl
  · split
    · rfl
    · rename_i alive hit
      simp only [Bool.or_eq_true, decide_eq_true_eq, not_or, not_le] at hit
      split
      · rfl
      · rw [exact.sub ⟨by omega, by omega⟩, Arithmetic.unbounded_sub]

def encounterClearAllowed (scheduleComplete : Bool) (survivorCount : ℤ) : Bool := scheduleComplete && survivorCount > 0

def validEncounterConfig (config : DungeonEncounterConfig) : Bool :=
  config.encounterId != Str.empty && config.playerMaxHp > 0 && validConfig config.attackRules

section
variable [StrOrder]

def sortEncounterAttacks (attacks : List DungeonEncounterAttack) : List DungeonEncounterAttack :=
  sortBy
    (fun a b =>
      if a.attack.visibleTick ≠ b.attack.visibleTick then compare a.attack.visibleTick b.attack.visibleTick
      else if a.attack.resolveTick ≠ b.attack.resolveTick then compare a.attack.resolveTick b.attack.resolveTick
      else compare b.attack.attackId a.attack.attackId)
    attacks

def attackPlanLoop (arith : Arithmetic) (rules : TelegraphDungeonConfig) (seen : Map Str Bool) (previousResolve : ℤ)
    (first : Bool) : List DungeonEncounterAttack → Bool
  | [] => true
  | spec :: rest =>
    let attack := spec.attack
    if spec.damage ≤ 0 || !validAttack arith rules attack || seen.contains attack.attackId ||
        (!first && attack.visibleTick < previousResolve) then false
    else attackPlanLoop arith rules (seen.set attack.attackId true) attack.resolveTick false rest

/-- Attacks may not overlap, so that the position before each dodge is unambiguous. -/
def canonicalAttackPlan (arith : Arithmetic) (rules : TelegraphDungeonConfig) (attacks : List DungeonEncounterAttack) :
    Option (List DungeonEncounterAttack) :=
  if attacks.length = 0 then none
  else
    let sorted := sortEncounterAttacks attacks
    if attackPlanLoop arith rules Map.empty (-1) true sorted then some sorted else none

def encounterAttackFields (spec : DungeonEncounterAttack) : List Str :=
  [serializeTelegraphedAttack spec.attack, Str.ofInt spec.damage]

def telegraphDungeonEncounterManifest (hasher : Hasher) (authorityKey : PublicKey) (config : DungeonEncounterConfig)
    (players : List DungeonPlayer) (attacks : List DungeonEncounterAttack) : Digest :=
  let sorted := sortEncounterAttacks attacks
  hasher.hashString
    (([lit "telegraph-dungeon-encounter-kernel-v1", config.encounterId, Str.ofInt config.playerMaxHp,
      (telegraphDungeonManifest hasher authorityKey config.attackRules players).text, Str.ofInt sorted.length] ++
      sorted.flatMap encounterAttackFields).foldl appendField Str.empty)

/-- The Merkle root of a set of events: repeated digests count once, and the leaves are sorted. -/
def eventSetRoot (hasher : Hasher) (digests : List Str) : Digest :=
  (MerkleTree.build hasher (sortBy (fun a b => compare b a) (unseen digests))).root

def transcriptDigests (transcript : DungeonAttackTranscript) : List Str :=
  transcript.telegraph.digest.text ::
    transcript.dodgeEvidence.flatMap fun evidence => [evidence.input.digest.text, evidence.receipt.digest.text]

def dungeonEncounterTranscriptRoot (hasher : Hasher) (transcripts : List DungeonAttackTranscript) : Digest :=
  eventSetRoot hasher (transcripts.flatMap transcriptDigests)

def encounterStateFields (state : DungeonEncounterPlayerState) : List Str :=
  [state.playerId, Str.ofInt state.positionX, Str.ofInt state.hp]

def encounterPublicStateRoot (hasher : Hasher) (sessionId encounterId : Str) (states : List DungeonEncounterPlayerState)
    (cleared : Bool) (acceptedDodges : ℤ) (equivocators : List Str) : Digest :=
  let sortedStates := sortBy (fun a b => compare b.playerId a.playerId) states
  let sortedEquivocators := sortBy (fun a b => compare b a) equivocators
  hasher.hashString
    (([lit "telegraph-dungeon-public-state-v1", sessionId, encounterId, if cleared then lit "cleared" else lit "failed",
      Str.ofInt acceptedDodges, Str.ofInt sortedStates.length] ++ sortedStates.flatMap encounterStateFields ++
      [Str.ofInt sortedEquivocators.length] ++ sortedEquivocators).foldl appendField Str.empty)

def plannedIds (plan : List DungeonEncounterAttack) : Map Str Bool :=
  plan.foldl (fun m spec => m.set spec.attack.attackId true) Map.empty

def transcriptLoop (planned : Map Str Bool) (byId : Map Str DungeonAttackTranscript) :
    List DungeonAttackTranscript → Except DungeonEncounterRefusal (Map Str DungeonAttackTranscript)
  | [] => .ok byId
  | transcript :: rest =>
    if !planned.contains transcript.attackId then .error (.unknownAttackTranscript transcript.attackId)
    else if byId.contains transcript.attackId then .error (.duplicateAttackTranscript transcript.attackId)
    else transcriptLoop planned (byId.set transcript.attackId transcript) rest

structure EncounterState where
  positions : Map Str ℤ
  hitPoints : Map Str ℤ
  allEquivocators : Map Str Bool
  acceptedDodges : ℤ

def initialEncounterState (config : DungeonEncounterConfig) (players : List DungeonPlayer) : EncounterState where
  positions := players.foldl (fun m player => m.set player.playerId player.initialX) Map.empty
  hitPoints := players.foldl (fun m player => m.set player.playerId config.playerMaxHp) Map.empty
  allEquivocators := Map.empty
  acceptedDodges := 0

namespace EncounterState

def hp (state : EncounterState) (id : Str) : ℤ := (state.hitPoints.get id).getD 0

def position (state : EncounterState) (player : DungeonPlayer) : ℤ :=
  (state.positions.get player.playerId).getD player.initialX

def activePlayers (state : EncounterState) (players : List DungeonPlayer) : List DungeonPlayer :=
  (players.filter fun player => state.hp player.playerId > 0).map fun player =>
    { player with initialX := state.position player }

def absorb (arith : Arithmetic) (state : EncounterState) (activePlayers : List DungeonPlayer) (damage : ℤ)
    (step : DungeonAttackStep) : EncounterState where
  acceptedDodges := arith.add state.acceptedDodges step.acceptedDodges
  positions := activePlayers.foldl (fun m player => m.copyEntry step.positions player.playerId) state.positions
  hitPoints := step.hit.foldl
    (fun m playerId => m.set playerId (hpAfterEncounterDamage arith ((m.get playerId).getD 0) damage true))
    state.hitPoints
  allEquivocators := step.equivocators.foldl (fun m playerId => m.set playerId true) state.allEquivocators

end EncounterState

section
variable (arith : Arithmetic) (hasher : Hasher) (sessionId : Str) (authorityKey : PublicKey)

def encounterStep (rules : TelegraphDungeonConfig) (players : List DungeonPlayer)
    (transcriptById : Map Str DungeonAttackTranscript) (state : EncounterState) (spec : DungeonEncounterAttack) :
    Except DungeonEncounterRefusal EncounterState :=
  let attack := spec.attack
  match transcriptById.get attack.attackId with
  | none => .error (.missingAttackTranscript attack.attackId)
  | some transcript =>
    if !telegraphSourceValid sessionId authorityKey transcript.telegraph attack then
      .error (.invalidAttackTelegraph attack.attackId)
    else
      let activePlayers := state.activePlayers players
      let activeById := activePlayers.foldl (fun m player => m.set player.playerId player) Map.empty
      .ok (state.absorb arith activePlayers spec.damage
        (replayAttackStep arith sessionId authorityKey rules activeById activePlayers transcript.telegraph attack
          transcript.dodgeEvidence))

def encounterCandidate (config : DungeonEncounterConfig) (players : List DungeonPlayer)
    (transcripts : List DungeonAttackTranscript) (manifest : Digest) (state : EncounterState) : DungeonEncounterCandidate :=
  let sorted := sortedPlayers players
  let playerStates := sorted.map fun player =>
    { playerId := player.playerId, positionX := state.position player, hp := state.hp player.playerId }
  let survivors := (sorted.filter fun player => state.hp player.playerId > 0).map (·.playerId)
  let defeated := (sorted.filter fun player => !(state.hp player.playerId > 0)).map (·.playerId)
  let equivocators := (sorted.filter fun player => state.allEquivocators.contains player.playerId).map (·.playerId)
  let cleared := encounterClearAllowed true survivors.length
  { session := sessionId
    authority := authorityKey
    encounterId := config.encounterId
    lootItemType := config.attackRules.lootItemType
    manifest
    eventRoot := dungeonEncounterTranscriptRoot hasher transcripts
    publicStateRoot := encounterPublicStateRoot hasher sessionId config.encounterId playerStates cleared
      state.acceptedDodges equivocators
    playerStates, survivors, defeated, equivocators
    acceptedDodges := state.acceptedDodges
    cleared }

def prepareDungeonEncounter (config : DungeonEncounterConfig) (players : List DungeonPlayer)
    (attacks : List DungeonEncounterAttack) (transcripts : List DungeonAttackTranscript) : DungeonEncounterCandidateResult :=
  if sessionId == Str.empty || authorityKey.text == Str.empty || !validEncounterConfig config then
    .refused .invalidEncounterConfiguration
  else
    match rosterMap config.attackRules players with
    | none => .refused .invalidEncounterConfiguration
    | some _ =>
      match canonicalAttackPlan arith config.attackRules attacks with
      | none => .refused .invalidAttackPlan
      | some plan =>
        match transcriptLoop (plannedIds plan) Map.empty transcripts with
        | .error reason => .refused reason
        | .ok transcriptById =>
          match plan.find? fun spec => !transcriptById.contains spec.attack.attackId with
          | some spec => .refused (.missingAttackTranscript spec.attack.attackId)
          | none =>
            let manifest := telegraphDungeonEncounterManifest hasher authorityKey config players plan
            if manifest.text = Str.empty then .refused .emptyEncounterManifest
            else
              match plan.foldlM (encounterStep arith sessionId authorityKey config.attackRules players transcriptById)
                (initialEncounterState config players) with
              | .error reason => .refused reason
              | .ok state =>
                .candidateReady
                  (encounterCandidate hasher sessionId authorityKey config players transcripts manifest state)

end

end

namespace EncounterState

theorem activePlayers_ids (state : EncounterState) (players : List DungeonPlayer) :
    ((state.activePlayers players).map (·.playerId)).Sublist (players.map (·.playerId)) := by
  unfold activePlayers
  rw [map_map]
  exact filter_sublist.map _

abbrev activeById (state : EncounterState) (players : List DungeonPlayer) : Map Str DungeonPlayer :=
  (state.activePlayers players).foldl (fun m player => m.set player.playerId player) Map.empty

theorem get_activeById_iff {state : EncounterState} (distinct : (players.map (·.playerId)).Nodup) (id : Str)
    (player : DungeonPlayer) :
    (state.activeById players).get id = some player ↔ player ∈ state.activePlayers players ∧ player.playerId = id :=
  Map.get_foldl_assign_iff _ (distinct.sublist (state.activePlayers_ids players))

def current (state : EncounterState) (player : DungeonPlayer) : DungeonPlayer :=
  { player with initialX := state.position player }

theorem current_mem_activePlayers {state : EncounterState} (member : player ∈ players)
    (alive : 0 < state.hp player.playerId) : state.current player ∈ state.activePlayers players :=
  mem_map.mpr ⟨player, mem_filter.mpr ⟨member, by simpa using alive⟩, rfl⟩

theorem get_activeById_current {state : EncounterState} (distinct : (players.map (·.playerId)).Nodup)
    (member : player ∈ players) (alive : 0 < state.hp player.playerId) :
    (state.activeById players).get player.playerId = some (state.current player) :=
  (get_activeById_iff distinct _ _).mpr ⟨current_mem_activePlayers member alive, rfl⟩

theorem mem_activePlayers_iff {state : EncounterState} (distinct : (players.map (·.playerId)).Nodup)
    (member : player ∈ players) (same : active.playerId = player.playerId) :
    active ∈ state.activePlayers players ↔ 0 < state.hp player.playerId ∧ active = state.current player := by
  constructor
  · intro found
    obtain ⟨other, chosen, rfl⟩ := mem_map.mp found
    obtain ⟨present, alive⟩ := mem_filter.mp chosen
    obtain rfl := inj_on_of_nodup_map distinct present member same
    exact ⟨by simpa using alive, rfl⟩
  · rintro ⟨alive, rfl⟩
    exact current_mem_activePlayers member alive

section
variable (arith : Arithmetic) (state : EncounterState) (active : List DungeonPlayer) (damage : ℤ)
  (step : DungeonAttackStep)

theorem absorb_position (player : DungeonPlayer) :
    (state.absorb arith active damage step).position player =
      if player.playerId ∈ active.map (·.playerId) then
        ((step.positions.get player.playerId).or (state.positions.get player.playerId)).getD player.initialX
      else state.position player := by
  unfold position absorb
  rw [Map.get_foldl_copyEntry DungeonPlayer.playerId]
  split <;> rfl

theorem absorb_hp (distinct : step.hit.Nodup) (id : Str) :
    (state.absorb arith active damage step).hp id =
      if id ∈ step.hit then hpAfterEncounterDamage arith (state.hp id) damage true else state.hp id := by
  unfold hp absorb
  rw [Map.get_foldl_update (fun before => hpAfterEncounterDamage arith (before.getD 0) damage true) distinct]
  split <;> rfl

theorem absorb_equivocators (id : Str) :
    (state.absorb arith active damage step).allEquivocators.contains id = true ↔
      id ∈ step.equivocators ∨ state.allEquivocators.contains id = true :=
  Map.contains_foldl_set true step.equivocators state.allEquivocators id

end

end EncounterState

theorem rosterMap_rosterOf (read : rosterMap config players = some roster) :
    RosterOf (·.playerId) (·.publicKey.text) (dungeonPlayerValid config) roster players := by
  unfold rosterMap at read
  split at read
  · cases read
  · exact collectRoster_rosterOf read

theorem attackPlanLoop_valid (planned : attackPlanLoop arith rules seen previousResolve first specs = true) :
    (∀ spec ∈ specs, 0 < spec.damage ∧ validAttack arith rules spec.attack = true) ∧
      (specs.map (·.attack.attackId)).Nodup ∧ ∀ spec ∈ specs, seen.contains spec.attack.attackId = false := by
  induction specs generalizing seen previousResolve first with
  | nil => simp
  | cons spec rest ih =>
    unfold attackPlanLoop at planned
    dsimp only at planned
    split at planned
    · cases planned
    · rename_i passed
      simp only [Bool.or_eq_true, decide_eq_true_eq, Bool.not_eq_eq_eq_not, Bool.not_true, not_or, Bool.not_eq_false,
        Bool.not_eq_true, not_le] at passed
      obtain ⟨valid, distinct, unseen⟩ := ih planned
      simp only [Map.contains_set, Bool.or_eq_false_iff, decide_eq_false_iff_not] at unseen
      refine ⟨forall_mem_cons.mpr ⟨⟨passed.1.1.1, passed.1.1.2⟩, valid⟩, nodup_cons.mpr ⟨?_, distinct⟩,
        forall_mem_cons.mpr ⟨passed.1.2, fun other later => (unseen other later).2⟩⟩
      intro repeated
      obtain ⟨other, member, same⟩ := mem_map.mp repeated
      exact (unseen other member).1 same

theorem transcriptLoop_toOption (planned : Map Str Bool) (byId : Map Str DungeonAttackTranscript)
    (transcripts : List DungeonAttackTranscript) :
    (transcriptLoop planned byId transcripts).toOption =
      collectDistinct (·.attackId) id (fun transcript => planned.contains transcript.attackId) byId transcripts := by
  induction transcripts generalizing byId with
  | nil => rfl
  | cons transcript rest ih =>
    unfold transcriptLoop collectDistinct
    by_cases known : planned.contains transcript.attackId = true
    · by_cases repeated : byId.contains transcript.attackId = true
      · simp [known, repeated, Except.toOption]
      · simpa [known, repeated] using ih _
    · simp [known, Except.toOption]

theorem transcriptLoop_ok (read : transcriptLoop planned Map.empty transcripts = .ok byId) :
    (∀ transcript ∈ transcripts, planned.contains transcript.attackId = true) ∧
      (transcripts.map (·.attackId)).Nodup ∧
        ∀ id transcript, byId.get id = some transcript ↔ transcript ∈ transcripts ∧ transcript.attackId = id := by
  have collected := transcriptLoop_toOption planned Map.empty transcripts
  rw [read] at collected
  have distinct := (collectDistinct_isSome_iff _ _ _ _ _).mp (Option.isSome_iff_exists.mpr ⟨byId, collected.symm⟩)
  exact ⟨distinct.1, distinct.2.1, get_collectDistinct_iff collected.symm⟩

theorem transcriptLoop_isOk (known : ∀ transcript ∈ transcripts, planned.contains transcript.attackId = true)
    (distinct : (transcripts.map (·.attackId)).Nodup) :
    ∃ byId, transcriptLoop planned Map.empty transcripts = .ok byId := by
  have read : (transcriptLoop planned Map.empty transcripts).toOption.isSome = true := by
    rw [transcriptLoop_toOption, collectDistinct_isSome_iff]
    exact ⟨known, distinct, fun _ _ => rfl⟩
  cases answer : transcriptLoop planned Map.empty transcripts with
  | ok byId => exact ⟨byId, rfl⟩
  | error reason =>
    rw [answer] at read
    cases read

section
variable [StrOrder]

theorem sortEncounterAttacks_perm : (sortEncounterAttacks attacks).Perm attacks :=
  sortBy_perm _ _

theorem canonicalAttackPlan_some (planned : canonicalAttackPlan arith rules attacks = some plan) :
    plan = sortEncounterAttacks attacks ∧ (attacks.map (·.attack.attackId)).Nodup ∧
      ∀ spec ∈ plan, 0 < spec.damage ∧ validAttack arith rules spec.attack = true := by
  unfold canonicalAttackPlan at planned
  split at planned
  · cases planned
  · dsimp only at planned
    split at planned
    · rename_i accepted
      obtain ⟨valid, distinct, _⟩ := attackPlanLoop_valid accepted
      cases planned
      exact ⟨rfl, (sortEncounterAttacks_perm.map _).nodup_iff.mp distinct, valid⟩
    · cases planned

def encounterDodges (arith : Arithmetic) (sessionId : Str) (authorityKey : PublicKey) (rules : TelegraphDungeonConfig)
    (players : List DungeonPlayer) (state : EncounterState) (transcript : DungeonAttackTranscript)
    (attack : TelegraphedAttack) : DodgeTable :=
  dodgeTable arith sessionId authorityKey rules (state.activeById players) transcript.telegraph attack
    transcript.dodgeEvidence

theorem encounterStep_ok {next : EncounterState}
    (stepped : encounterStep arith sessionId authorityKey rules players byId state spec = .ok next) :
    ∃ transcript, byId.get spec.attack.attackId = some transcript ∧
      next = state.absorb arith (state.activePlayers players) spec.damage
        (replayAttackStep arith sessionId authorityKey rules (state.activeById players) (state.activePlayers players)
          transcript.telegraph spec.attack transcript.dodgeEvidence) := by
  unfold encounterStep at stepped
  dsimp only at stepped
  split at stepped
  · cases stepped
  · rename_i transcript found
    split at stepped
    · cases stepped
    · exact ⟨transcript, found, (Except.ok.inj stepped).symm⟩

structure Resolves (arith : Arithmetic) (state next : EncounterState) (spec : DungeonEncounterAttack) (table : DodgeTable)
    (player : DungeonPlayer) : Prop where
  defeated_position : ¬ 0 < state.hp player.playerId → next.position player = state.position player
  defeated_hp : ¬ 0 < state.hp player.playerId → next.hp player.playerId = state.hp player.playerId
  position : 0 < state.hp player.playerId → next.position player = landing table (state.current player)
  hp : 0 < state.hp player.playerId → next.hp player.playerId =
    if struck arith spec.attack table (state.current player) then
      hpAfterEncounterDamage arith (state.hp player.playerId) spec.damage true
    else state.hp player.playerId
  equivocators : next.allEquivocators.contains player.playerId = true ↔
    0 < state.hp player.playerId ∧ table.equivocators.contains player.playerId = true ∨
      state.allEquivocators.contains player.playerId = true

theorem mem_selected_iff (state : EncounterState) (distinct : (players.map (·.playerId)).Nodup)
    (member : player ∈ players) (condition : DungeonPlayer → Bool) :
    player.playerId ∈ ((sortedPlayers (state.activePlayers players)).filter condition).map (·.playerId) ↔
      0 < state.hp player.playerId ∧ condition (state.current player) = true := by
  constructor
  · intro found
    obtain ⟨other, chosen, same⟩ := mem_map.mp found
    obtain ⟨sorted, holds⟩ := mem_filter.mp chosen
    obtain ⟨alive, rfl⟩ := (EncounterState.mem_activePlayers_iff distinct member same).mp
      ((sortedPlayers_perm _).mem_iff.mp sorted)
    exact ⟨alive, holds⟩
  · rintro ⟨alive, holds⟩
    exact mem_map.mpr ⟨state.current player, mem_filter.mpr ⟨(sortedPlayers_perm _).mem_iff.mpr
      (EncounterState.current_mem_activePlayers member alive), holds⟩, rfl⟩

theorem encounterStep_resolves {next : EncounterState} {arith : Arithmetic}
    (stepped : encounterStep arith sessionId authorityKey rules players byId state spec = .ok next)
    (found : byId.get spec.attack.attackId = some transcript) (distinct : (players.map (·.playerId)).Nodup)
    (member : player ∈ players) :
    Resolves arith state next spec
      (encounterDodges arith sessionId authorityKey rules players state transcript spec.attack) player := by
  obtain ⟨transcript', found', rfl⟩ := encounterStep_ok stepped
  obtain rfl := Option.some.inj (found'.symm.trans found)
  have sortedDistinct : ((sortedPlayers (state.activePlayers players)).map (·.playerId)).Nodup :=
    ((sortedPlayers_perm _).map _).nodup_iff.mpr (distinct.sublist (state.activePlayers_ids players))
  have activeId : player.playerId ∈ (state.activePlayers players).map (·.playerId) ↔ 0 < state.hp player.playerId := by
    have all := mem_selected_iff state distinct member fun _ => true
    rw [filter_true, and_iff_left rfl] at all
    rw [← all]
    exact ((sortedPlayers_perm _).map _).mem_iff.symm
  rw [replayAttackStep_resolved]
  unfold encounterDodges
  generalize dodgeTable arith sessionId authorityKey rules _ transcript'.telegraph spec.attack _ = table
  have hitDistinct := sortedDistinct.sublist
    ((filter_sublist (p := struck arith spec.attack table)).map (·.playerId))
  constructor
  · intro defeated
    rw [EncounterState.absorb_position, if_neg (mt activeId.mp defeated)]
  · intro defeated
    rw [EncounterState.absorb_hp _ _ _ _ _ hitDistinct, if_neg]
    exact fun hit => defeated ((mem_selected_iff state distinct member _).mp hit).1
  · intro alive
    have landed := Map.get_foldl_assign DungeonPlayer.playerId (landing table) Map.empty
      sortedDistinct ((sortedPlayers_perm _).mem_iff.mpr (EncounterState.current_mem_activePlayers member alive))
    have named : (state.current player).playerId = player.playerId := rfl
    rw [EncounterState.absorb_position, if_pos (activeId.mpr alive)]
    rw [← named, landed]
    rfl
  · intro alive
    rw [EncounterState.absorb_hp _ _ _ _ _ hitDistinct]
    simp only [mem_selected_iff state distinct member, alive, true_and]
  · rw [EncounterState.absorb_equivocators, mem_selected_iff state distinct member]
    rfl

theorem prepareDungeonEncounter_ready_iff :
    prepareDungeonEncounter arith hasher sessionId authorityKey config players attacks transcripts =
        .candidateReady candidate ↔
      (sessionId ≠ Str.empty ∧ authorityKey.text ≠ Str.empty ∧ validEncounterConfig config = true) ∧
        (rosterMap config.attackRules players).isSome = true ∧
        ∃ plan byId state, canonicalAttackPlan arith config.attackRules attacks = some plan ∧
          transcriptLoop (plannedIds plan) Map.empty transcripts = .ok byId ∧
          (∀ spec ∈ plan, byId.contains spec.attack.attackId = true) ∧
          (telegraphDungeonEncounterManifest hasher authorityKey config players plan).text ≠ Str.empty ∧
          plan.foldlM (encounterStep arith sessionId authorityKey config.attackRules players byId)
            (initialEncounterState config players) = .ok state ∧
          candidate = encounterCandidate hasher sessionId authorityKey config players transcripts
            (telegraphDungeonEncounterManifest hasher authorityKey config players plan) state := by
  unfold prepareDungeonEncounter
  rw [Lib.passes (by simp)]
  refine and_congr (by simp [and_assoc]) ?_
  cases rosterMap config.attackRules players with
  | none => simp
  | some byPlayer =>
    simp only [Option.isSome_some, true_and]
    cases canonicalAttackPlan arith config.attackRules attacks with
    | none => simp
    | some plan =>
      simp only [Option.some.injEq, exists_and_left, exists_eq_left']
      cases transcriptLoop (plannedIds plan) Map.empty transcripts with
      | error reason => simp
      | ok byId =>
        simp only [Except.ok.injEq, exists_eq_left']
        cases missing : plan.find? fun spec => !byId.contains spec.attack.attackId with
        | some spec =>
          have absent := find?_some missing
          simp only [reduceCtorEq, false_iff]
          rintro ⟨present, _⟩
          simp [present spec (mem_of_find?_eq_some missing)] at absent
        | none =>
          have present : ∀ spec ∈ plan, byId.contains spec.attack.attackId = true := by
            simpa using find?_eq_none.mp missing
          rw [and_iff_right present, Lib.passes (by simp)]
          refine and_congr_right fun _ => ?_
          cases plan.foldlM (encounterStep arith sessionId authorityKey config.attackRules players byId)
            (initialEncounterState config players) with
          | error reason => simp
          | ok state =>
            simp only [DungeonEncounterCandidateResult.candidateReady.injEq, Except.ok.injEq, exists_eq_left']
            exact eq_comm

end

namespace EncounterSample

def hasher : Hasher := ⟨fun _ => ⟨"h"⟩⟩

def authority : PublicKey := ⟨"A"⟩

def config : DungeonEncounterConfig := ⟨"e", 10, ⟨1, 3, 4, -10, 10, "coin"⟩⟩

def players : List DungeonPlayer := [⟨"p", ⟨"P"⟩, 3⟩, ⟨"q", ⟨"Q"⟩, 0⟩]

def attack : TelegraphedAttack := ⟨"a", 0, 5, 0, 1⟩

end EncounterSample

end ConvergeAudit.Replay
