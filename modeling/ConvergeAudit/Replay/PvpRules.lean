import ConvergeAudit.Replay.Pvp

/-!
What a tick is meant to do, without loops: everybody whose command passes the gate moves at once, and everybody in
range strikes at once.
-/

namespace ConvergeAudit.Replay
open Moon Bft

structure PvpScene where
  position : Str → ℤ
  hp : Str → ℤ
  lastAttack : Str → Option ℤ

def PvpState.scene (state : PvpState) : PvpScene where
  position id := (state.positions.get id).getD 0
  hp := state.hp
  lastAttack := state.lastAttackTicks.get

namespace PvpEpoch

section
variable (epoch : PvpEpoch) (scene : PvpScene) (tick : ℤ)

/-- A living player that does not equivocate, an opponent as target, a receipt in time, and a step inside the arena. -/
def Gate (player : PvpPlayer) (evidence : PvpCommandEvidence) : Prop :=
  0 < scene.hp player.playerId ∧ epoch.equivocators.contains player.playerId = false ∧
    epoch.targetValid player evidence.intent.attackTargetId = true ∧
    tick ≤ evidence.observed.receivedTick ∧ evidence.observed.receivedTick ≤ tick + epoch.config.maxLateTicks ∧
    epoch.config.arenaMinX ≤ evidence.intent.moveToX ∧ evidence.intent.moveToX ≤ epoch.config.arenaMaxX ∧
    |evidence.intent.moveToX - scene.position player.playerId| ≤ epoch.config.maxMoveDistance

instance (player : PvpPlayer) (evidence : PvpCommandEvidence) : Decidable (epoch.Gate scene tick player evidence) :=
  inferInstanceAs (Decidable (_ ∧ _))

def accepted (player : PvpPlayer) : Option PvpCommandEvidence :=
  (epoch.commandsBySlot.get (pvpSlot tick player.playerId)).filter fun evidence =>
    epoch.Gate scene tick player evidence

def moved (id : Str) : ℤ :=
  match (epoch.playersById.get id).bind (epoch.accepted scene tick) with
  | some evidence => evidence.intent.moveToX
  | none => scene.position id

def attacks (player : PvpPlayer) : Option Str :=
  if ∀ t ∈ scene.lastAttack player.playerId, epoch.attackCooldownTicks ≤ tick - t then
    (epoch.accepted scene tick player).bind fun evidence => evidence.intent.attackTargetId
  else none

def Strikes (target : Str) (player : PvpPlayer) : Prop :=
  epoch.attacks scene tick player = some target ∧
    |epoch.moved scene tick player.playerId - epoch.moved scene tick target| ≤ epoch.config.attackRange

instance (target : Str) (player : PvpPlayer) : Decidable (epoch.Strikes scene tick target player) :=
  inferInstanceAs (Decidable (_ ∧ _))

def loss (target : Str) : ℤ :=
  min (scene.hp target) (epoch.config.attackDamage * epoch.players.countP fun player => epoch.Strikes scene tick target player)

/-- The rules of one tick. -/
def next : PvpScene where
  position := epoch.moved scene tick
  hp id := scene.hp id - epoch.loss scene tick id
  lastAttack id :=
    if ((epoch.playersById.get id).bind (epoch.attacks scene tick)).isSome then some tick else scene.lastAttack id

/-- The team has a living player in the objective. -/
def Holds (rule : PvpObjectiveRule) (teamId : Str) : Prop :=
  ∃ player ∈ epoch.players, player.teamId = teamId ∧ 0 < scene.hp player.playerId ∧
    |scene.position player.playerId - rule.centerX| ≤ rule.radius

instance (rule : PvpObjectiveRule) (teamId : Str) : Decidable (epoch.Holds scene rule teamId) :=
  inferInstanceAs (Decidable (∃ player ∈ epoch.players, _))

def HoldsAlone (rule : PvpObjectiveRule) (teamId : Str) : Prop :=
  epoch.Holds scene rule teamId ∧ ∀ team ∈ epoch.teams, epoch.Holds scene rule team.teamId → team.teamId = teamId

instance (rule : PvpObjectiveRule) (teamId : Str) : Decidable (epoch.HoldsAlone scene rule teamId) :=
  inferInstanceAs (Decidable (_ ∧ _))

end

def opening (epoch : PvpEpoch) : PvpScene where
  position id := ((epoch.playersById.get id).map (·.initialX)).getD 0
  hp id := ((epoch.playersById.get id).map (·.initialHp)).getD 0
  lastAttack _ := none

def sceneAt (epoch : PvpEpoch) : ℕ → PvpScene
  | 0 => epoch.opening
  | ticks + 1 => epoch.next (epoch.sceneAt ticks) ticks

end PvpEpoch

structure PvpLimits (config : PvpEpochConfig) : Prop where
  maxHp : 0 < config.playerMaxHp ∧ config.playerMaxHp ≤ 1000000
  ticks : 0 < config.ticksPerEpoch ∧ config.ticksPerEpoch ≤ 256
  late : 0 ≤ config.maxLateTicks ∧ config.maxLateTicks ≤ 256
  move : 0 ≤ config.maxMoveDistance ∧ config.maxMoveDistance ≤ 1000000
  arena : -1000000 ≤ config.arenaMinX ∧ config.arenaMaxX ≤ 1000000
  damage : 0 < config.attackDamage ∧ config.attackDamage ≤ config.playerMaxHp
  elimination : 0 < config.scorePerElimination ∧ config.scorePerElimination ≤ 1000

theorem pvpConfigValid_limits (valid : pvpConfigValid config = true) : PvpLimits config := by
  simp only [pvpConfigValid, Bool.and_eq_true, decide_eq_true_eq] at valid
  obtain ⟨⟨⟨⟨⟨⟨⟨⟨⟨⟨⟨⟨⟨⟨⟨⟨⟨⟨⟨⟨_, _⟩, _⟩, _⟩, hp⟩, hp'⟩, ticks⟩, ticks'⟩, late⟩, late'⟩, move⟩, move'⟩, low⟩, high⟩, _⟩, _⟩, _⟩,
    damage⟩, damage'⟩, score⟩, score'⟩ := valid
  exact ⟨⟨hp, hp'⟩, ⟨ticks, ticks'⟩, ⟨late, late'⟩, ⟨move, move'⟩, ⟨low, high⟩, ⟨damage, damage'⟩, ⟨score, score'⟩⟩

/-- What is known of an epoch that has passed the checks before the tick loop. -/
structure PvpEpoch.Admitted (epoch : PvpEpoch) : Prop where
  limits : PvpLimits epoch.config
  cooldown : 0 ≤ epoch.attackCooldownTicks
  objective : ∀ rule, epoch.objectiveRule = some rule →
    (epoch.config.arenaMinX ≤ rule.centerX ∧ rule.centerX ≤ epoch.config.arenaMaxX) ∧
      0 < rule.scorePerTick ∧ rule.scorePerTick ≤ 1000
  ids : (epoch.players.map (·.playerId)).Nodup
  few : epoch.players.length ≤ 64
  arena : ∀ player ∈ epoch.players, epoch.config.arenaMinX ≤ player.initialX ∧ player.initialX ≤ epoch.config.arenaMaxX
  hp : ∀ player ∈ epoch.players, 0 ≤ player.initialHp ∧ player.initialHp ≤ epoch.config.playerMaxHp
  team : ∀ player ∈ epoch.players, ∃ team ∈ epoch.teams, team.teamId = player.teamId
  byId : ∀ id player, epoch.playersById.get id = some player ↔ player ∈ epoch.players ∧ player.playerId = id
  teams : ∃ first second, epoch.teams = [first, second] ∧ first.teamId ≠ second.teamId
  scores : ∀ team ∈ epoch.teams, 0 ≤ team.initialScore ∧ team.initialScore ≤ 1000000

/-- What the tick loop keeps of its state besides the ranges of its numbers. -/
structure PvpEpoch.Sound (epoch : PvpEpoch) (tick : ℤ) (state : PvpState) : Prop where
  placed : ∀ player ∈ epoch.players, ∃ x, state.positions.get player.playerId = some x
  hp : ∀ id, 0 ≤ state.hp id
  attacked : ∀ id t, state.lastAttackTicks.get id = some t → 0 ≤ t ∧ t < tick

namespace PvpEpoch

theorem Admitted.playersById_eq_none {epoch : PvpEpoch} (admitted : epoch.Admitted) {id : Str}
    (absent : ∀ player ∈ epoch.players, player.playerId ≠ id) : epoch.playersById.get id = none := by
  cases found : epoch.playersById.get id with
  | none => rfl
  | some player =>
    obtain ⟨member, same⟩ := (admitted.byId _ _).mp found
    exact absurd same (absent player member)

theorem Admitted.loss_bounds {epoch : PvpEpoch} (admitted : epoch.Admitted) (scene : PvpScene) (tick : ℤ)
    (nonneg : 0 ≤ scene.hp target) :
    0 ≤ epoch.loss scene tick target ∧ epoch.loss scene tick target ≤ scene.hp target := by
  have total := Int.mul_nonneg admitted.limits.damage.1.le
    (Int.natCast_nonneg (epoch.players.countP fun player => epoch.Strikes scene tick target player))
  unfold loss
  omega

section
variable {epoch : PvpEpoch} (admitted : epoch.Admitted)
include admitted

theorem sceneAt_hp (ticks : ℕ) (id : Str) :
    0 ≤ (epoch.sceneAt ticks).hp id ∧ (epoch.sceneAt ticks).hp id ≤ epoch.opening.hp id := by
  induction ticks with
  | zero =>
    refine ⟨?_, le_refl _⟩
    change 0 ≤ ((epoch.playersById.get id).map (·.initialHp)).getD 0
    cases found : epoch.playersById.get id with
    | none => simp
    | some player => exact (admitted.hp player ((admitted.byId _ _).mp found).1).1
  | succ ticks ih =>
    have bounds := admitted.loss_bounds (epoch.sceneAt ticks) ticks ih.1
    have after : (epoch.sceneAt (ticks + 1)).hp id =
        (epoch.sceneAt ticks).hp id - epoch.loss (epoch.sceneAt ticks) ticks id := rfl
    omega

theorem hp_succ_le (ticks : ℕ) (id : Str) : (epoch.sceneAt (ticks + 1)).hp id ≤ (epoch.sceneAt ticks).hp id := by
  have bounds := admitted.loss_bounds (epoch.sceneAt ticks) ticks (sceneAt_hp admitted ticks id).1
  have after : (epoch.sceneAt (ticks + 1)).hp id =
      (epoch.sceneAt ticks).hp id - epoch.loss (epoch.sceneAt ticks) ticks id := rfl
  omega

/-- Nobody leaves the arena. -/
theorem sceneAt_position (ticks : ℕ) (member : player ∈ epoch.players) :
    epoch.config.arenaMinX ≤ (epoch.sceneAt ticks).position player.playerId ∧
      (epoch.sceneAt ticks).position player.playerId ≤ epoch.config.arenaMaxX := by
  induction ticks with
  | zero =>
    change _ ≤ ((epoch.playersById.get _).map (·.initialX)).getD 0 ∧ ((epoch.playersById.get _).map (·.initialX)).getD 0 ≤ _
    rw [(admitted.byId _ _).mpr ⟨member, rfl⟩]
    exact admitted.arena player member
  | succ ticks ih =>
    change _ ≤ epoch.moved _ _ _ ∧ epoch.moved _ _ _ ≤ _
    unfold moved
    split
    · rename_i evidence command
      obtain ⟨_, _, accepted⟩ := Option.bind_eq_some_iff.mp command
      obtain ⟨_, gate⟩ := Option.filter_eq_some_iff.mp accepted
      obtain ⟨_, _, _, _, _, low, high, _⟩ := of_decide_eq_true gate
      exact ⟨low, high⟩
    · exact ih

end

/-- The rules know no order of the players. -/
theorem sceneAt_perm (epoch : PvpEpoch) (perm : order.Perm epoch.players) (ticks : ℕ) :
    { epoch with players := order }.sceneAt ticks = epoch.sceneAt ticks := by
  have same : ∀ scene tick, { epoch with players := order }.next scene tick = epoch.next scene tick := by
    intro scene tick
    unfold next loss
    simp only [perm.countP_eq]
    rfl
  induction ticks with
  | zero => rfl
  | succ ticks ih => rw [sceneAt, sceneAt, ih, same]

end PvpEpoch

end ConvergeAudit.Replay
