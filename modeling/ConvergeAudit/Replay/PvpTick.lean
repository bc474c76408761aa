import ConvergeAudit.Lib.Loops
import ConvergeAudit.Replay.PvpRules

/-!
Each loop of `prepare_pvp_epoch` in integers. Together they take a state to the next scene of the rules.
-/

namespace ConvergeAudit.Replay
open Moon Bft Lib List Arithmetic

theorem unbounded_pvpAbs (value : ℤ) : pvpAbs .unbounded value = |value| := by
  unfold pvpAbs
  rw [unbounded_neg]
  split
  · rw [abs_of_nonneg (by omega)]
  · rw [abs_of_neg (by omega)]

namespace PvpEpoch

section
variable {epoch : PvpEpoch}

theorem Sound.scene_position (sound : epoch.Sound tick state) (member : player ∈ epoch.players) :
    (state.positions.get player.playerId).getD x = state.scene.position player.playerId := by
  obtain ⟨y, found⟩ := sound.placed player member
  simp only [PvpState.scene, found, Option.getD_some]

/-- The accepted commands of a tick, and how many commands were accepted so far. -/
abbrev acceptLoop (epoch : PvpEpoch) (arith : Arithmetic) (state : PvpState) (tick : ℤ) : Map Str PvpCommandEvidence × ℤ :=
  epoch.players.foldl (epoch.acceptStep arith state tick) (Map.empty, state.acceptedCommands)

abbrev occupyingTeams (epoch : PvpEpoch) (arith : Arithmetic) (positions hitPoints : Map Str ℤ) (rule : PvpObjectiveRule) :
    Map Str Bool :=
  epoch.players.foldl
    (fun m player => if occupies arith positions hitPoints rule player then m.set player.teamId true else m) Map.empty

theorem moveStep_eq :
    moveStep table = fun m player =>
      m.assignSome player.playerId ((table.get player.playerId).map (·.intent.moveToX)) := by
  funext m player
  unfold moveStep
  cases table.get player.playerId <;> rfl

variable (admitted : epoch.Admitted) (sound : epoch.Sound tick state) (started : 0 ≤ tick)
  (running : tick < epoch.config.ticksPerEpoch)
include admitted sound started running

theorem accepts_iff_gate (member : player ∈ epoch.players) (evidence : PvpCommandEvidence) :
    epoch.accepts .unbounded state tick player evidence = true ↔ epoch.Gate state.scene tick player evidence := by
  have late := admitted.limits.late.1
  have move := admitted.limits.move.1
  unfold accepts pvpCommandAllowed Gate
  dsimp only
  rw [sound.scene_position member]
  by_cases inside : epoch.config.arenaMinX ≤ evidence.intent.moveToX ∧ evidence.intent.moveToX ≤ epoch.config.arenaMaxX
  · have distance := abs_nonneg (evidence.intent.moveToX - state.scene.position player.playerId)
    simp only [ge_iff_le, inside, decide_true, Bool.and_self, if_true, unbounded_pvpAbs, unbounded_sub,
      unbounded_add, Bool.and_eq_true, decide_eq_true_eq, Bool.not_eq_true', gt_iff_lt, and_true, true_and]
    constructor
    · rintro ⟨target, ⟨⟨⟨⟨⟨⟨⟨⟨alive, honest⟩, _⟩, _⟩, _⟩, early⟩, due⟩, _⟩, _⟩, near⟩
      exact ⟨alive, honest, target, early, due, near⟩
    · rintro ⟨alive, honest, target, early, due, near⟩
      exact ⟨target, ⟨⟨⟨⟨⟨⟨⟨⟨alive, honest⟩, started⟩, running⟩, late⟩, early⟩, due⟩, distance⟩, move⟩, near⟩
  · have outside : (decide (evidence.intent.moveToX ≥ epoch.config.arenaMinX) &&
        decide (evidence.intent.moveToX ≤ epoch.config.arenaMaxX)) = false := by
      simpa [← not_and_or] using inside
    rw [outside]
    simp only [Bool.and_false, Bool.false_eq_true, false_iff]
    rintro ⟨_, _, _, _, _, low, high, _⟩
    exact inside ⟨low, high⟩

theorem acceptStep_eq (member : player ∈ epoch.players) :
    epoch.acceptStep .unbounded state tick table player =
      (table.1.assignSome player.playerId (epoch.accepted state.scene tick player),
        table.2 + if (epoch.accepted state.scene tick player).isSome then 1 else 0) := by
  unfold acceptStep accepted
  cases epoch.commandsBySlot.get (pvpSlot tick player.playerId) with
  | none => simp [Map.assignSome]
  | some evidence =>
    have gate := accepts_iff_gate admitted sound started running member evidence
    by_cases passes : epoch.Gate state.scene tick player evidence
    · simp [gate.mpr passes, passes, Option.filter, Map.assignSome]
    · have refused : epoch.accepts .unbounded state tick player evidence = false := by
        rw [← Bool.not_eq_true, gate]
        exact passes
      simp [refused, passes, Option.filter, Map.assignSome]

theorem acceptLoop_eq {players : List PvpPlayer} (among : ∀ player ∈ players, player ∈ epoch.players)
    (table : Map Str PvpCommandEvidence × ℤ) :
    players.foldl (epoch.acceptStep .unbounded state tick) table =
      (players.foldl (fun m player => m.assignSome player.playerId (epoch.accepted state.scene tick player)) table.1,
        table.2 + players.countP fun player => (epoch.accepted state.scene tick player).isSome) := by
  induction players generalizing table with
  | nil => simp
  | cons player rest ih =>
    rw [foldl_cons, acceptStep_eq admitted sound started running (among player mem_cons_self),
      ih fun other member => among other (mem_cons_of_mem _ member), countP_cons, foldl_cons]
    simp only [Prod.mk.injEq, true_and]
    cases (epoch.accepted state.scene tick player).isSome with
    | false => simp
    | true =>
      push_cast
      omega

theorem get_acceptLoop : ∀ player ∈ epoch.players,
    (epoch.acceptLoop .unbounded state tick).1.get player.playerId = epoch.accepted state.scene tick player := by
  intro player member
  rw [acceptLoop, acceptLoop_eq admitted sound started running (fun _ member => member),
    Map.get_foldl_assignSome (·.playerId) (epoch.accepted state.scene tick) _ admitted.ids member]
  simp

end

/-- The tables after a player attacks the target. -/
def afterAttack (epoch : PvpEpoch) (state : PvpState) (tick : ℤ) (attacks : PvpAttacks) (player : PvpPlayer)
    (target : Str) : PvpAttacks :=
  let accumulated := (attacks.damageByTarget.get target).getD 0
  let strikes := 0 < state.hp target ∧ epoch.Strikes state.scene tick target player
  { attacks with
    lastAttackTicks := attacks.lastAttackTicks.set player.playerId tick
    damageByTarget := if strikes ∧ accumulated < state.hp target then
        attacks.damageByTarget.set target (min (state.hp target) (accumulated + epoch.config.attackDamage))
      else attacks.damageByTarget
    enemyDamage := if strikes then attacks.enemyDamage.set target true else attacks.enemyDamage }

section
variable {epoch : PvpEpoch} (admitted : epoch.Admitted) (sound : epoch.Sound tick state)
  {table : Map Str PvpCommandEvidence}
  (told : ∀ player ∈ epoch.players, table.get player.playerId = epoch.accepted state.scene tick player)
include admitted sound told

theorem get_moveLoop (member : player ∈ epoch.players) :
    (epoch.players.foldl (moveStep table) state.positions).get player.playerId =
      some (epoch.moved state.scene tick player.playerId) := by
  obtain ⟨x, found⟩ := sound.placed player member
  rw [moveStep_eq, Map.get_foldl_assignSome PvpPlayer.playerId _ _ admitted.ids member, told player member, found]
  unfold moved
  rw [(admitted.byId _ _).mpr ⟨member, rfl⟩, Option.bind_some]
  cases epoch.accepted state.scene tick player with
  | none => simp [PvpState.scene, found]
  | some evidence => rfl

theorem scene_moveLoop (id : Str) :
    ((epoch.players.foldl (moveStep table) state.positions).get id).getD 0 = epoch.moved state.scene tick id := by
  rcases Map.assigned_or_absent PvpPlayer.playerId epoch.players id with ⟨player, member, rfl⟩ | absent
  · rw [get_moveLoop admitted sound told member, Option.getD_some]
  · unfold moved
    rw [moveStep_eq, Map.get_foldl_assignSome_other PvpPlayer.playerId _ _ absent, admitted.playersById_eq_none absent]
    rfl

omit told in
theorem cooldownAllowed_iff (started : 0 ≤ tick) (id : Str) :
    pvpAttackCooldownAllowed .unbounded ((state.lastAttackTicks.get id).getD 0) (state.lastAttackTicks.contains id) tick
        epoch.attackCooldownTicks = true ↔
      ∀ t ∈ state.scene.lastAttack id, epoch.attackCooldownTicks ≤ tick - t := by
  have cooldown := admitted.cooldown
  change _ ↔ ∀ t ∈ state.lastAttackTicks.get id, _
  unfold pvpAttackCooldownAllowed Map.contains
  cases found : state.lastAttackTicks.get id with
  | none => simp [started, cooldown]
  | some t =>
    obtain ⟨nonneg, before⟩ := sound.attacked id t found
    simp [started, cooldown, nonneg, before.le]

variable {positions : Map Str ℤ} (placed : ∀ id, (positions.get id).getD 0 = epoch.moved state.scene tick id)
  (started : 0 ≤ tick) {attacks : PvpAttacks} (member : player ∈ epoch.players)
  (fresh : attacks.lastAttackTicks.get player.playerId = state.lastAttackTicks.get player.playerId)
include placed started member fresh

omit placed in
theorem attackStep_of_idle (idle : epoch.attacks state.scene tick player = none) :
    ∃ violators, epoch.attackStep .unbounded state tick table positions attacks player =
      { attacks with cooldownViolators := violators } := by
  have cooldown := cooldownAllowed_iff admitted sound started player.playerId
  have contains : attacks.lastAttackTicks.contains player.playerId = state.lastAttackTicks.contains player.playerId := by
    rw [Map.contains, fresh, Map.contains]
  unfold attackStep
  simp only [told player member, fresh, contains]
  split
  · exact ⟨_, rfl⟩
  · rename_i evidence command
    split
    · exact ⟨_, rfl⟩
    · rename_i target aim
      have tired := mt cooldown.mp fun rested => by
        unfold PvpEpoch.attacks at idle
        rw [if_pos rested, command, Option.bind_some, aim] at idle
        cases idle
      rw [Bool.eq_false_iff.mpr tired]
      exact ⟨_, rfl⟩

omit admitted sound told placed started member fresh in
theorem saturated (hp accumulated damage : ℤ) :
    (if damage ≥ hp - accumulated then hp else accumulated + damage) = min hp (accumulated + damage) := by
  split <;> omega

theorem attackStep_of_attack (attack : epoch.attacks state.scene tick player = some target) :
    epoch.attackStep .unbounded state tick table positions attacks player =
      epoch.afterAttack state tick attacks player target := by
  have cooldown := cooldownAllowed_iff admitted sound started player.playerId
  have contains : attacks.lastAttackTicks.contains player.playerId = state.lastAttackTicks.contains player.playerId := by
    rw [Map.contains, fresh, Map.contains]
  have attack' := attack
  unfold PvpEpoch.attacks at attack'
  split at attack'
  · rename_i rested
    obtain ⟨evidence, command, aim⟩ := Option.bind_eq_some_iff.mp attack'
    have alive : 0 < state.hp player.playerId := by
      obtain ⟨_, gate⟩ := Option.filter_eq_some_iff.mp command
      exact (of_decide_eq_true gate).1
    unfold attackStep afterAttack
    simp only [told player member, command, aim, fresh, contains, cooldown.mpr rested, Bool.not_true, Bool.false_eq_true,
      if_false, placed, unbounded_pvpAbs, unbounded_sub, unbounded_add, Strikes, attack, true_and]
    by_cases reach : 0 < state.hp target ∧
        |epoch.moved state.scene tick player.playerId - epoch.moved state.scene tick target| ≤ epoch.config.attackRange
    · simp only [saturated, gt_iff_lt, alive, reach, decide_true, Bool.and_self, and_self, true_and, if_true, sub_pos]
    · have missed : (decide (state.hp player.playerId > 0) && decide (state.hp target > 0) &&
          decide (|epoch.moved state.scene tick player.playerId - epoch.moved state.scene tick target| ≤
            epoch.config.attackRange)) = false := by
        rw [← Bool.not_eq_true, Bool.and_eq_true, Bool.and_eq_true]
        rintro ⟨⟨_, living⟩, near⟩
        exact reach ⟨of_decide_eq_true living, of_decide_eq_true near⟩
      simp only [missed, reach, false_and, if_false, Bool.false_eq_true]
  · cases attack'

end

/-- What the attack loop has filled after some attackers. -/
structure Dealt (epoch : PvpEpoch) (state : PvpState) (tick : ℤ) (done : List PvpPlayer) (attacks : PvpAttacks) :
    Prop where
  attacked : ∀ player ∈ done, attacks.lastAttackTicks.get player.playerId =
    if (epoch.attacks state.scene tick player).isSome then some tick else state.lastAttackTicks.get player.playerId
  others : ∀ id, (∀ player ∈ done, player.playerId ≠ id) → attacks.lastAttackTicks.get id = state.lastAttackTicks.get id
  damage : ∀ target, (attacks.damageByTarget.get target).getD 0 =
    min (state.hp target) (epoch.config.attackDamage * done.countP fun player => epoch.Strikes state.scene tick target player)
  enemy : ∀ target, 0 < state.hp target → (attacks.enemyDamage.contains target = true ↔
    ∃ player ∈ done, epoch.Strikes state.scene tick target player)

section
variable {epoch : PvpEpoch} {attacks : PvpAttacks} {player : PvpPlayer}

theorem countP_concat_of_pos [DecidablePred p] (holds : p player) :
    (done ++ [player]).countP (fun other => p other) = done.countP (fun other => p other) + 1 := by
  simp [countP_append, holds]

theorem countP_concat_of_neg [DecidablePred p] (fails : ¬ p player) :
    (done ++ [player]).countP (fun other => p other) = done.countP (fun other => p other) := by
  simp [countP_append, fails]

theorem Dealt.concat_idle (dealt : epoch.Dealt state tick done attacks)
    (fresh : ∀ other ∈ done, other.playerId ≠ player.playerId) (idle : epoch.attacks state.scene tick player = none) :
    epoch.Dealt state tick (done ++ [player]) { attacks with cooldownViolators := violators } := by
  have missed : ∀ target, ¬ epoch.Strikes state.scene tick target player := by
    rintro target ⟨attack, _⟩
    rw [idle] at attack
    cases attack
  refine ⟨?_, ?_, ?_, ?_⟩
  · refine forall_mem_concat dealt.attacked ?_
    rw [idle]
    exact dealt.others _ fresh
  · exact fun id absent => dealt.others id fun other member => absent other (mem_append_left _ member)
  · intro target
    rw [countP_concat_of_neg (missed target)]
    exact dealt.damage target
  · intro target alive
    simp only [dealt.enemy target alive, mem_append, mem_singleton, or_and_right, exists_or, exists_eq_left,
      missed, or_false]

theorem Dealt.concat_attack (dealt : epoch.Dealt state tick done attacks)
    (fresh : ∀ other ∈ done, other.playerId ≠ player.playerId)
    (attack : epoch.attacks state.scene tick player = some target) (nonneg : 0 ≤ state.hp target)
    (positive : 0 < epoch.config.attackDamage) :
    epoch.Dealt state tick (done ++ [player]) (epoch.afterAttack state tick attacks player target) := by
  unfold afterAttack
  have elsewhere : ∀ other, other ≠ target → ¬ epoch.Strikes state.scene tick other player := by
    rintro other different ⟨found, _⟩
    rw [attack] at found
    exact different (Option.some.inj found).symm
  refine ⟨?_, ?_, ?_, ?_⟩
  · intro other member
    rcases mem_append.mp member with earlier | now
    · rw [Map.get_set_other _ _ (fresh other earlier)]
      exact dealt.attacked other earlier
    · rw [mem_singleton.mp now, attack, Map.get_set_self]
      rfl
  · intro id absent
    rw [Map.get_set_other _ _ (Ne.symm (absent player (mem_append_right _ mem_cons_self)))]
    exact dealt.others id fun other member => absent other (mem_append_left _ member)
  · intro other
    dsimp only
    by_cases here : other = target
    · subst here
      have before := dealt.damage other
      by_cases struck : epoch.Strikes state.scene tick other player
      · have total : 0 ≤ epoch.config.attackDamage *
            (done.countP fun player => epoch.Strikes state.scene tick other player : ℕ) :=
          Int.mul_nonneg positive.le (Int.natCast_nonneg _)
        rw [countP_concat_of_pos struck, Nat.cast_succ, Int.mul_add, Int.mul_one]
        split
        · rw [Map.get_set_self, Option.getD_some]
          omega
        · rename_i full
          have capped : 0 < state.hp other → state.hp other ≤ (attacks.damageByTarget.get other).getD 0 := fun alive =>
            not_lt.mp fun room => full ⟨⟨alive, struck⟩, room⟩
          omega
      · rw [countP_concat_of_neg struck, if_neg fun held => struck held.1.2]
        exact before
    · rw [countP_concat_of_neg (elsewhere other here), ← dealt.damage other]
      split
      · rw [Map.get_set_other _ _ here]
      · rfl
  · intro other alive
    have told := dealt.enemy other alive
    simp only [mem_append, mem_singleton, or_and_right, exists_or, exists_eq_left, ← told]
    by_cases here : other = target
    · subst here
      by_cases struck : epoch.Strikes state.scene tick other player
      · rw [if_pos ⟨alive, struck⟩]
        simp [Map.contains, struck]
      · rw [if_neg fun held => struck held.2]
        simp [struck]
    · rw [or_iff_left (elsewhere other here)]
      split
      · rw [Map.contains, Map.get_set_other _ _ here, Map.contains]
      · rfl

end

theorem Admitted.fresh {epoch : PvpEpoch} (admitted : epoch.Admitted) (split : epoch.players = done ++ player :: rest) :
    ∀ other ∈ done, other.playerId ≠ player.playerId := by
  have ids := admitted.ids
  rw [split, map_append, map_cons, nodup_append] at ids
  exact fun other member =>
    ids.2.2 other.playerId (mem_map_of_mem member) player.playerId mem_cons_self

section
variable {epoch : PvpEpoch} (admitted : epoch.Admitted) (sound : epoch.Sound tick state)
include admitted sound

theorem attackLoop_dealt {table : Map Str PvpCommandEvidence} (started : 0 ≤ tick)
    (told : ∀ player ∈ epoch.players, table.get player.playerId = epoch.accepted state.scene tick player)
    (placed : ∀ id, (positions.get id).getD 0 = epoch.moved state.scene tick id)
    (split : epoch.players = done ++ rest) :
    epoch.Dealt state tick done (done.foldl (epoch.attackStep .unbounded state tick table positions)
      ⟨Map.empty, Map.empty, state.lastAttackTicks, state.cooldownViolators⟩) := by
  refine Loops.foldl_prefix (epoch.Dealt state tick) ?_ ?_ split
  · intro done player rest attacks split dealt
    have member : player ∈ epoch.players := by
      rw [split]
      exact mem_append_right _ mem_cons_self
    have others := admitted.fresh split
    have fresh := dealt.others player.playerId others
    cases attack : epoch.attacks state.scene tick player with
    | none =>
      obtain ⟨violators, step⟩ := attackStep_of_idle admitted sound told started member fresh attack
      rw [step]
      exact dealt.concat_idle others attack
    | some target =>
      rw [attackStep_of_attack admitted sound told placed started member fresh attack]
      exact dealt.concat_attack others attack (sound.hp target) admitted.limits.damage.1
  · refine ⟨by simp, fun _ _ => rfl, fun target => ?_, fun target alive => by simp [Map.contains]⟩
    have nonneg := sound.hp target
    simp [nonneg]

theorem loss_bounds (target : Str) :
    0 ≤ epoch.loss state.scene tick target ∧ epoch.loss state.scene tick target ≤ state.hp target :=
  admitted.loss_bounds state.scene tick (sound.hp target)

omit admitted sound in
theorem unbounded_hpAfterEncounterDamage (nonneg : 0 ≤ damage) (capped : damage ≤ hp) :
    hpAfterEncounterDamage .unbounded hp damage (decide (damage > 0)) = hp - damage := by
  unfold hpAfterEncounterDamage
  rw [unbounded_sub]
  split
  · omega
  · split
    · rename_i unhurt
      simp only [Bool.or_eq_true, Bool.not_eq_true', decide_eq_false_iff_not, decide_eq_true_eq] at unhurt
      omega
    · split <;> omega

end

section
variable (epoch : PvpEpoch) (scene : PvpScene) (tick : ℤ)

def Falls (player : PvpPlayer) : Prop :=
  0 < scene.hp player.playerId ∧ (epoch.next scene tick).hp player.playerId = 0

instance (player : PvpPlayer) : Decidable (epoch.Falls scene tick player) := inferInstanceAs (Decidable (_ ∧ _))

end

def objectivePoints (epoch : PvpEpoch) (scene : PvpScene) (teamId : Str) : ℤ :=
  match epoch.objectiveRule with
  | none => 0
  | some rule => if epoch.HoldsAlone scene rule teamId then rule.scorePerTick else 0

/-- What the damage loop has filled after some players. -/
structure Suffered (epoch : PvpEpoch) (state : PvpState) (tick : ℤ) (done : List PvpPlayer)
    (table : Map Str ℤ × Map Str ℤ) : Prop where
  hit : ∀ player ∈ done, table.1.get player.playerId = some ((epoch.next state.scene tick).hp player.playerId)
  others : ∀ id, (∀ player ∈ done, player.playerId ≠ id) → table.1.get id = state.hitPoints.get id
  scores : ∀ id score, state.scores.get id = some score → table.2.get id = some (score +
    epoch.config.scorePerElimination * done.countP fun player =>
      epoch.Falls state.scene tick player ∧ pvpOtherTeam epoch.teams player.teamId = id)

section
variable {epoch : PvpEpoch} (admitted : epoch.Admitted) (sound : epoch.Sound tick state) {attacks : PvpAttacks}
  (dealt : epoch.Dealt state tick epoch.players attacks)
include admitted sound dealt

omit admitted sound in
theorem damage_eq_loss :
    (attacks.damageByTarget.get target).getD 0 = epoch.loss state.scene tick target := dealt.damage target

omit sound in
theorem eliminationScoreDelta_eq :
    pvpEliminationScoreDelta (state.hp player.playerId) ((epoch.next state.scene tick).hp player.playerId)
        (attacks.enemyDamage.contains player.playerId) epoch.config.scorePerElimination =
      if epoch.Falls state.scene tick player then epoch.config.scorePerElimination else 0 := by
  have positive := admitted.limits.elimination.1
  have lost : (epoch.next state.scene tick).hp player.playerId =
      state.hp player.playerId - epoch.loss state.scene tick player.playerId := rfl
  unfold pvpEliminationScoreDelta
  by_cases falls : epoch.Falls state.scene tick player
  · have alive : 0 < state.hp player.playerId := falls.1
    have gone := falls.2
    -- who falls has lost something, so somebody has struck
    have struck : attacks.enemyDamage.contains player.playerId = true := by
      rw [dealt.enemy _ alive]
      by_contra none
      have count : epoch.players.countP (fun other => epoch.Strikes state.scene tick player.playerId other) = 0 := by
        rw [countP_eq_zero]
        intro other member strikes
        exact none ⟨other, member, of_decide_eq_true strikes⟩
      have nothing : epoch.loss state.scene tick player.playerId = min (state.hp player.playerId) 0 := by
        unfold loss
        rw [count, Nat.cast_zero, Int.mul_zero]
        rfl
      omega
    rw [if_pos falls]
    simp only [gt_iff_lt, alive, gone, struck, positive, beq_self_eq_true, decide_true, Bool.and_self, if_true]
  · rw [if_neg falls, if_neg]
    simp only [Bool.and_eq_true, decide_eq_true_eq, beq_iff_eq]
    rintro ⟨⟨⟨alive, gone⟩, _⟩, _⟩
    exact falls ⟨alive, gone⟩

theorem Suffered.concat {done rest : List PvpPlayer} (split : epoch.players = done ++ player :: rest)
    (suffered : epoch.Suffered state tick done table) :
    epoch.Suffered state tick (done ++ [player]) (epoch.damageStep .unbounded attacks table player) := by
  have fresh := admitted.fresh split
  obtain ⟨nonneg, capped⟩ := loss_bounds admitted sound player.playerId
  have before : (table.1.get player.playerId).getD 0 = state.hp player.playerId := by
    rw [suffered.others _ fresh, PvpState.hp]
  have step : epoch.damageStep .unbounded attacks table player =
      (table.1.set player.playerId ((epoch.next state.scene tick).hp player.playerId),
        if epoch.Falls state.scene tick player then
          table.2.set (pvpOtherTeam epoch.teams player.teamId)
            ((table.2.get (pvpOtherTeam epoch.teams player.teamId)).getD 0 + epoch.config.scorePerElimination)
        else table.2) := by
    have after : hpAfterEncounterDamage .unbounded (state.hp player.playerId)
        (epoch.loss state.scene tick player.playerId) (decide (epoch.loss state.scene tick player.playerId > 0)) =
          (epoch.next state.scene tick).hp player.playerId := unbounded_hpAfterEncounterDamage nonneg capped
    have positive := admitted.limits.elimination.1
    unfold damageStep
    dsimp only
    rw [before, damage_eq_loss dealt, after, eliminationScoreDelta_eq admitted dealt, unbounded_add]
    by_cases falls : epoch.Falls state.scene tick player
    · simp only [if_pos falls, gt_iff_lt, positive, if_true]
    · simp only [if_neg falls, gt_iff_lt, lt_irrefl, if_false]
  rw [step]
  refine ⟨fun other member => ?_, fun id absent => ?_, fun id score found => ?_⟩
  · dsimp only
    rcases mem_append.mp member with earlier | now
    · rw [Map.get_set_other _ _ (fresh other earlier)]
      exact suffered.hit other earlier
    · rw [mem_singleton.mp now, Map.get_set_self]
  · dsimp only
    rw [Map.get_set_other _ _ (Ne.symm (absent player (mem_append_right _ mem_cons_self)))]
    exact suffered.others id fun other member => absent other (mem_append_left _ member)
  · dsimp only
    have earlier := suffered.scores id score found
    by_cases gains : epoch.Falls state.scene tick player ∧ pvpOtherTeam epoch.teams player.teamId = id
    · rw [countP_concat_of_pos gains, if_pos gains.1, gains.2, Map.get_set_self, earlier, Option.getD_some, Nat.cast_succ,
        Int.mul_add, Int.mul_one, Int.add_assoc]
    · rw [countP_concat_of_neg gains, ← earlier]
      split
      · rename_i falls
        rw [Map.get_set_other _ _ fun same => gains ⟨falls, same.symm⟩]
      · rfl

theorem damageLoop_suffered (split : epoch.players = done ++ rest) :
    epoch.Suffered state tick done
      (done.foldl (epoch.damageStep .unbounded attacks) (state.hitPoints, state.scores)) := by
  refine Loops.foldl_prefix (epoch.Suffered state tick) ?_ ?_ split
  · exact fun done player rest table split suffered => suffered.concat admitted sound dealt split
  · exact ⟨by simp, fun _ _ => rfl, fun id score found => by simp [found]⟩

end

section
variable {epoch : PvpEpoch} {scene : PvpScene} {positions hitPoints : Map Str ℤ} (admitted : epoch.Admitted)
  (placed : ∀ player ∈ epoch.players, positions.get player.playerId = some (scene.position player.playerId))
  (lives : ∀ player ∈ epoch.players, hitPoints.get player.playerId = some (scene.hp player.playerId))
include placed lives

theorem occupyingTeams_spec :
    let occupying := epoch.occupyingTeams .unbounded positions hitPoints rule
    occupying.Distinct ∧ ∀ teamId, occupying.contains teamId = true ↔ epoch.Holds scene rule teamId := by
  intro occupying
  have keys : occupying = ((epoch.players.filter (occupies .unbounded positions hitPoints rule)).map (·.teamId)).foldl
      (fun m key => m.set key true) Map.empty := by
    rw [foldl_map, foldl_filter]
  refine ⟨by rw [keys]; exact Map.distinct_foldl_set _ Map.distinct_empty, fun teamId => ?_⟩
  rw [keys, Map.contains_foldl_set]
  simp only [mem_map, mem_filter, Map.contains, Map.get_empty, Option.isSome_none, Bool.false_eq_true, or_false]
  constructor
  · rintro ⟨player, ⟨member, occupied⟩, team⟩
    unfold occupies at occupied
    rw [placed player member, lives player member, unbounded_pvpAbs, unbounded_sub, Bool.and_eq_true,
      decide_eq_true_eq, decide_eq_true_eq] at occupied
    exact ⟨player, member, team, occupied.1, occupied.2⟩
  · rintro ⟨player, member, team, alive, near⟩
    refine ⟨player, ⟨member, ?_⟩, team⟩
    unfold occupies
    rw [placed player member, lives player member, unbounded_pvpAbs, unbounded_sub, Bool.and_eq_true,
      decide_eq_true_eq, decide_eq_true_eq]
    exact ⟨alive, near⟩

include admitted

theorem objectiveScoreDelta_eq (ruled : epoch.objectiveRule = some rule) (teamId : Str) :
    let occupying := epoch.occupyingTeams .unbounded positions hitPoints rule
    pvpObjectiveScoreDelta occupying.length (occupying.contains teamId) rule.scorePerTick =
      if epoch.HoldsAlone scene rule teamId then rule.scorePerTick else 0 := by
  have positive := (admitted.objective rule ruled).2.1
  obtain ⟨distinct, holds⟩ := occupyingTeams_spec placed lives
  unfold pvpObjectiveScoreDelta
  congr 1
  simp only [Bool.and_eq_true, beq_iff_eq, decide_eq_true_eq, gt_iff_lt, positive, and_true, eq_iff_iff, Nat.cast_eq_one]
  constructor
  · rintro ⟨one, here⟩
    exact ⟨(holds _).mp here, fun other _ held => (distinct.length_eq_one_iff here).mp one _ ((holds _).mpr held)⟩
  · rintro ⟨held, alone⟩
    have here := (holds _).mpr held
    refine ⟨(distinct.length_eq_one_iff here).mpr fun key found => ?_, here⟩
    obtain ⟨player, living, same, occupied⟩ := (holds key).mp found
    obtain ⟨other, listed, named⟩ := admitted.team player living
    rw [← same, ← named]
    exact alone other listed ⟨player, living, named.symm, occupied⟩

theorem get_scoreObjective (member : team ∈ epoch.teams) (found : scores.get team.teamId = some score) :
    (epoch.scoreObjective .unbounded positions hitPoints scores).get team.teamId =
      some (score + epoch.objectivePoints scene team.teamId) := by
  unfold scoreObjective objectivePoints
  cases ruled : epoch.objectiveRule with
  | none => simp [found]
  | some rule =>
    obtain ⟨first, second, teams, different⟩ := admitted.teams
    have delta := objectiveScoreDelta_eq admitted placed lives ruled
    have step : ∀ (scores : Map Str ℤ) (scored : PvpTeam) (id : Str),
        (objectiveStep .unbounded (epoch.occupyingTeams .unbounded positions hitPoints rule) rule scores scored).get id =
          if id = scored.teamId ∧ epoch.HoldsAlone scene rule scored.teamId then
            some ((scores.get id).getD scored.initialScore + rule.scorePerTick) else scores.get id := by
      intro scores scored id
      have positive := (admitted.objective rule ruled).2.1
      unfold objectiveStep
      dsimp only
      rw [delta, unbounded_add]
      by_cases alone : epoch.HoldsAlone scene rule scored.teamId
      · rw [if_pos alone, if_pos positive, Map.get_set]
        by_cases here : id = scored.teamId
        · rw [if_pos here, if_pos ⟨here, alone⟩, here]
        · rw [if_neg here, if_neg fun held => here held.1]
      · rw [if_neg alone, if_neg (lt_irrefl 0), if_neg fun held => alone held.2]
    rw [teams] at member ⊢
    simp only [foldl_cons, foldl_nil, step]
    simp only [mem_cons, not_mem_nil, or_false] at member
    rcases member with rfl | rfl <;> by_cases alone : epoch.HoldsAlone scene rule team.teamId <;>
      simp [different, Ne.symm different, alone, found]

end

section
variable {epoch : PvpEpoch} (admitted : epoch.Admitted) (sound : epoch.Sound tick state) (started : 0 ≤ tick)
  (running : tick < epoch.config.ticksPerEpoch)
include admitted sound started running

theorem step_unbounded :
    ∃ positions attacks damage,
      epoch.step .unbounded state tick =
        { positions
          hitPoints := Prod.fst damage
          scores := epoch.scoreObjective .unbounded positions damage.1 damage.2
          lastAttackTicks := PvpAttacks.lastAttackTicks attacks
          cooldownViolators := attacks.cooldownViolators
          acceptedCommands := state.acceptedCommands +
            epoch.players.countP fun player => (epoch.accepted state.scene tick player).isSome } ∧
      (∀ player ∈ epoch.players, positions.get player.playerId = some (epoch.moved state.scene tick player.playerId)) ∧
      (∀ id, (positions.get id).getD 0 = epoch.moved state.scene tick id) ∧
      epoch.Dealt state tick epoch.players attacks ∧ epoch.Suffered state tick epoch.players damage := by
  have told := get_acceptLoop admitted sound started running
  have count : (epoch.acceptLoop .unbounded state tick).2 =
      state.acceptedCommands + epoch.players.countP fun player => (epoch.accepted state.scene tick player).isSome := by
    rw [acceptLoop, acceptLoop_eq admitted sound started running fun _ member => member]
  have placed := scene_moveLoop admitted sound told
  have whole := (append_nil epoch.players).symm
  have dealt := attackLoop_dealt admitted sound started told placed whole
  refine ⟨_, _, _, ?_, fun player member => get_moveLoop admitted sound told member, placed, dealt,
    damageLoop_suffered admitted sound dealt whole⟩
  rw [← count]
  rfl

omit started running in
theorem next_hp_of_absent {id : Str} (absent : ∀ player ∈ epoch.players, player.playerId ≠ id) :
    (epoch.next state.scene tick).hp id = state.hp id := by
  have missed : epoch.players.countP (fun player => epoch.Strikes state.scene tick id player) = 0 := by
    rw [countP_eq_zero]
    intro player _ strikes
    obtain ⟨attack, _⟩ := of_decide_eq_true strikes
    unfold attacks at attack
    split at attack
    · obtain ⟨evidence, command, aim⟩ := Option.bind_eq_some_iff.mp attack
      obtain ⟨_, gate⟩ := Option.filter_eq_some_iff.mp command
      have valid := (of_decide_eq_true gate).2.2.1
      rw [aim] at valid
      simp [targetValid, admitted.playersById_eq_none absent] at valid
    · cases attack
  have nonneg := sound.hp id
  have lost : (epoch.next state.scene tick).hp id = state.hp id - epoch.loss state.scene tick id := rfl
  have nothing : epoch.loss state.scene tick id = min (state.hp id) 0 := by
    unfold loss
    rw [missed, Nat.cast_zero, Int.mul_zero]
    rfl
  omega

/-- One tick of the code is one tick of the rules. -/
theorem scene_step : (epoch.step .unbounded state tick).scene = epoch.next state.scene tick := by
  obtain ⟨positions, attacks, damage, step, _, moved, dealt, suffered⟩ :=
    step_unbounded admitted sound started running
  rw [step]
  refine (PvpScene.mk.injEq ..).mpr ⟨funext moved, funext fun id => ?_, funext fun id => ?_⟩
  · rcases Map.assigned_or_absent PvpPlayer.playerId epoch.players id with ⟨player, member, rfl⟩ | absent
    · unfold PvpState.hp
      rw [suffered.hit player member, Option.getD_some]
      rfl
    · have kept := next_hp_of_absent admitted sound absent
      unfold PvpState.hp
      rw [suffered.others id absent]
      exact kept.symm
  · dsimp only
    rcases Map.assigned_or_absent PvpPlayer.playerId epoch.players id with ⟨player, member, rfl⟩ | absent
    · rw [dealt.attacked player member, (admitted.byId _ _).mpr ⟨member, rfl⟩]
      rfl
    · rw [dealt.others id absent, admitted.playersById_eq_none absent]
      rfl

theorem sound_step : epoch.Sound (tick + 1) (epoch.step .unbounded state tick) := by
  have refines := scene_step admitted sound started running
  refine ⟨?_, fun id => ?_, fun id t found => ?_⟩
  · obtain ⟨positions, _, _, step, placed, _⟩ := step_unbounded admitted sound started running
    intro player member
    exact ⟨_, by rw [step]; exact placed player member⟩
  · have after : (epoch.step .unbounded state tick).hp id = state.hp id - epoch.loss state.scene tick id :=
      congrFun (congrArg PvpScene.hp refines) id
    have bounds := loss_bounds admitted sound id
    omega
  · have after : (epoch.step .unbounded state tick).lastAttackTicks.get id =
        (epoch.next state.scene tick).lastAttack id := congrFun (congrArg PvpScene.lastAttack refines) id
    rw [after] at found
    unfold next at found
    dsimp only at found
    split at found
    · have same := Option.some.inj found
      omega
    · have earlier := sound.attacked id t found
      omega

/-- What a tick adds to the score of a team. -/
theorem scores_step (member : team ∈ epoch.teams) (found : state.scores.get team.teamId = some score) :
    (epoch.step .unbounded state tick).scores.get team.teamId = some (score +
      (epoch.config.scorePerElimination * epoch.players.countP fun player =>
        epoch.Falls state.scene tick player ∧ pvpOtherTeam epoch.teams player.teamId = team.teamId) +
      epoch.objectivePoints (epoch.next state.scene tick) team.teamId) := by
  obtain ⟨positions, attacks, damage, step, placed, _, _, suffered⟩ :=
    step_unbounded admitted sound started running
  rw [step]
  exact get_scoreObjective admitted placed suffered.hit member (suffered.scores _ _ found)

end

end PvpEpoch

end ConvergeAudit.Replay
