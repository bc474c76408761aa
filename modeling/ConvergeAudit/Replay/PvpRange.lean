import ConvergeAudit.Replay.PvpTick

/-!
The configuration of an epoch is bounded, and so is everything the tick loop computes from it: every result is in the
32-bit range.
-/

namespace ConvergeAudit.Replay
open Moon Bft Lib List Arithmetic

section
variable {arith : Arithmetic} (exact : arith.ExactInt32)
include exact

theorem exact_pvpAbs_sub (lowA : -1000000 ≤ a) (highA : a ≤ 1000000) (lowB : -1000000 ≤ b) (highB : b ≤ 1000000) :
    pvpAbs arith (arith.sub a b) = pvpAbs .unbounded (unbounded.sub a b) := by
  rw [exact.sub ⟨by omega, by omega⟩, unbounded_sub]
  unfold pvpAbs
  rw [exact.neg ⟨by omega, by omega⟩, unbounded_neg]

theorem exact_pvpAttackCooldownAllowed (nonneg : 0 ≤ previousTick) (before : previousTick ≤ tick) (early : tick ≤ 256) :
    pvpAttackCooldownAllowed arith previousTick hasPrevious tick cooldownTicks =
      pvpAttackCooldownAllowed .unbounded previousTick hasPrevious tick cooldownTicks := by
  unfold pvpAttackCooldownAllowed
  rw [exact.sub ⟨by omega, by omega⟩, unbounded_sub]

end

/-- The ranges after some ticks. A tick adds at most 1000 points for each player and for the objective, and one command for
each player. -/
structure PvpEpoch.InRange (epoch : PvpEpoch) (ticks : ℕ) (state : PvpState) : Prop extends epoch.Sound ticks state where
  position : ∀ id, -1000000 ≤ state.scene.position id ∧ state.scene.position id ≤ 1000000
  full : ∀ id, state.hp id ≤ 1000000
  score : ∀ team ∈ epoch.teams, ∃ score, state.scores.get team.teamId = some score ∧
    0 ≤ score ∧ score ≤ 1000000 + 66000 * ticks
  accepted : 0 ≤ state.acceptedCommands ∧ state.acceptedCommands ≤ 64 * ticks

variable {attacks : PvpAttacks}

namespace PvpEpoch

section
variable {epoch : PvpEpoch} (admitted : epoch.Admitted)
include admitted

theorem Admitted.countP_le (split : epoch.players = done ++ rest)
    (p : PvpPlayer → Bool) : done.countP p ≤ 64 := by
  have few := admitted.few
  rw [split, length_append] at few
  have counted : done.countP p ≤ done.length := countP_le_length
  omega

theorem Admitted.eliminationPoints_le {count : ℕ} (few : count ≤ 64) :
    0 ≤ epoch.config.scorePerElimination * count ∧ epoch.config.scorePerElimination * count ≤ 64000 := by
  obtain ⟨positive, bounded⟩ := admitted.limits.elimination
  refine ⟨Int.mul_nonneg positive.le (Int.natCast_nonneg _), ?_⟩
  calc epoch.config.scorePerElimination * count ≤ 1000 * count := Int.mul_le_mul_of_nonneg_right bounded (Int.natCast_nonneg _)
    _ ≤ 64000 := by omega

theorem Admitted.objectivePoints_le (scene : PvpScene) (teamId : Str) :
    0 ≤ epoch.objectivePoints scene teamId ∧ epoch.objectivePoints scene teamId ≤ 1000 := by
  unfold objectivePoints
  split
  · omega
  · rename_i rule ruled
    have limits := (admitted.objective rule ruled).2
    split <;> omega

end

section
variable {epoch : PvpEpoch} (admitted : epoch.Admitted) (range : epoch.InRange ticks state)
include admitted range

theorem InRange.moved (id : Str) :
    -1000000 ≤ epoch.moved state.scene ticks id ∧ epoch.moved state.scene ticks id ≤ 1000000 := by
  have arena := admitted.limits.arena
  unfold PvpEpoch.moved
  split
  · rename_i evidence command
    obtain ⟨player, _, accepted⟩ := Option.bind_eq_some_iff.mp command
    obtain ⟨_, gate⟩ := Option.filter_eq_some_iff.mp accepted
    obtain ⟨_, _, _, _, _, low, high, _⟩ := of_decide_eq_true gate
    omega
  · exact range.position id

variable {arith : Arithmetic} (exact : arith.ExactInt32) (running : (ticks : ℤ) < epoch.config.ticksPerEpoch)
include exact running

theorem exact_accepts (member : player ∈ epoch.players) (evidence : PvpCommandEvidence) :
    epoch.accepts arith state ticks player evidence = epoch.accepts .unbounded state ticks player evidence := by
  have limits := admitted.limits
  have arena := limits.arena
  have short := limits.ticks
  have late := limits.late
  have move := limits.move
  have current := range.position player.playerId
  unfold accepts pvpCommandAllowed
  dsimp only
  rw [range.scene_position member, exact.add ⟨by omega, by omega⟩, exact.add ⟨by omega, by omega⟩,
    unbounded_add, unbounded_add]
  by_cases inside : (decide (evidence.intent.moveToX ≥ epoch.config.arenaMinX) &&
      decide (evidence.intent.moveToX ≤ epoch.config.arenaMaxX)) = true
  · have bounds : epoch.config.arenaMinX ≤ evidence.intent.moveToX ∧ evidence.intent.moveToX ≤ epoch.config.arenaMaxX := by
      simpa using inside
    rw [exact_pvpAbs_sub exact (by omega) (by omega) current.1 current.2]
  · rw [if_neg inside, if_neg inside]

theorem exact_acceptLoop : epoch.acceptLoop arith state ticks = epoch.acceptLoop .unbounded state ticks := by
  refine Loops.foldl_congr fun done player rest split => ?_
  have member : player ∈ epoch.players := by
    rw [split]
    exact mem_append_right _ mem_cons_self
  have among : ∀ other ∈ done, other ∈ epoch.players := by
    rw [split]
    exact fun other earlier => mem_append_left _ earlier
  have counted := admitted.countP_le split fun other => (epoch.accepted state.scene ticks other).isSome
  have before := range.accepted
  have short := admitted.limits.ticks
  have total := congrArg Prod.snd (acceptLoop_eq admitted range.toSound (Int.natCast_nonneg _) running among
    (Map.empty, state.acceptedCommands))
  generalize done.foldl (epoch.acceptStep .unbounded state ticks) (Map.empty, state.acceptedCommands) = table at total ⊢
  unfold acceptStep
  split
  · rfl
  · rw [exact_accepts admitted range exact running member, unbounded_add, exact.add ⟨by omega, by omega⟩]

theorem exact_attackStep (placed : ∀ id, (positions.get id).getD 0 = epoch.moved state.scene ticks id)
    (dealt : epoch.Dealt state ticks done attacks) (fresh : ∀ other ∈ done, other.playerId ≠ player.playerId) :
    epoch.attackStep arith state ticks table positions attacks player =
      epoch.attackStep .unbounded state ticks table positions attacks player := by
  have limits := admitted.limits
  have short := limits.ticks
  have maxHp := limits.maxHp
  have damage := limits.damage
  unfold attackStep
  split
  · rfl
  · split
    · rfl
    · rename_i target _
      have actor := InRange.moved admitted range player.playerId
      have aim := InRange.moved admitted range target
      have previous : 0 ≤ (attacks.lastAttackTicks.get player.playerId).getD 0 ∧
          (attacks.lastAttackTicks.get player.playerId).getD 0 ≤ ticks := by
        rw [dealt.others _ fresh]
        cases found : state.lastAttackTicks.get player.playerId with
        | none => simp
        | some t =>
          have earlier := range.attacked _ t found
          simp only [Option.getD_some]
          omega
      have hp := range.hp target
      have full := range.full target
      have accumulated := dealt.damage target
      have total : 0 ≤ epoch.config.attackDamage *
          (done.countP fun player => epoch.Strikes state.scene ticks target player : ℕ) :=
        Int.mul_nonneg damage.1.le (Int.natCast_nonneg _)
      dsimp only
      rw [exact_pvpAttackCooldownAllowed exact previous.1 previous.2 (by omega), placed, placed,
        exact_pvpAbs_sub exact actor.1 actor.2 aim.1 aim.2, exact.sub ⟨by omega, by omega⟩,
        exact.add ⟨by omega, by omega⟩, unbounded_sub (state.hp target), unbounded_add]

omit range exact running in
theorem exists_otherTeam (teamId : Str) : ∃ team ∈ epoch.teams, team.teamId = pvpOtherTeam epoch.teams teamId := by
  obtain ⟨first, second, teams, _⟩ := admitted.teams
  rw [teams]
  unfold pvpOtherTeam
  by_cases same : first.teamId = teamId
  · exact ⟨second, by simp, by simp [same]⟩
  · exact ⟨first, by simp, by simp [same]⟩

theorem exact_damageStep {rest : List PvpPlayer} {table : Map Str ℤ × Map Str ℤ}
    (split : epoch.players = done ++ player :: rest) (suffered : epoch.Suffered state ticks done table) :
    epoch.damageStep arith attacks table player = epoch.damageStep .unbounded attacks table player := by
  have short := admitted.limits.ticks
  obtain ⟨positive, bounded⟩ := admitted.limits.elimination
  have full := range.full player.playerId
  have before : (table.1.get player.playerId).getD 0 = state.hp player.playerId := by
    rw [suffered.others _ (admitted.fresh split), PvpState.hp]
  obtain ⟨team, member, named⟩ := exists_otherTeam admitted player.teamId
  obtain ⟨score, found, nonneg, most⟩ := range.score team member
  have points := admitted.eliminationPoints_le (admitted.countP_le split fun other =>
    epoch.Falls state.scene ticks other ∧ pvpOtherTeam epoch.teams other.teamId = team.teamId)
  have scored := suffered.scores _ _ found
  unfold damageStep
  dsimp only
  rw [before, exact_hpAfterEncounterDamage exact (by omega), ← named, scored, Option.getD_some]
  unfold pvpEliminationScoreDelta
  split
  · rw [exact.add ⟨by omega, by omega⟩, unbounded_add]
  · rfl

end

section
variable {arith : Arithmetic} (exact : arith.ExactInt32) {epoch : PvpEpoch} (admitted : epoch.Admitted)
include exact admitted

omit admitted in
theorem exact_objectiveStep (found : scores.get team.teamId = some score) (bounds : 0 ≤ score ∧ score ≤ 1000000000)
    (limits : 0 < rule.scorePerTick ∧ rule.scorePerTick ≤ 1000) :
    objectiveStep arith occupying rule scores team = objectiveStep .unbounded occupying rule scores team := by
  unfold objectiveStep pvpObjectiveScoreDelta
  dsimp only
  rw [found, Option.getD_some]
  split
  · rw [exact.add ⟨by omega, by omega⟩, unbounded_add]
  · rfl

omit exact admitted in
theorem get_objectiveStep_other {id : Str} (different : id ≠ team.teamId) :
    (objectiveStep arith occupying rule scores team).get id = scores.get id := by
  unfold objectiveStep
  dsimp only
  split
  · rw [Map.get_set_other _ _ different]
  · rfl

theorem exact_scoreObjective {position : Str → ℤ}
    (placed : ∀ player ∈ epoch.players, positions.get player.playerId = some (position player.playerId))
    (near : ∀ id, -1000000 ≤ position id ∧ position id ≤ 1000000)
    (scored : ∀ team ∈ epoch.teams, ∃ score, scores.get team.teamId = some score ∧ 0 ≤ score ∧ score ≤ 1000000000) :
    epoch.scoreObjective arith positions hitPoints scores =
      epoch.scoreObjective .unbounded positions hitPoints scores := by
  unfold scoreObjective
  cases ruled : epoch.objectiveRule with
  | none => rfl
  | some rule =>
    obtain ⟨center, limits⟩ := admitted.objective rule ruled
    have arena := admitted.limits.arena
    have same : ∀ player ∈ epoch.players,
        occupies arith positions hitPoints rule player = occupies .unbounded positions hitPoints rule player := by
      intro player member
      have here := near player.playerId
      unfold occupies
      rw [placed player member, Option.getD_some,
        exact_pvpAbs_sub exact here.1 here.2 (by omega) (by omega)]
    have occupying : epoch.occupyingTeams arith positions hitPoints rule =
        epoch.occupyingTeams .unbounded positions hitPoints rule :=
      foldl_ext _ _ _ fun m player member => by rw [same player member]
    unfold occupyingTeams at occupying
    obtain ⟨first, second, teams, different⟩ := admitted.teams
    obtain ⟨score, found, bounds⟩ := scored first (by simp [teams])
    obtain ⟨score', found', bounds'⟩ := scored second (by simp [teams])
    dsimp only
    rw [occupying, teams, foldl_cons, foldl_cons, foldl_cons, foldl_cons, foldl_nil,
      foldl_nil, exact_objectiveStep exact found bounds limits]
    refine exact_objectiveStep exact ?_ bounds' limits
    rw [get_objectiveStep_other (Ne.symm different), found']

end

section
variable {arith : Arithmetic} (exact : arith.ExactInt32) {epoch : PvpEpoch} (admitted : epoch.Admitted)
  (range : epoch.InRange ticks state) (running : (ticks : ℤ) < epoch.config.ticksPerEpoch)
include exact admitted range running

omit exact in
theorem InRange.scored {table : Map Str ℤ × Map Str ℤ} (suffered : epoch.Suffered state ticks epoch.players table) :
    ∀ team ∈ epoch.teams, ∃ score, table.2.get team.teamId = some score ∧ 0 ≤ score ∧ score ≤ 1000000000 := by
  intro team member
  have short := admitted.limits.ticks
  obtain ⟨score, found, nonneg, most⟩ := range.score team member
  have points := admitted.eliminationPoints_le (admitted.countP_le (append_nil epoch.players).symm fun other =>
    epoch.Falls state.scene ticks other ∧ pvpOtherTeam epoch.teams other.teamId = team.teamId)
  exact ⟨_, suffered.scores _ _ found, by omega, by omega⟩

omit exact admitted range running in
theorem step_eq (arith : Arithmetic) :
    epoch.step arith state ticks =
      let accepted := epoch.acceptLoop arith state ticks
      let positions := epoch.players.foldl (moveStep accepted.1) state.positions
      let attacks := epoch.players.foldl (epoch.attackStep arith state ticks accepted.1 positions)
        ⟨Map.empty, Map.empty, state.lastAttackTicks, state.cooldownViolators⟩
      let damage := epoch.players.foldl (epoch.damageStep arith attacks) (state.hitPoints, state.scores)
      { positions
        hitPoints := damage.1
        scores := epoch.scoreObjective arith positions damage.1 damage.2
        lastAttackTicks := attacks.lastAttackTicks
        cooldownViolators := attacks.cooldownViolators
        acceptedCommands := accepted.2 } := rfl

/-- The step lemma: a tick does not leave the 32-bit range. -/
theorem exact_step : epoch.step arith state ticks = epoch.step .unbounded state ticks := by
  have sound := range.toSound
  have started : (0 : ℤ) ≤ ticks := Int.natCast_nonneg _
  have told := get_acceptLoop admitted sound started running
  have placed := scene_moveLoop admitted sound told
  have whole := (append_nil epoch.players).symm
  have dealt := attackLoop_dealt admitted sound started told placed whole
  have suffered := damageLoop_suffered admitted sound dealt whole
  rw [step_eq, step_eq]
  dsimp only
  rw [exact_acceptLoop admitted range exact running]
  rw [Loops.foldl_congr fun _ _ _ split => exact_attackStep admitted range exact running placed
    (attackLoop_dealt admitted sound started told placed split) (admitted.fresh split)]
  rw [Loops.foldl_congr fun _ _ _ split => exact_damageStep admitted range exact running split
    (damageLoop_suffered admitted sound dealt split)]
  rw [exact_scoreObjective exact admitted (fun player member => get_moveLoop admitted sound told member)
    (InRange.moved admitted range) (InRange.scored admitted range running suffered)]

omit exact in
theorem inRange_step : epoch.InRange (ticks + 1) (epoch.step .unbounded state ticks) := by
  have sound := range.toSound
  have started : (0 : ℤ) ≤ ticks := Int.natCast_nonneg _
  have refines := scene_step admitted sound started running
  have whole := (append_nil epoch.players).symm
  refine ⟨by exact_mod_cast sound_step admitted sound started running, fun id => ?_, fun id => ?_, fun team member => ?_, ?_⟩
  · rw [refines]
    exact InRange.moved admitted range id
  · have after : (epoch.step .unbounded state ticks).hp id = state.hp id - epoch.loss state.scene ticks id :=
      congrFun (congrArg PvpScene.hp refines) id
    have bounds := loss_bounds admitted sound id
    have full := range.full id
    omega
  · obtain ⟨score, found, nonneg, most⟩ := range.score team member
    have eliminations := admitted.eliminationPoints_le (admitted.countP_le whole fun player =>
      epoch.Falls state.scene ticks player ∧ pvpOtherTeam epoch.teams player.teamId = team.teamId)
    have objective := admitted.objectivePoints_le (epoch.next state.scene ticks) team.teamId
    refine ⟨_, scores_step admitted sound started running member found, by omega, ?_⟩
    omega
  · obtain ⟨positions, attacks, damage, step, _⟩ := step_unbounded admitted sound started running
    have counted := admitted.countP_le whole fun player => (epoch.accepted state.scene ticks player).isSome
    have before := range.accepted
    rw [step]
    dsimp only
    push_cast
    omega

end

section
variable {epoch : PvpEpoch} (admitted : epoch.Admitted)
include admitted

theorem Admitted.get_foldl_set (value : PvpPlayer → ℤ) (id : Str) :
    (epoch.players.foldl (fun m player => m.set player.playerId (value player)) Map.empty).get id =
      (epoch.playersById.get id).map value := by
  rcases Map.assigned_or_absent PvpPlayer.playerId epoch.players id with ⟨player, member, rfl⟩ | absent
  · rw [Map.get_foldl_assign PvpPlayer.playerId _ _ admitted.ids member, (admitted.byId _ _).mpr ⟨member, rfl⟩]
    rfl
  · rw [Map.get_foldl_assign_other PvpPlayer.playerId _ _ absent, admitted.playersById_eq_none absent]
    rfl

theorem scene_initial : epoch.initial.scene = epoch.opening := by
  unfold PvpState.scene initial opening PvpState.hp
  simp only [admitted.get_foldl_set]
  rfl

theorem opening_bounds (id : Str) :
    (-1000000 ≤ epoch.opening.position id ∧ epoch.opening.position id ≤ 1000000) ∧
      0 ≤ epoch.opening.hp id ∧ epoch.opening.hp id ≤ 1000000 := by
  have limits := admitted.limits.arena
  have maxHp := admitted.limits.maxHp
  unfold opening
  dsimp only
  cases found : epoch.playersById.get id with
  | none => simp
  | some player =>
    obtain ⟨member, _⟩ := (admitted.byId _ _).mp found
    have arena := admitted.arena player member
    have hp := admitted.hp player member
    simp only [Option.map_some, Option.getD_some]
    omega

theorem get_initial_scores (member : team ∈ epoch.teams) :
    epoch.initial.scores.get team.teamId = some team.initialScore := by
  obtain ⟨first, second, teams, different⟩ := admitted.teams
  have distinct : (epoch.teams.map (·.teamId)).Nodup := by
    rw [teams]
    simpa using different
  exact Map.get_foldl_assign PvpTeam.teamId PvpTeam.initialScore _ distinct member

theorem inRange_initial : epoch.InRange 0 epoch.initial where
  placed player member :=
    ⟨_, Map.get_foldl_assign PvpPlayer.playerId PvpPlayer.initialX _ admitted.ids member⟩
  hp id := by
    change 0 ≤ epoch.initial.scene.hp id
    rw [scene_initial admitted]
    exact (opening_bounds admitted id).2.1
  attacked id t found := by cases found
  position id := by
    rw [scene_initial admitted]
    exact (opening_bounds admitted id).1
  full id := by
    change epoch.initial.scene.hp id ≤ 1000000
    rw [scene_initial admitted]
    exact (opening_bounds admitted id).2.2
  score team member := by
    have scores := admitted.scores team member
    exact ⟨_, get_initial_scores admitted member, scores.1, by simpa using scores.2⟩
  accepted := by simp [initial]

omit admitted in
theorem stateAt_succ : epoch.stateAt arith (ticks + 1) = epoch.step arith (epoch.stateAt arith ticks) ticks := by
  unfold stateAt
  rw [range_succ, foldl_append, foldl_cons, foldl_nil]

/-- The run lemma: the loop stays in range and follows the rules. -/
theorem stateAt_inRange {ticks : ℕ} (running : (ticks : ℤ) ≤ epoch.config.ticksPerEpoch) :
    epoch.InRange ticks (epoch.stateAt .unbounded ticks) ∧
      (epoch.stateAt .unbounded ticks).scene = epoch.sceneAt ticks := by
  induction ticks with
  | zero => exact ⟨inRange_initial admitted, scene_initial admitted⟩
  | succ ticks ih =>
    have before : (ticks : ℤ) < epoch.config.ticksPerEpoch := by
      omega
    obtain ⟨range, refines⟩ := ih before.le
    rw [stateAt_succ]
    refine ⟨inRange_step admitted range before, ?_⟩
    rw [scene_step admitted range.toSound (Int.natCast_nonneg _) before, refines]
    rfl

/-- No arithmetic that is exact on 32-bit results can be told from the integers. -/
theorem exact_stateAt (exact : arith.ExactInt32) {ticks : ℕ} (running : (ticks : ℤ) ≤ epoch.config.ticksPerEpoch) :
    epoch.stateAt arith ticks = epoch.stateAt .unbounded ticks := by
  induction ticks with
  | zero => rfl
  | succ ticks ih =>
    have before : (ticks : ℤ) < epoch.config.ticksPerEpoch := by
      omega
    have range := (stateAt_inRange admitted before.le).1
    rw [stateAt_succ, stateAt_succ, ih before.le, exact_step exact admitted range before]

end

end PvpEpoch

end ConvergeAudit.Replay
