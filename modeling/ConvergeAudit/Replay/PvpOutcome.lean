import ConvergeAudit.Replay.PvpAdmission
import ConvergeAudit.Replay.PvpRange

/-!
Scores are accounted for over the whole epoch, the commands of equivocators do not count, and a candidate reports what
the rules give.
-/

namespace ConvergeAudit.Replay
open Moon Bft Game Lib List

namespace PvpEpoch

def eliminations (epoch : PvpEpoch) (ticks : ℕ) (teamId : Str) : ℕ :=
  epoch.players.countP fun player =>
    player.teamId ≠ teamId ∧ 0 < player.initialHp ∧ (epoch.sceneAt ticks).hp player.playerId = 0

/-- Ticks at whose end the team holds the objective alone. -/
def ticksHeld (epoch : PvpEpoch) (rule : PvpObjectiveRule) (ticks : ℕ) (teamId : Str) : ℕ :=
  (List.range ticks).countP fun tick => epoch.HoldsAlone (epoch.sceneAt (tick + 1)) rule teamId

def scoreAt (epoch : PvpEpoch) (ticks : ℕ) (team : PvpTeam) : ℤ :=
  team.initialScore + epoch.config.scorePerElimination * epoch.eliminations ticks team.teamId +
    match epoch.objectiveRule with
    | none => 0
    | some rule => rule.scorePerTick * epoch.ticksHeld rule ticks team.teamId

section
variable {epoch : PvpEpoch} (admitted : epoch.Admitted)
include admitted

theorem otherTeam_eq_iff (member : player ∈ epoch.players) (listed : team ∈ epoch.teams) :
    pvpOtherTeam epoch.teams player.teamId = team.teamId ↔ player.teamId ≠ team.teamId := by
  obtain ⟨first, second, teams, different⟩ := admitted.teams
  obtain ⟨own, ownListed, named⟩ := admitted.team player member
  rw [teams] at listed ownListed ⊢
  simp only [mem_cons, not_mem_nil, or_false] at listed ownListed
  unfold pvpOtherTeam
  rw [← named]
  rcases ownListed with rfl | rfl <;> rcases listed with rfl | rfl
  · simp [Ne.symm different]
  · simp [different]
  · simp [different, Ne.symm different]
  · simp [different]

theorem opening_hp (member : player ∈ epoch.players) : epoch.opening.hp player.playerId = player.initialHp := by
  unfold opening
  dsimp only
  rw [(admitted.byId _ _).mpr ⟨member, rfl⟩]
  rfl

/-- Nobody is eliminated twice: a tick adds the players who fall in it. -/
theorem eliminations_succ (listed : team ∈ epoch.teams) :
    epoch.eliminations (ticks + 1) team.teamId = epoch.eliminations ticks team.teamId +
      epoch.players.countP fun player => epoch.Falls (epoch.sceneAt ticks) ticks player ∧
        pvpOtherTeam epoch.teams player.teamId = team.teamId := by
  unfold eliminations
  rw [countP_eq_countP_filter_add _ _ fun player => (epoch.sceneAt ticks).hp player.playerId = 0, countP_filter,
    countP_filter]
  congr 1
  · refine countP_congr fun player member => ?_
    have falling := hp_succ_le admitted ticks player.playerId
    have after := sceneAt_hp admitted (ticks + 1) player.playerId
    simp only [ne_eq, Bool.and_eq_true, decide_eq_true_eq]
    constructor
    · rintro ⟨⟨opposing, alive, _⟩, gone⟩
      exact ⟨opposing, alive, gone⟩
    · rintro ⟨opposing, alive, gone⟩
      exact ⟨⟨opposing, alive, by omega⟩, gone⟩
  · refine countP_congr fun player member => ?_
    have before := sceneAt_hp admitted ticks player.playerId
    have alive := opening_hp admitted member
    simp only [ne_eq, Bool.and_eq_true, decide_eq_true_eq, Bool.not_eq_true', decide_eq_false_iff_not,
      otherTeam_eq_iff admitted member listed]
    constructor
    · rintro ⟨⟨opposing, _, gone⟩, living⟩
      exact ⟨⟨by omega, gone⟩, opposing⟩
    · rintro ⟨⟨living, gone⟩, opposing⟩
      exact ⟨⟨opposing, by omega, gone⟩, by omega⟩

omit admitted in
theorem ticksHeld_succ :
    epoch.ticksHeld rule (ticks + 1) teamId = epoch.ticksHeld rule ticks teamId +
      if epoch.HoldsAlone (epoch.sceneAt (ticks + 1)) rule teamId then 1 else 0 := by
  unfold ticksHeld
  rw [range_succ, countP_append, countP_singleton]
  simp only [decide_eq_true_eq]

theorem scoreAt_succ (listed : team ∈ epoch.teams) :
    epoch.scoreAt (ticks + 1) team = epoch.scoreAt ticks team +
      (epoch.config.scorePerElimination * epoch.players.countP fun player =>
        epoch.Falls (epoch.sceneAt ticks) ticks player ∧ pvpOtherTeam epoch.teams player.teamId = team.teamId) +
      epoch.objectivePoints (epoch.sceneAt (ticks + 1)) team.teamId := by
  unfold scoreAt objectivePoints
  rw [eliminations_succ admitted listed, Nat.cast_add, Int.mul_add]
  cases epoch.objectiveRule with
  | none =>
    dsimp only
    omega
  | some rule =>
    dsimp only
    rw [ticksHeld_succ]
    split
    · rw [Nat.cast_add, Int.mul_add, Nat.cast_one, Int.mul_one]
      omega
    · rw [Nat.add_zero]
      omega

omit admitted in
theorem scoreAt_perm (epoch : PvpEpoch) (perm : order.Perm epoch.players) (ticks : ℕ) (team : PvpTeam) :
    { epoch with players := order }.scoreAt ticks team = epoch.scoreAt ticks team := by
  have holds : ∀ scene rule teamId,
      { epoch with players := order }.HoldsAlone scene rule teamId ↔ epoch.HoldsAlone scene rule teamId := by
    intro scene rule teamId
    unfold HoldsAlone Holds
    simp only [perm.mem_iff]
  unfold scoreAt eliminations ticksHeld
  simp only [sceneAt_perm epoch perm, perm.countP_eq, holds]

/-- The run lemma of the scores. -/
theorem get_scores_stateAt (listed : team ∈ epoch.teams) {ticks : ℕ}
    (running : (ticks : ℤ) ≤ epoch.config.ticksPerEpoch) :
    (epoch.stateAt .unbounded ticks).scores.get team.teamId = some (epoch.scoreAt ticks team) := by
  induction ticks with
  | zero =>
    have start := get_initial_scores admitted listed
    have nobody : epoch.eliminations 0 team.teamId = 0 := by
      unfold eliminations
      rw [countP_eq_zero]
      intro player member
      have alive := opening_hp admitted member
      simp only [decide_eq_true_eq]
      rintro ⟨_, living, gone⟩
      have gone : epoch.opening.hp player.playerId = 0 := gone
      omega
    have score : epoch.scoreAt 0 team = team.initialScore := by
      unfold scoreAt
      rw [nobody]
      cases epoch.objectiveRule <;> simp [ticksHeld]
    rw [score]
    exact start
  | succ ticks ih =>
    have before : (ticks : ℤ) < epoch.config.ticksPerEpoch := by
      push_cast at running
      omega
    obtain ⟨range, refines⟩ := stateAt_inRange admitted before.le
    rw [stateAt_succ, scores_step admitted range.toSound (Int.natCast_nonneg _) before listed (ih before.le), refines,
      scoreAt_succ admitted listed]
    rfl

end

def effective (epoch : PvpEpoch) (tick : ℤ) (playerId : Str) : Option PvpCommandEvidence :=
  if epoch.equivocators.contains playerId then none else epoch.commandsBySlot.get (pvpSlot tick playerId)

theorem effective_unmarked (counts : effective epoch tick playerId = some evidence) :
    epoch.equivocators.contains playerId = false := by
  unfold effective at counts
  split at counts
  · cases counts
  · exact Bool.eq_false_iff.mpr ‹_›

theorem acceptStep_effective (epoch : PvpEpoch) (state : PvpState) (tick : ℤ)
    (accepted : Map Str PvpCommandEvidence × ℤ) (player : PvpPlayer) :
    epoch.acceptStep arith state tick accepted player =
      match epoch.effective tick player.playerId with
      | none => accepted
      | some evidence =>
        if epoch.accepts arith state tick player evidence then
          (accepted.1.set player.playerId evidence, arith.add accepted.2 1)
        else accepted := by
  unfold acceptStep effective
  cases marked : epoch.equivocators.contains player.playerId with
  | false => rfl
  | true =>
    cases epoch.commandsBySlot.get (pvpSlot tick player.playerId) with
    | none => rfl
    | some evidence =>
      have refused : epoch.accepts arith state tick player evidence = false := by
        simp [accepts, pvpCommandAllowed, marked]
      simp [refused]

/-- Two epochs that differ at most in commands that do not count. -/
structure Alike (epoch other : PvpEpoch) : Prop where
  config : epoch.config = other.config
  cooldown : epoch.attackCooldownTicks = other.attackCooldownTicks
  objective : epoch.objectiveRule = other.objectiveRule
  players : epoch.players = other.players
  teams : epoch.teams = other.teams
  byId : ∀ id, epoch.playersById.get id = other.playersById.get id
  effective : ∀ player ∈ epoch.players, ∀ tick,
    epoch.effective tick player.playerId = other.effective tick player.playerId

section
variable {epoch other : PvpEpoch} (alike : epoch.Alike other)
include alike

section
variable (arith : Arithmetic) (state : PvpState) (tick : ℤ)

theorem Alike.accepts (player : PvpPlayer)
    (counts : epoch.effective tick player.playerId = some evidence)
    (counts' : other.effective tick player.playerId = some evidence) :
    epoch.accepts arith state tick player evidence = other.accepts arith state tick player evidence := by
  have targets : ∀ target, epoch.targetValid player target = other.targetValid player target := by
    intro target
    cases target with
    | none => rfl
    | some target => simp only [targetValid, alike.byId]
  unfold PvpEpoch.accepts
  simp only [targets, effective_unmarked counts, effective_unmarked counts', alike.config]

theorem Alike.acceptLoop (start : Map Str PvpCommandEvidence × ℤ) :
    epoch.players.foldl (epoch.acceptStep arith state tick) start =
      other.players.foldl (other.acceptStep arith state tick) start := by
  rw [← alike.players]
  refine foldl_ext _ _ _ fun accepted player member => ?_
  have same := alike.effective player member tick
  rw [acceptStep_effective, acceptStep_effective, ← same]
  cases counts : epoch.effective tick player.playerId with
  | none => rfl
  | some evidence =>
    dsimp only
    rw [alike.accepts arith state tick player counts (same.symm.trans counts)]

theorem Alike.step :
    epoch.step arith state tick = other.step arith state tick := by
  have accepts := alike.acceptLoop arith state tick (Map.empty, state.acceptedCommands)
  obtain ⟨config', cooldown', objective', byId', players', teams', commands', equivocators'⟩ := other
  obtain ⟨sameConfig, sameCooldown, sameObjective, samePlayers, sameTeams, _, _⟩ := alike
  cases sameConfig
  cases sameCooldown
  cases sameObjective
  cases samePlayers
  cases sameTeams
  unfold PvpEpoch.step
  rw [accepts]
  rfl

end

theorem Alike.stateAt (arith : Arithmetic) (ticks : ℕ) : epoch.stateAt arith ticks = other.stateAt arith ticks := by
  induction ticks with
  | zero =>
    change epoch.initial = other.initial
    unfold PvpEpoch.initial
    rw [alike.players, alike.teams]
  | succ ticks ih => rw [stateAt_succ, stateAt_succ, ih, alike.step]

end

end PvpEpoch

theorem PvpEpoch.Admitted.ticks_toNat {epoch : PvpEpoch} (admitted : epoch.Admitted) :
    (epoch.config.ticksPerEpoch.toNat : ℤ) = epoch.config.ticksPerEpoch :=
  Int.toNat_of_nonneg admitted.limits.ticks.1.le

section
variable (read : pvpCommandIndex sessionId refereeKey config playersById transcript = .ok index)
  (digests : DigestsFaithful (pvpTranscriptEvents transcript))
include read digests

theorem pvpCommandIndex_tells : index.Tells pvpIndexing transcript :=
  SlotIndex.readAll_tells (pvpIndexing_faithful (SlotIndex.readAll_admitted read) digests) read

theorem pvpCommandIndex_bySlot (tick : ℤ) (playerId : Str) :
    index.bySlot.get (pvpSlot tick playerId) =
      transcript.find? fun evidence => evidence.intent.tick = tick ∧ evidence.intent.playerId = playerId := by
  rw [(pvpCommandIndex_tells read digests).bySlot]
  have slots : (fun evidence : PvpCommandEvidence => decide (pvpIndexing.slot evidence = pvpSlot tick playerId)) =
      fun evidence => decide (evidence.intent.tick = tick ∧ evidence.intent.playerId = playerId) := by
    funext evidence
    refine decide_eq_decide.mpr ⟨fun same => pvpSlot_inj same, fun same => ?_⟩
    rw [← same.1, ← same.2]
    rfl
  change transcript.find? _ = _
  rw [slots]

theorem pvpCommandIndex_conflicts (playerId : Str) :
    index.conflicts.contains playerId = true ↔ ∃ a ∈ transcript, ∃ b ∈ transcript, a.intent.playerId = playerId ∧
      b.intent.playerId = playerId ∧ a.intent.tick = b.intent.tick ∧ a.input.digest ≠ b.input.digest := by
  rw [(pvpCommandIndex_tells read digests).conflicts_iff fun _ _ _ _ same => pvpIndexing_keyed same]
  constructor
  · rintro ⟨item, _, owner, a, memberA, b, memberB, slotA, slotB, different⟩
    obtain ⟨tickA, playerA⟩ := pvpSlot_inj slotA
    obtain ⟨tickB, playerB⟩ := pvpSlot_inj slotB
    exact ⟨a, memberA, b, memberB, playerA.trans owner, playerB.trans owner, tickA.trans tickB.symm, different⟩
  · rintro ⟨a, memberA, b, memberB, playerA, playerB, ticks, different⟩
    have slots : pvpIndexing.slot b = pvpIndexing.slot a := by
      change pvpSlot b.intent.tick b.intent.playerId = pvpSlot a.intent.tick a.intent.playerId
      rw [ticks, playerA, playerB]
    exact ⟨a, memberA, playerA, a, memberA, b, memberB, rfl, slots, different⟩

theorem pvpEpochOf_alike_calm (attackCooldownTicks : ℤ) (objectiveRule : Option PvpObjectiveRule)
    (order : List PvpPlayer) (listed : List PvpTeam) (unmarked : ∀ key, calm.conflicts.contains key = false)
    (kept : ∀ slot, calm.bySlot.get slot =
      (index.bySlot.get slot).filter fun evidence => !index.conflicts.contains (pvpIndexing.conflict evidence)) :
    (pvpEpochOf config attackCooldownTicks objectiveRule playersById order listed calm).Alike
      (pvpEpochOf config attackCooldownTicks objectiveRule playersById order listed index) where
  config := rfl
  cooldown := rfl
  objective := rfl
  players := rfl
  teams := rfl
  byId _ := rfl
  effective player _ tick := by
    unfold PvpEpoch.effective pvpEpochOf
    rw [unmarked, kept]
    cases found : index.bySlot.get (pvpSlot tick player.playerId) with
    | none => simp
    | some evidence =>
      rw [pvpCommandIndex_bySlot read digests] at found
      have owner : evidence.intent.playerId = player.playerId := by
        have slot := find?_some found
        exact (of_decide_eq_true slot).2
      have conflict : pvpIndexing.conflict evidence = player.playerId := owner
      cases marked : index.conflicts.contains player.playerId with
      | true => simp [conflict, marked]
      | false => simp [conflict, marked]

end

theorem pvpCommandIndex_rostered {players : List PvpPlayer}
    (read : pvpCommandIndex sessionId refereeKey config playersById transcript = .ok index)
    (byId : ∀ id player, playersById.get id = some player ↔ player ∈ players ∧ player.playerId = id) :
    ∀ evidence ∈ transcript, ∃ player ∈ players, player.playerId = evidence.intent.playerId := by
  intro evidence member
  have passes := SlotIndex.readAll_admitted read evidence member
  unfold pvpCommandAdmitted at passes
  split at passes
  · cases passes
  · rename_i player found
    obtain ⟨listed, owner⟩ := (byId _ _).mp found
    exact ⟨player, listed, owner⟩

section
variable [StrOrder]

section
variable {epoch : PvpEpoch} (admitted : epoch.Admitted) {arith : Arithmetic} (exact : arith.ExactInt32)
  (gameManifest manifest : Digest)
include admitted exact

theorem pvpEpochCandidate_playerStates :
    (pvpEpochCandidate hasher sessionId refereeKey gameManifest manifest transcript epoch (epoch.run arith)).playerStates =
      epoch.players.map fun player =>
        { playerId := player.playerId, teamId := player.teamId
          positionX := (epoch.sceneAt epoch.config.ticksPerEpoch.toNat).position player.playerId
          hp := (epoch.sceneAt epoch.config.ticksPerEpoch.toNat).hp player.playerId } := by
  obtain ⟨range, refines⟩ := PvpEpoch.stateAt_inRange admitted admitted.ticks_toNat.le
  unfold PvpEpoch.run pvpEpochCandidate
  rw [PvpEpoch.exact_stateAt admitted exact admitted.ticks_toNat.le]
  refine map_congr_left fun player member => ?_
  rw [range.scene_position member, ← refines]
  rfl

theorem pvpEpochCandidate_teamStates :
    (pvpEpochCandidate hasher sessionId refereeKey gameManifest manifest transcript epoch (epoch.run arith)).teamStates =
      epoch.teams.map fun team =>
        { teamId := team.teamId, score := epoch.scoreAt epoch.config.ticksPerEpoch.toNat team } := by
  unfold PvpEpoch.run pvpEpochCandidate
  rw [PvpEpoch.exact_stateAt admitted exact admitted.ticks_toNat.le]
  refine map_congr_left fun team member => ?_
  rw [PvpEpoch.get_scores_stateAt admitted member admitted.ticks_toNat.le, Option.getD_some]

end

theorem mem_pvpEpochCandidate_equivocators (id : Str) :
    id ∈ (pvpEpochCandidate hasher sessionId refereeKey gameManifest manifest transcript epoch state).equivocators ↔
      epoch.equivocators.contains id = true ∧ ∃ player ∈ epoch.players, player.playerId = id := by
  unfold pvpEpochCandidate
  simp only [mem_map, mem_filter]
  constructor
  · rintro ⟨player, ⟨member, marked⟩, rfl⟩
    exact ⟨marked, player, member, rfl⟩
  · rintro ⟨marked, player, member, rfl⟩
    exact ⟨player, ⟨member, marked⟩, rfl⟩

theorem preparePvpEpoch_without_equivocators
    (ready : preparePvpEpoch arith hasher sessionId refereeKey config teams players transcript witnesses maxFaults
      attackCooldownTicks objectiveRule = .pvpCandidateReady candidate)
    (digests : DigestsFaithful (pvpTranscriptEvents transcript)) :
    ∃ calm, preparePvpEpoch arith hasher sessionId refereeKey config teams players
        (transcript.filter fun evidence => evidence.intent.playerId ∉ candidate.equivocators) witnesses maxFaults
        attackCooldownTicks objectiveRule = .pvpCandidateReady calm ∧
      calm.playerStates = candidate.playerStates ∧ calm.teamStates = candidate.teamStates := by
  obtain ⟨header, teamsById, playersById, index, teamRoster, roster, watched, short, read, named, reported⟩ :=
    preparePvpEpoch_ready_iff.mp ready
  have rostered := pvpCommandIndex_rostered read (pvpPlayerMap_rosterOf roster).2.get_iff
  have faithful := pvpIndexing_faithful (SlotIndex.readAll_admitted read) digests
  obtain ⟨calm, read', unmarked, kept⟩ :=
    SlotIndex.readAll_filter (fun _ _ _ _ same => pvpIndexing_keyed same) faithful read
  have honest : (transcript.filter fun evidence => evidence.intent.playerId ∉ candidate.equivocators) =
      transcript.filter fun evidence => !index.conflicts.contains (pvpIndexing.conflict evidence) := by
    refine filter_congr fun evidence member => ?_
    obtain ⟨player, listed, owner⟩ := rostered evidence member
    have marks : evidence.intent.playerId ∈ candidate.equivocators ↔
        index.conflicts.contains evidence.intent.playerId = true := by
      rw [reported, mem_pvpEpochCandidate_equivocators]
      exact and_iff_left ⟨player, (sortBy_perm _ _).mem_iff.mpr listed, owner⟩
    rw [Bool.eq_iff_iff, decide_eq_true_eq, marks, Bool.not_eq_true', Bool.not_eq_true]
    rfl
  have run := (pvpEpochOf_alike_calm read digests attackCooldownTicks objectiveRule (sortedPvpPlayers players)
    (sortedPvpTeams teams) unmarked kept).stateAt arith config.ticksPerEpoch.toNat
  refine ⟨_, preparePvpEpoch_ready_iff.mpr ⟨header, teamsById, playersById, calm, teamRoster, roster, watched,
    (length_filter_le _ _).trans short, by rw [honest]; exact read', named, rfl⟩, ?_⟩
  rw [reported]
  unfold pvpEpochCandidate PvpEpoch.run
  dsimp only
  rw [show (pvpEpochOf config attackCooldownTicks objectiveRule playersById (sortedPvpPlayers players)
    (sortedPvpTeams teams) calm).config.ticksPerEpoch = config.ticksPerEpoch from rfl, run]
  exact ⟨rfl, rfl⟩

theorem pvp_epoch_follows_rules
    (ready : preparePvpEpoch .int32 hasher sessionId refereeKey config teams players transcript witnesses maxFaults
      attackCooldownTicks objectiveRule = .pvpCandidateReady candidate) :
    ∃ playersById index,
      (∀ id player, playersById.get id = some player ↔ player ∈ players ∧ player.playerId = id) ∧
      pvpCommandIndex sessionId refereeKey config playersById transcript = .ok index ∧
      let epoch := pvpEpochOf config attackCooldownTicks objectiveRule playersById players (sortedPvpTeams teams) index
      let ticks := config.ticksPerEpoch.toNat
      (∀ order, order.Perm players → ∀ arith : Arithmetic, arith.ExactInt32 → ∀ n ≤ ticks,
        { epoch with players := order }.stateAt arith n = { epoch with players := order }.stateAt .unbounded n ∧
          ({ epoch with players := order }.stateAt arith n).scene = epoch.sceneAt n) ∧
      candidate.playerStates = (sortedPvpPlayers players).map (fun player =>
        { playerId := player.playerId, teamId := player.teamId
          positionX := (epoch.sceneAt ticks).position player.playerId
          hp := (epoch.sceneAt ticks).hp player.playerId }) ∧
      candidate.teamStates = (sortedPvpTeams teams).map (fun team =>
        { teamId := team.teamId, score := epoch.scoreAt ticks team }) ∧
      (∀ player ∈ players,
        (config.arenaMinX ≤ (epoch.sceneAt ticks).position player.playerId ∧
          (epoch.sceneAt ticks).position player.playerId ≤ config.arenaMaxX) ∧
        0 ≤ (epoch.sceneAt ticks).hp player.playerId ∧ (epoch.sceneAt ticks).hp player.playerId ≤ player.initialHp) ∧
      (∀ table : Map Str PvpCommandEvidence,
        (∀ player ∈ players, player.playerId ∉ candidate.equivocators → ∀ tick,
          table.get (pvpSlot tick player.playerId) = index.bySlot.get (pvpSlot tick player.playerId)) →
        ∀ arith n, { epoch with commandsBySlot := table }.stateAt arith n = epoch.stateAt arith n) ∧
      (DigestsFaithful (pvpTranscriptEvents transcript) →
        (∀ tick playerId, index.bySlot.get (pvpSlot tick playerId) =
          transcript.find? fun evidence => evidence.intent.tick = tick ∧ evidence.intent.playerId = playerId) ∧
        (∀ playerId, playerId ∈ candidate.equivocators ↔ ∃ a ∈ transcript, ∃ b ∈ transcript,
          a.intent.playerId = playerId ∧ b.intent.playerId = playerId ∧ a.intent.tick = b.intent.tick ∧
            a.input.digest ≠ b.input.digest) ∧
        ∃ calm, preparePvpEpoch .int32 hasher sessionId refereeKey config teams players
            (transcript.filter fun evidence => evidence.intent.playerId ∉ candidate.equivocators) witnesses maxFaults
            attackCooldownTicks objectiveRule = .pvpCandidateReady calm ∧
          calm.playerStates = candidate.playerStates ∧ calm.teamStates = candidate.teamStates) := by
  obtain ⟨header, teamsById, playersById, index, teamRoster, roster, watched, short, read, named, rfl⟩ :=
    preparePvpEpoch_ready_iff.mp ready
  have byId := (pvpPlayerMap_rosterOf roster).2.get_iff
  have sorted : (sortedPvpPlayers players).Perm players := sortBy_perm _ _
  let epoch := pvpEpochOf config attackCooldownTicks objectiveRule playersById players (sortedPvpTeams teams) index
  have admitted : ∀ order, order.Perm players → (pvpEpochOf config attackCooldownTicks objectiveRule playersById order
      (sortedPvpTeams teams) index).Admitted :=
    fun order perm => pvpEpochOf_admitted header teamRoster roster perm index
  have running : ∀ n ≤ config.ticksPerEpoch.toNat, (n : ℤ) ≤ config.ticksPerEpoch := by
    intro n most
    have ticks : (config.ticksPerEpoch.toNat : ℤ) = config.ticksPerEpoch := (admitted players (List.Perm.refl _)).ticks_toNat
    omega
  refine ⟨playersById, index, byId, read, ?_, ?_, ?_, ?_, ?_, ?_⟩
  · intro order perm arith exact n most
    have allowed := admitted order perm
    have same := PvpEpoch.exact_stateAt allowed exact (running n most)
    have refines := (PvpEpoch.stateAt_inRange allowed (running n most)).2
    have scenes := PvpEpoch.sceneAt_perm epoch perm n
    exact ⟨same, (congrArg PvpState.scene same).trans (refines.trans scenes)⟩
  · rw [pvpEpochCandidate_playerStates (admitted _ sorted) Arithmetic.exactInt32_int32]
    have scenes := PvpEpoch.sceneAt_perm epoch sorted config.ticksPerEpoch.toNat
    rw [← scenes]
    rfl
  · rw [pvpEpochCandidate_teamStates (admitted _ sorted) Arithmetic.exactInt32_int32]
    refine map_congr_left fun team _ => ?_
    have scores := PvpEpoch.scoreAt_perm epoch sorted config.ticksPerEpoch.toNat team
    rw [← scores]
    rfl
  · intro player member
    have allowed := admitted players (List.Perm.refl _)
    have hp := PvpEpoch.sceneAt_hp allowed config.ticksPerEpoch.toNat player.playerId
    rw [PvpEpoch.opening_hp allowed member] at hp
    exact ⟨PvpEpoch.sceneAt_position allowed _ member, hp⟩
  · intro table same arith n
    refine PvpEpoch.Alike.stateAt ?_ arith n
    refine ⟨rfl, rfl, rfl, rfl, rfl, fun _ => rfl, fun player member tick => ?_⟩
    unfold PvpEpoch.effective
    dsimp only
    split
    · rfl
    · rename_i unmarked
      refine same player member (fun listed => ?_) tick
      exact unmarked ((mem_pvpEpochCandidate_equivocators _).mp listed).1
  · intro digests
    refine ⟨pvpCommandIndex_bySlot read digests, fun playerId => ?_, ?_⟩
    · have conflicts := pvpCommandIndex_conflicts read digests playerId
      rw [mem_pvpEpochCandidate_equivocators, ← conflicts]
      refine ⟨fun held => held.1, fun marked => ⟨marked, ?_⟩⟩
      obtain ⟨evidence, member, _, _, owner, _⟩ := conflicts.mp marked
      obtain ⟨player, listed, same⟩ := pvpCommandIndex_rostered read byId evidence member
      exact ⟨player, sorted.mem_iff.mpr listed, same.trans owner⟩
    · exact preparePvpEpoch_without_equivocators ready digests

end

namespace PvpSample

def objective : PvpObjectiveRule := ⟨0, 1, 3⟩

def command (playerId key digest receiptDigest : Str) (target : Option Str) (counter moveToX receiptCounter
    receivedTick : ℤ) : PvpCommandEvidence :=
  let intent : PvpCommandIntent := ⟨"m", 0, ⟨"c"⟩, 0, playerId, moveToX, target⟩
  let observed : PvpCommandReceipt := ⟨⟨digest⟩, receivedTick⟩
  { input := ⟨"s", ⟨digest⟩, ⟨key⟩, makePvpCommandEvent ⟨playerId⟩ counter 1 [] intent⟩
    receipt := ⟨"s", ⟨receiptDigest⟩, ⟨"R"⟩,
      makePvpCommandReceiptEvent ⟨"R"⟩ receiptCounter 2 [⟨⟨playerId⟩, counter⟩] observed⟩
    intent, observed }

def transcript : List PvpCommandEvidence :=
  [command "p" "P" "i" "r" (some "q") 0 0 0 1, command "q" "Q" "j" "u" (some "p") 1 1 1 1,
    command "q" "Q" "k" "v" (some "p") 2 2 2 1]

def prepared [StrOrder] (transcript : List PvpCommandEvidence) : PvpEpochCandidateResult :=
  preparePvpEpoch .int32 EncounterSample.hasher "s" ⟨"R"⟩ config teams players transcript [⟨"w", ⟨"W"⟩⟩] 0 1 (some objective)

def scores : PvpEpochCandidateResult → List PvpTeamState
  | .pvpCandidateReady candidate => candidate.teamStates
  | .pvpCandidateRefused _ => []

end PvpSample

section
open PvpSample
open Shortlex

theorem pvp_epoch_follows_rules_duel : ∃ candidate calm,
    prepared transcript = .pvpCandidateReady candidate ∧
      candidate.teamStates = [⟨lit "blue", 0⟩, ⟨lit "red", 11⟩] ∧
      prepared (transcript.filter fun evidence => evidence.intent.playerId ∉ candidate.equivocators) =
        .pvpCandidateReady calm ∧ calm.teamStates = candidate.teamStates := by
  have reported : scores (prepared transcript) = [⟨lit "blue", 0⟩, ⟨lit "red", 11⟩] := by decide +kernel
  have digests : DigestsFaithful (pvpTranscriptEvents transcript) := by decide +kernel
  cases answer : prepared transcript with
  | pvpCandidateRefused reason =>
    rw [answer] at reported
    cases reported
  | pvpCandidateReady candidate =>
    rw [answer] at reported
    obtain ⟨_, _, _, _, _, _, _, _, _, rules⟩ := pvp_epoch_follows_rules answer
    obtain ⟨_, _, calm, ready, _, same⟩ := rules digests
    exact ⟨candidate, calm, rfl, reported, ready, same⟩

end

end ConvergeAudit.Replay
