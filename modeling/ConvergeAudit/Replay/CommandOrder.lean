import ConvergeAudit.Replay.EncounterOrder
import ConvergeAudit.Replay.PvpOutcome
import ConvergeAudit.Replay.Raid

/-!
Readiness and candidate do not depend on the order and number of the commands exactly if no input has two receipts.
-/

namespace ConvergeAudit.Replay
open Moon Bft Game Lib List SlotIndex

theorem pvpTeamMap_of_perm (perm : teams.Perm others) (read : pvpTeamMap teams = some byId) :
    ∃ othersById, pvpTeamMap others = some othersById ∧ ∀ id, byId.get id = othersById.get id := by
  unfold pvpTeamMap at read ⊢
  rw [← perm.length_eq]
  split at read
  · cases read
  · rename_i two
    rw [if_neg two]
    exact collectDistinct_of_perm perm read

theorem representedTeams_length_of_perm (perm : players.Perm others) :
    (representedTeams players).length = (representedTeams others).length := by
  have keys : ∀ players : List PvpPlayer, representedTeams players =
      (players.map (·.teamId)).foldl (fun m key => m.set key true) Map.empty := by
    intro players
    rw [foldl_map]
    rfl
  rw [keys, keys]
  refine (Map.distinct_foldl_set _ Map.distinct_empty).length_eq (Map.distinct_foldl_set _ Map.distinct_empty) ?_
  intro key
  rw [Bool.eq_iff_iff]
  exact (Map.contains_foldl_set true _ Map.empty key).trans
    ((or_congr_left (perm.map _).mem_iff).trans (Map.contains_foldl_set true _ Map.empty key).symm)

theorem pvpPlayerMap_of_perm (sameTeams : ∀ id, teamsById.get id = otherTeams.get id) (perm : players.Perm others)
    (read : pvpPlayerMap config teamsById players = some byId) :
    ∃ othersById, pvpPlayerMap config otherTeams others = some othersById ∧ ∀ id, byId.get id = othersById.get id := by
  have valid : pvpPlayerValid config teamsById = pvpPlayerValid config otherTeams := by
    funext player
    unfold pvpPlayerValid Map.contains
    rw [sameTeams]
  unfold pvpPlayerMap at read ⊢
  rw [← perm.length_eq, ← representedTeams_length_of_perm perm, ← valid]
  split at read
  · cases read
  · rename_i size
    rw [if_neg size]
    split at read
    · cases read
    · rename_i collectedById collected
      obtain ⟨othersById, read', same⟩ := collectRoster_of_perm perm collected
      rw [read']
      dsimp only
      split at read
      · cases read
      · rename_i both
        cases read
        exact ⟨othersById, by rw [if_neg both], same⟩

theorem pvpWitnessRosterValid_of_perm (perm : witnesses.Perm others)
    (valid : pvpWitnessRosterValid arith refereeKey witnesses maxFaults = true) :
    pvpWitnessRosterValid arith refereeKey others maxFaults = true := by
  unfold pvpWitnessRosterValid at valid ⊢
  rw [← perm.length_eq]
  split at valid
  · cases valid
  · rename_i policy
    rw [if_neg policy]
    obtain ⟨byId, read⟩ := Option.isSome_iff_exists.mp valid
    obtain ⟨othersById, read', _⟩ := collectRoster_of_perm perm read
    rw [read']
    rfl

section
variable [StrOrder]

theorem pvpEpochCandidate_alike (same : ∀ evidence, evidence ∈ transcript ↔ evidence ∈ others)
    (alike : epoch.Alike other) (marks : ∀ key, epoch.equivocators.contains key = other.equivocators.contains key) :
    pvpEpochCandidate hasher sessionId refereeKey gameManifest manifest transcript epoch (epoch.run arith) =
      pvpEpochCandidate hasher sessionId refereeKey gameManifest manifest others other (other.run arith) := by
  have roots : pvpEpochTranscriptRoot hasher transcript = pvpEpochTranscriptRoot hasher others := by
    refine eventSetRoot_congr fun text => ?_
    simp only [mem_flatMap, same]
  have runs : epoch.run arith = other.run arith := by
    unfold PvpEpoch.run
    rw [alike.config, alike.stateAt]
  unfold pvpEpochCandidate
  simp only [runs, roots, marks, alike.config, alike.cooldown, alike.objective, alike.players, alike.teams]

theorem preparePvpEpoch_rearranged {arith : Arithmetic} {hasher : Hasher} (teamsPerm : teams.Perm otherTeams)
    (playersPerm : players.Perm otherPlayers) (witnessesPerm : witnesses.Perm otherWitnesses)
    (same : ∀ evidence, evidence ∈ transcript ↔ evidence ∈ others) (short : others.length ≤ maxPvpCommands)
    (digests : DigestsFaithful (pvpTranscriptEvents transcript)) (single : pvpIndexing.OneReceipt transcript)
    (ready : preparePvpEpoch arith hasher sessionId refereeKey config teams players transcript witnesses maxFaults
      attackCooldownTicks objectiveRule = .pvpCandidateReady candidate) :
    preparePvpEpoch arith hasher sessionId refereeKey config otherTeams otherPlayers others otherWitnesses maxFaults
      attackCooldownTicks objectiveRule = .pvpCandidateReady candidate := by
  obtain ⟨header, teamsById, playersById, index, teamRoster, roster, watched, _, read, named, rfl⟩ :=
    preparePvpEpoch_ready_iff.mp ready
  obtain ⟨otherTeamsById, teamRoster', sameTeams⟩ := pvpTeamMap_of_perm teamsPerm teamRoster
  obtain ⟨otherPlayersById, roster', samePlayers⟩ := pvpPlayerMap_of_perm sameTeams playersPerm roster
  have sortedTeams : sortedPvpTeams teams = sortedPvpTeams otherTeams :=
    sortBy_desc_eq_of_perm PvpTeam.teamId teamsPerm (pvpTeamMap_rosterOf teamRoster).2.1
  have sortedPlayers : sortedPvpPlayers players = sortedPvpPlayers otherPlayers :=
    sortBy_desc_eq_of_perm PvpPlayer.playerId playersPerm
      (pvpPlayerMap_rosterOf roster).2.keys_distinct
  have manifests : pvpEpochGameManifest hasher sessionId refereeKey config teams players attackCooldownTicks objectiveRule =
      pvpEpochGameManifest hasher sessionId refereeKey config otherTeams otherPlayers attackCooldownTicks
        objectiveRule := by
    unfold pvpEpochGameManifest
    rw [sortedTeams, sortedPlayers]
  have admitted : pvpCommandAdmitted sessionId refereeKey config playersById =
      pvpCommandAdmitted sessionId refereeKey config otherPlayersById := by
    funext evidence
    unfold pvpCommandAdmitted
    rw [samePlayers]
  have faithful := pvpIndexing_faithful (readAll_admitted read) digests
  obtain ⟨other, read', marks, kept⟩ :=
    readAll_rearranged (fun _ _ _ _ slots => pvpIndexing_keyed slots) same faithful single read
  rw [admitted] at read'
  refine preparePvpEpoch_ready_iff.mpr ⟨header, otherTeamsById, otherPlayersById, other, teamRoster', roster',
    pvpWitnessRosterValid_of_perm witnessesPerm watched, short, read', by rw [← manifests]; exact named, ?_⟩
  have sessions : ∀ gameManifest, replayWitnessSessionManifest hasher gameManifest refereeKey witnesses maxFaults =
      replayWitnessSessionManifest hasher gameManifest refereeKey otherWitnesses maxFaults := by
    intro gameManifest
    unfold replayWitnessSessionManifest serializeReplayWitnessSessionManifest
    rw [sortedRoster_eq_of_perm witnessesPerm]
  rw [manifests, sessions, sortedTeams, sortedPlayers]
  refine pvpEpochCandidate_alike same ⟨rfl, rfl, rfl, rfl, rfl, samePlayers, fun player _ tick => ?_⟩ marks
  unfold PvpEpoch.effective pvpEpochOf
  rw [← marks]
  split
  · rfl
  · rename_i unmarked
    refine kept _ fun contested => unmarked ?_
    obtain ⟨a, memberA, b, memberB, slotA, slotB, different⟩ := contested
    rw [(readAll_tells faithful read).conflicts_iff fun _ _ _ _ same => pvpIndexing_keyed same]
    have owner : a.intent.playerId = player.playerId := (pvpSlot_inj slotA).2
    exact ⟨a, memberA, owner, a, memberA, b, memberB, rfl, slotB.trans slotA.symm, different⟩

end

theorem serializeDungeonPlayerAttack_injective : Function.Injective serializeDungeonPlayerAttack := by
  intro intent other same
  have values := foldl_appendField_inj same
  cases intent
  cases other
  simp only [List.cons.injEq, Str.ofInt_inj, true_and, and_true] at values
  obtain ⟨rfl, rfl, rfl⟩ := values
  rfl

theorem serializeDungeonPlayerAttackReceipt_injective : Function.Injective serializeDungeonPlayerAttackReceipt := by
  intro receipt other same
  have values := foldl_appendField_inj same
  cases receipt
  cases other
  simp only [List.cons.injEq, Str.ofInt_inj, Digest.text_inj, true_and, and_true] at values
  obtain ⟨rfl, rfl⟩ := values
  rfl

def raidAttackEvents (playerAttacks : List DungeonPlayerAttackEvidence) : List AuthenticatedEvent :=
  playerAttacks.flatMap fun evidence => [evidence.input, evidence.receipt]

/-- The key of a pair of digests names the pair. It need not: the two texts are joined without their lengths. -/
def RaidPairsApart (playerAttacks : List DungeonPlayerAttackEvidence) : Prop :=
  ∀ a ∈ playerAttacks, ∀ b ∈ playerAttacks, raidPairKey a = raidPairKey b →
    a.input.digest = b.input.digest ∧ a.receipt.digest = b.receipt.digest

instance (playerAttacks : List DungeonPlayerAttackEvidence) : Decidable (RaidPairsApart playerAttacks) :=
  inferInstanceAs (Decidable (∀ a ∈ playerAttacks, ∀ b ∈ playerAttacks, _ → _ ∧ _))

theorem raidAttackAdmitted_inj
    (admitted : raidAttackAdmitted arith sessionId authorityKey encounterConfig raidRules playersById evidence = true)
    (admitted' : raidAttackAdmitted arith sessionId authorityKey encounterConfig raidRules playersById other = true)
    (input : evidence.input = other.input) :
    evidence.intent = other.intent ∧ (evidence.receipt = other.receipt → evidence = other) := by
  have events : ∀ {evidence}, raidAttackAdmitted arith sessionId authorityKey encounterConfig raidRules playersById
      evidence = true →
      exactInsert evidence.input dungeonPlayerAttackTable (dungeonPlayerAttackRowId evidence.intent) "attack"
          (serializeDungeonPlayerAttack evidence.intent) = true ∧
        exactInsert evidence.receipt dungeonPlayerAttackReceiptTable evidence.input.digest.text "receipt"
          (serializeDungeonPlayerAttackReceipt evidence.observed) = true := by
    intro evidence admitted
    unfold raidAttackAdmitted at admitted
    split at admitted
    · cases admitted
    · simp only [dungeonPlayerAttackEvidenceValid, Bool.and_eq_true] at admitted
      exact ⟨admitted.1.1.1.1.1.1.1.2, admitted.1.2⟩
  obtain ⟨attack, receipt⟩ := events admitted
  obtain ⟨attack', receipt'⟩ := events admitted'
  rw [input] at attack
  have intents := serializeDungeonPlayerAttack_injective (exactInsert_payload attack attack')
  refine ⟨intents, fun receipts => ?_⟩
  rw [receipts] at receipt
  have observed := serializeDungeonPlayerAttackReceipt_injective (exactInsert_payload receipt receipt')
  exact DungeonPlayerAttackEvidence.ext input receipts intents observed

theorem raidIndexing_faithful {playerAttacks : List DungeonPlayerAttackEvidence}
    (checked : ∀ evidence ∈ playerAttacks,
      raidAttackAdmitted arith sessionId authorityKey encounterConfig raidRules playersById evidence = true)
    (digests : DigestsFaithful (raidAttackEvents playerAttacks)) (apart : RaidPairsApart playerAttacks) :
    raidIndexing.Faithful playerAttacks := by
  refine faithful_of_events digests apart fun a memberA b memberB input => ?_
  obtain ⟨intents, whole⟩ := raidAttackAdmitted_inj (checked a memberA) (checked b memberB) input
  exact ⟨congrArg (fun intent => raidSlot intent.tick intent.playerId) intents, whole⟩

/-- A damage phase only asks which slots are in conflict and which of the others are taken. -/
theorem RaidPhase.run_eq {phase other : RaidPhase} (rules : phase.rules = other.rules)
    (players : phase.players = other.players) (survivors : phase.survivors = other.survivors)
    (conflicts : ∀ slot, phase.conflictingSlots.contains slot = other.conflictingSlots.contains slot)
    (taken : ∀ slot, phase.conflictingSlots.contains slot = false → phase.bySlot.get slot = other.bySlot.get slot) :
    phase.run arith = other.run arith := by
  have step : phase.attackStep arith = other.attackStep arith := by
    funext tick state player
    unfold RaidPhase.attackStep
    dsimp only
    rw [← conflicts, ← rules, ← survivors]
    split
    · rfl
    · rename_i calm
      rw [taken _ (Bool.eq_false_iff.mpr calm)]
  unfold RaidPhase.run RaidPhase.initial
  rw [step, rules, players]

section
variable [StrOrder]

theorem prepareDungeonRaid_ready_iff :
    prepareDungeonRaid arith hasher sessionId authorityKey encounterConfig raidRules players attacks defenseTranscripts
        playerAttacks = .raidCandidateReady candidate ↔
      raidRulesValid raidRules attacks = true ∧ ∃ playersById defense index,
        rosterMap encounterConfig.attackRules players = some playersById ∧
        prepareDungeonEncounter arith hasher sessionId authorityKey encounterConfig players attacks defenseTranscripts =
          .candidateReady defense ∧
        raidAttackIndex arith sessionId authorityKey encounterConfig raidRules playersById playerAttacks = .ok index ∧
        (dungeonRaidManifest hasher defense.manifest raidRules).text ≠ Str.empty ∧
        candidate = raidCandidate hasher defense playerAttacks (raidPhaseOf raidRules players defense index)
          ((raidPhaseOf raidRules players defense index).run arith) := by
  unfold prepareDungeonRaid
  rw [Lib.passes_not (by simp)]
  refine and_congr_right fun _ => ?_
  cases rosterMap encounterConfig.attackRules players with
  | none => simp
  | some playersById =>
    simp only [Option.some.injEq, exists_and_left, exists_eq_left']
    cases prepareDungeonEncounter arith hasher sessionId authorityKey encounterConfig players attacks
        defenseTranscripts with
    | refused reason => simp
    | candidateReady defense =>
      simp only [DungeonEncounterCandidateResult.candidateReady.injEq, exists_eq_left']
      cases raidAttackIndex arith sessionId authorityKey encounterConfig raidRules playersById playerAttacks with
      | error reason => simp
      | ok index =>
        simp only [Except.ok.injEq, exists_eq_left']
        rw [Lib.passes (by simp), DungeonRaidCandidateResult.raidCandidateReady.injEq]
        exact and_congr_right fun _ => eq_comm

theorem prepareDungeonRaid_rearranged (perm : players.Perm others)
    (same : ∀ evidence, evidence ∈ playerAttacks ↔ evidence ∈ otherAttacks)
    (defenseDigests : DigestsFaithful (defenseTranscripts.flatMap transcriptEvents))
    (digests : DigestsFaithful (raidAttackEvents playerAttacks)) (apart : RaidPairsApart playerAttacks)
    (single : raidIndexing.OneReceipt playerAttacks)
    (ready : prepareDungeonRaid arith hasher sessionId authorityKey encounterConfig raidRules players attacks
      defenseTranscripts playerAttacks = .raidCandidateReady candidate) :
    prepareDungeonRaid arith hasher sessionId authorityKey encounterConfig raidRules others attacks defenseTranscripts
      otherAttacks = .raidCandidateReady candidate := by
  obtain ⟨valid, playersById, defense, index, roster, defended, read, named, rfl⟩ :=
    prepareDungeonRaid_ready_iff.mp ready
  have collected := rosterMap_isSome_of_perm perm (by rw [roster]; rfl)
  obtain ⟨othersById, roster'⟩ := Option.isSome_iff_exists.mp collected
  have samePlayers :=
    get_eq_of_mem_iff (fun _ => perm.mem_iff) (rosterMap_rosterOf roster).get_iff (rosterMap_rosterOf roster').get_iff
  have arranged : Rearranged defenseTranscripts defenseTranscripts :=
    ⟨defenseTranscripts, .refl _, List.forall₂_same.mpr fun _ _ => ⟨rfl, rfl, fun _ => Iff.rfl⟩⟩
  have defended' := prepareDungeonEncounter_rearranged perm (.refl _) arranged defenseDigests defended
  have admitted : raidAttackAdmitted arith sessionId authorityKey encounterConfig raidRules playersById =
      raidAttackAdmitted arith sessionId authorityKey encounterConfig raidRules othersById := by
    funext evidence
    unfold raidAttackAdmitted
    rw [samePlayers]
  have faithful := raidIndexing_faithful (readAll_admitted read) digests apart
  obtain ⟨other, read', marks, kept⟩ :=
    readAll_rearranged (fun _ _ _ _ slots => slots) same faithful single read
  rw [admitted] at read'
  have sorted := sortedPlayers_eq_of_perm perm (rosterMap_rosterOf roster).keys_distinct
  have runs : (raidPhaseOf raidRules players defense index).run arith =
      (raidPhaseOf raidRules others defense other).run arith := by
    refine RaidPhase.run_eq rfl sorted rfl marks fun slot calm => kept slot fun contested => ?_
    have tells := readAll_tells faithful read
    obtain ⟨a, memberA, b, memberB, slotA, slotB, different⟩ := contested
    have marked := (tells.conflicts_iff (fun _ _ _ _ slots => slots)).mpr
      ⟨a, memberA, slotA, a, memberA, b, memberB, rfl, slotB.trans slotA.symm, different⟩
    have calm : index.conflicts.contains slot = false := calm
    rw [marked] at calm
    cases calm
  have roots : dungeonRaidEventRoot hasher defense.eventRoot playerAttacks =
      dungeonRaidEventRoot hasher defense.eventRoot otherAttacks := by
    refine eventSetRoot_congr fun text => ?_
    simp only [mem_cons, mem_flatMap, same]
  refine prepareDungeonRaid_ready_iff.mpr ⟨valid, othersById, defense, other, roster', defended', read', named, ?_⟩
  unfold raidCandidate
  rw [runs, roots]
  unfold raidPhaseOf
  rw [sorted]

end

/-- Commands that some order makes ready are ready in every order exactly if no input has two receipts. -/
theorem ready_in_any_order_iff [StrOrder] (arith : Arithmetic) (hasher : Hasher) (sessionId : Str) (key : PublicKey) :
    (∀ (config : PvpEpochConfig) (teams : List PvpTeam) (players : List PvpPlayer) (transcript : List PvpCommandEvidence)
      (witnesses : List Participant) (maxFaults attackCooldownTicks : ℤ) (objectiveRule : Option PvpObjectiveRule) candidate,
      DigestsFaithful (pvpTranscriptEvents transcript) →
      preparePvpEpoch arith hasher sessionId key config teams players transcript witnesses maxFaults attackCooldownTicks
        objectiveRule = .pvpCandidateReady candidate →
      ((∀ otherTeams otherPlayers others otherWitnesses, teams.Perm otherTeams → players.Perm otherPlayers →
        witnesses.Perm otherWitnesses → (∀ evidence, evidence ∈ transcript ↔ evidence ∈ others) →
        others.length ≤ maxPvpCommands →
          preparePvpEpoch arith hasher sessionId key config otherTeams otherPlayers others otherWitnesses maxFaults
            attackCooldownTicks objectiveRule = .pvpCandidateReady candidate) ↔ pvpIndexing.OneReceipt transcript)) ∧
    ∀ (config : DungeonEncounterConfig) (rules : DungeonRaidRules) (players : List DungeonPlayer)
      (attacks : List DungeonEncounterAttack) (defenseTranscripts : List DungeonAttackTranscript)
      (playerAttacks : List DungeonPlayerAttackEvidence) candidate,
      DigestsFaithful (defenseTranscripts.flatMap transcriptEvents) →
      DigestsFaithful (raidAttackEvents playerAttacks) → RaidPairsApart playerAttacks →
      prepareDungeonRaid arith hasher sessionId key config rules players attacks defenseTranscripts playerAttacks =
        .raidCandidateReady candidate →
      ((∀ otherPlayers others, players.Perm otherPlayers → (∀ evidence, evidence ∈ playerAttacks ↔ evidence ∈ others) →
        prepareDungeonRaid arith hasher sessionId key config rules otherPlayers attacks defenseTranscripts others =
          .raidCandidateReady candidate) ↔ raidIndexing.OneReceipt playerAttacks) := by
  constructor
  · intro config teams players transcript witnesses maxFaults attackCooldownTicks objectiveRule candidate digests ready
    refine ⟨fun rearranged => ?_, fun single _ _ _ _ teamsPerm playersPerm witnessesPerm same short =>
      preparePvpEpoch_rearranged teamsPerm playersPerm witnessesPerm same short digests single ready⟩
    obtain ⟨_, teamsById, playersById, index, teamRoster, roster, _, short, read, _⟩ := preparePvpEpoch_ready_iff.mp ready
    have reads : ∀ others, transcript.Perm others →
        ∃ index, pvpCommandIndex sessionId key config playersById others = .ok index := by
      intro others perm
      have again := rearranged _ _ others _ (.refl _) (.refl _) (.refl _) (fun _ => perm.mem_iff) (perm.length_eq ▸ short)
      obtain ⟨_, _, _, index, teamRoster', roster', _, _, read, _⟩ := preparePvpEpoch_ready_iff.mp again
      obtain rfl := Option.some.inj (teamRoster.symm.trans teamRoster')
      obtain rfl := Option.some.inj (roster.symm.trans roster')
      exact ⟨index, read⟩
    exact oneReceipt_of_readAll (pvpIndexing_faithful (readAll_admitted read) digests) reads
  · intro config rules players attacks defenseTranscripts playerAttacks candidate defenseDigests digests apart ready
    refine ⟨fun rearranged => ?_, fun single _ _ perm same =>
      prepareDungeonRaid_rearranged perm same defenseDigests digests apart single ready⟩
    obtain ⟨_, playersById, _, index, roster, _, read, _⟩ := prepareDungeonRaid_ready_iff.mp ready
    have reads : ∀ others, playerAttacks.Perm others →
        ∃ index, raidAttackIndex arith sessionId key config rules playersById others = .ok index := by
      intro others perm
      have again := rearranged _ others (.refl _) fun _ => perm.mem_iff
      obtain ⟨_, _, _, index, roster', _, read, _⟩ := prepareDungeonRaid_ready_iff.mp again
      obtain rfl := Option.some.inj (roster.symm.trans roster')
      exact ⟨index, read⟩
    exact oneReceipt_of_readAll (raidIndexing_faithful (readAll_admitted read) digests apart) reads

namespace OrderSample

abbrev command (digest receiptDigest : Str) : ℤ → ℤ → ℤ → ℤ → PvpCommandEvidence :=
  PvpSample.command "p" "P" digest receiptDigest none

def transcript : List PvpCommandEvidence :=
  [command "i" "r" 0 1 0 0, command "i" "t" 0 1 1 1, command "j" "u" 1 2 2 1]

def others : List PvpCommandEvidence :=
  [command "j" "u" 1 2 2 1, command "i" "r" 0 1 0 0, command "i" "t" 0 1 1 1]

def rules : DungeonRaidRules := ⟨10, 5, 0, 6, 7⟩

def attack (digest receiptDigest : Str) (counter receiptCounter receivedTick : ℤ) : DungeonPlayerAttackEvidence :=
  let intent : DungeonPlayerAttackIntent := ⟨"e", "p", 6⟩
  let observed : DungeonPlayerAttackReceipt := ⟨⟨digest⟩, receivedTick⟩
  { input := ⟨"s", ⟨digest⟩, ⟨"P"⟩, makeDungeonPlayerAttackEvent ⟨"p"⟩ counter 1 [] intent⟩
    receipt := ⟨"s", ⟨receiptDigest⟩, ⟨"A"⟩,
      makeDungeonPlayerAttackReceiptEvent ⟨"A"⟩ receiptCounter 2 [⟨⟨"p"⟩, counter⟩] observed⟩
    intent, observed }

def playerAttacks : List DungeonPlayerAttackEvidence := [attack "i" "r" 2 4 6, attack "i" "t" 2 5 7, attack "j" "u" 3 6 7]

def otherAttacks : List DungeonPlayerAttackEvidence := [attack "j" "u" 3 6 7, attack "i" "r" 2 4 6, attack "i" "t" 2 5 7]

def raid [StrOrder] (playerAttacks : List DungeonPlayerAttackEvidence) : DungeonRaidCandidateResult :=
  prepareDungeonRaid .int32 EncounterSample.hasher "s" EncounterSample.authority EncounterSample.config rules
    EncounterSample.players [⟨EncounterSample.attack, 4⟩] [EncounterSample.transcript] playerAttacks

def pvpReady : PvpEpochCandidateResult → Bool
  | .pvpCandidateReady _ => true
  | .pvpCandidateRefused _ => false

def raidReady : DungeonRaidCandidateResult → Bool
  | .raidCandidateReady _ => true
  | .raidCandidateRefused _ => false

theorem exists_of_pvpReady (result : PvpEpochCandidateResult) (ready : pvpReady result = true) :
    ∃ candidate, result = .pvpCandidateReady candidate := by
  cases result with
  | pvpCandidateReady candidate => exact ⟨candidate, rfl⟩
  | pvpCandidateRefused reason => cases ready

theorem exists_of_raidReady (result : DungeonRaidCandidateResult) (ready : raidReady result = true) :
    ∃ candidate, result = .raidCandidateReady candidate := by
  cases result with
  | raidCandidateReady candidate => exact ⟨candidate, rfl⟩
  | raidCandidateRefused reason => cases ready

end OrderSample

section
open OrderSample
open Shortlex

theorem receipt_order_decides_refusal :
    (transcript.Perm others ∧ DigestsFaithful (pvpTranscriptEvents transcript) ∧
      PvpSample.prepared transcript = .pvpCandidateRefused (.conflictingCommandReceipt ⟨"i"⟩) ∧
      ∃ candidate, PvpSample.prepared others = .pvpCandidateReady candidate) ∧
    playerAttacks.Perm otherAttacks ∧ DigestsFaithful (raidAttackEvents playerAttacks) ∧ RaidPairsApart playerAttacks ∧
      raid playerAttacks = .raidCandidateRefused (.conflictingPlayerAttackReceipt ⟨"i"⟩) ∧
      ∃ candidate, raid otherAttacks = .raidCandidateReady candidate := by
  have rotated : ∀ {α : Type} (x y z : α), [x, y, z].Perm [z, x, y] := fun x y z =>
    @perm_append_comm _ [x, y] [z]
  refine ⟨⟨rotated _ _ _, by decide +kernel, by decide +kernel, exists_of_pvpReady _ (by decide +kernel)⟩,
    rotated _ _ _, by decide +kernel, by decide +kernel, by decide +kernel, exists_of_raidReady _ (by decide +kernel)⟩

theorem ready_in_any_order_iff_two_inputs :
    (∃ candidate, PvpSample.prepared PvpSample.transcript = .pvpCandidateReady candidate ∧
      preparePvpEpoch .int32 EncounterSample.hasher "s" ⟨"R"⟩ PvpSample.config PvpSample.teams.reverse PvpSample.players.reverse
        (PvpSample.transcript.reverse ++ PvpSample.transcript) [⟨"w", ⟨"W"⟩⟩] 0 1 (some PvpSample.objective) =
          .pvpCandidateReady candidate) ∧
    ∃ candidate, raid [attack "i" "r" 2 4 6, attack "j" "u" 3 6 7] = .raidCandidateReady candidate ∧
      raid [attack "j" "u" 3 6 7, attack "i" "r" 2 4 6, attack "j" "u" 3 6 7] = .raidCandidateReady candidate := by
  have order := ready_in_any_order_iff .int32 EncounterSample.hasher "s"
  constructor
  · obtain ⟨candidate, ready⟩ := exists_of_pvpReady (PvpSample.prepared PvpSample.transcript) (by decide +kernel)
    refine ⟨candidate, ready, ((order ⟨"R"⟩).1 _ _ _ _ _ _ _ _ _ (by decide +kernel) ready).mpr (by decide +kernel) _ _ _ _
      (reverse_perm _).symm (reverse_perm _).symm (.refl _) (fun evidence => ?_) (by decide +kernel)⟩
    simp only [mem_append, mem_reverse, or_self]
  · obtain ⟨candidate, ready⟩ := exists_of_raidReady (raid [attack "i" "r" 2 4 6, attack "j" "u" 3 6 7])
      (by decide +kernel)
    have swapped : ∀ x y evidence : DungeonPlayerAttackEvidence, evidence ∈ [x, y] ↔ evidence ∈ [y, x, y] := by
      simp only [mem_cons, not_mem_nil, or_false]
      tauto
    exact ⟨candidate, ready, ((order EncounterSample.authority).2 _ _ _ _ _ _ _ (by decide +kernel) (by decide +kernel)
      (by decide +kernel) ready).mpr (by decide +kernel) _ _ (.refl _) (swapped _ _)⟩

end

end ConvergeAudit.Replay
