import ConvergeAudit.Replay.PvpRules

/-!
What `prepare_pvp_epoch` has checked when it answers with a candidate, and what the digests of the commands stand for.
-/

namespace ConvergeAudit.Replay
open Moon Bft Game

theorem serializePvpCommand_eq :
    serializePvpCommand intent = fields [lit "pvp-command-v1", intent.matchId, Str.ofInt intent.epoch,
      intent.baseCheckpointDigest.text, Str.ofInt intent.tick, intent.playerId, Str.ofInt intent.moveToX] ++
        optionalField intent.attackTargetId := by
  unfold serializePvpCommand
  rw [foldl_appendField]
  cases intent.attackTargetId with
  | none => simp [serializeOptionalTarget, optionalField]
  | some target => simp [serializeOptionalTarget, optionalField, appendField_eq, Str.append_assoc]

theorem serializePvpCommand_injective : Function.Injective serializePvpCommand := by
  intro intent other same
  rw [serializePvpCommand_eq, serializePvpCommand_eq] at same
  obtain ⟨values, targets⟩ := fields_append_inj (by rfl) same
  have target := optionalField_injective targets
  cases intent
  cases other
  simp only [List.cons.injEq, Str.ofInt_inj, Digest.text_inj, true_and, and_true] at values target
  obtain ⟨rfl, rfl, rfl, rfl, rfl, rfl⟩ := values
  rw [target]

theorem serializePvpCommandReceipt_injective : Function.Injective serializePvpCommandReceipt := by
  intro receipt other same
  have values := foldl_appendField_inj same
  cases receipt
  cases other
  simp only [List.cons.injEq, Str.ofInt_inj, Digest.text_inj, true_and, and_true] at values
  obtain ⟨rfl, rfl⟩ := values
  rfl

theorem pvpSlot_inj (same : pvpSlot tick playerId = pvpSlot tick' playerId') :
    tick = tick' ∧ playerId = playerId' := by
  unfold pvpSlot at same
  rw [Str.append_assoc, Str.append_assoc] at same
  exact ofInt_append_inj same

theorem pvpPairKey_inj (same : pvpPairKey evidence = pvpPairKey other) :
    evidence.input.digest = other.input.digest ∧ evidence.receipt.digest = other.receipt.digest := by
  have fields : ∀ evidence : PvpCommandEvidence,
      pvpPairKey evidence = fields [evidence.input.digest.text, evidence.receipt.digest.text] := by
    simp [pvpPairKey, field, appendField, Str.append_assoc]
  rw [fields, fields] at same
  have texts := fields_injective same
  simp only [List.cons.injEq, and_true] at texts
  exact ⟨congrArg Digest.mk texts.1, congrArg Digest.mk texts.2⟩

def pvpTranscriptEvents (transcript : List PvpCommandEvidence) : List AuthenticatedEvent :=
  transcript.flatMap fun evidence => [evidence.input, evidence.receipt]

/-- Digests that name events make an indexing faithful, once the events of an item fix the item. -/
theorem faithful_of_events {input receipt : ε → AuthenticatedEvent}
    (digests : DigestsFaithful (items.flatMap fun item => [input item, receipt item]))
    (pairs : ∀ a ∈ items, ∀ b ∈ items, pair a = pair b →
      (input a).digest = (input b).digest ∧ (receipt a).digest = (receipt b).digest)
    (fixed : ∀ a ∈ items, ∀ b ∈ items, input a = input b → slot a = slot b ∧ (receipt a = receipt b → a = b)) :
    Indexing.Faithful ⟨slot, conflict, pair, fun item => (input item).digest, fun item => (receipt item).digest⟩ items := by
  have named : ∀ a ∈ items, ∀ b ∈ items, (input a).digest = (input b).digest →
      slot a = slot b ∧ ((receipt a).digest = (receipt b).digest → a = b) := by
    intro a memberA b memberB same
    simp only [DigestsFaithful, List.mem_flatMap] at digests
    obtain ⟨slots, whole⟩ := fixed a memberA b memberB
      (digests _ ⟨a, memberA, by simp⟩ _ ⟨b, memberB, by simp⟩ same)
    exact ⟨slots, fun receipts => whole (digests _ ⟨a, memberA, by simp⟩ _ ⟨b, memberB, by simp⟩ receipts)⟩
  refine ⟨fun a memberA b memberB same => ?_, fun a memberA b memberB same => (named a memberA b memberB same).2,
    fun a memberA b memberB same => (named a memberA b memberB same).1⟩
  obtain ⟨inputs, receipts⟩ := pairs a memberA b memberB same
  exact (named a memberA b memberB inputs).2 receipts

theorem pvpCommandAdmitted_events
    (admitted : pvpCommandAdmitted sessionId refereeKey config playersById evidence = true) :
    exactInsert evidence.input pvpCommandTable (pvpCommandRowId evidence.intent) "command"
        (serializePvpCommand evidence.intent) = true ∧
      exactInsert evidence.receipt pvpReceiptTable evidence.input.digest.text "receipt"
        (serializePvpCommandReceipt evidence.observed) = true := by
  unfold pvpCommandAdmitted at admitted
  split at admitted
  · cases admitted
  · simp only [pvpCommandEvidenceValid, Bool.and_eq_true] at admitted
    exact ⟨admitted.1.1.1.1.1.2, admitted.1.2⟩

theorem pvpIndexing_faithful
    (admitted : ∀ evidence ∈ transcript, pvpCommandAdmitted sessionId refereeKey config playersById evidence = true)
    (digests : DigestsFaithful (pvpTranscriptEvents transcript)) : pvpIndexing.Faithful transcript := by
  refine faithful_of_events digests (fun _ _ _ _ => pvpPairKey_inj) fun a memberA b memberB input => ?_
  obtain ⟨command, receipt⟩ := pvpCommandAdmitted_events (admitted a memberA)
  obtain ⟨command', receipt'⟩ := pvpCommandAdmitted_events (admitted b memberB)
  rw [input] at command
  have intents := serializePvpCommand_injective (exactInsert_payload command command')
  refine ⟨congrArg pvpSlotKey intents, fun receipts => ?_⟩
  rw [receipts] at receipt
  have observed := serializePvpCommandReceipt_injective (exactInsert_payload receipt receipt')
  exact PvpCommandEvidence.ext input receipts intents observed

theorem pvpIndexing_keyed (same : pvpIndexing.slot a = pvpIndexing.slot b) :
    pvpIndexing.conflict a = pvpIndexing.conflict b := (pvpSlot_inj same).2

def pvpEpochOf (config : PvpEpochConfig) (attackCooldownTicks : ℤ) (objectiveRule : Option PvpObjectiveRule)
    (playersById : Map Str PvpPlayer) (players : List PvpPlayer) (teams : List PvpTeam)
    (index : SlotIndex PvpCommandEvidence) : PvpEpoch where
  config := config
  attackCooldownTicks := attackCooldownTicks
  objectiveRule := objectiveRule
  playersById := playersById
  players := players
  teams := teams
  commandsBySlot := index.bySlot
  equivocators := index.conflicts

structure PvpHeaderValid (sessionId : Str) (refereeKey : PublicKey) (config : PvpEpochConfig)
    (attackCooldownTicks : ℤ) (objectiveRule : Option PvpObjectiveRule) : Prop where
  session : sessionId ≠ Str.empty ∧ sessionId.length ≤ maxPvpTextLength
  referee : refereeKey.text ≠ Str.empty ∧ refereeKey.text.length ≤ maxPvpTextLength
  valid : pvpConfigValid config = true
  rules : pvpExtendedRulesValid config attackCooldownTicks objectiveRule = true

theorem pvpHeaderValid_iff :
    PvpHeaderValid sessionId refereeKey config attackCooldownTicks objectiveRule ↔
      ¬ (sessionId == Str.empty || sessionId.length > maxPvpTextLength || refereeKey.text == Str.empty ||
        refereeKey.text.length > maxPvpTextLength || !pvpConfigValid config ||
        !pvpExtendedRulesValid config attackCooldownTicks objectiveRule) = true := by
  simp only [Bool.or_eq_true, beq_iff_eq, decide_eq_true_eq, Bool.not_eq_true', not_or, gt_iff_lt, not_lt,
    Bool.not_eq_false]
  constructor
  · rintro ⟨⟨a, b⟩, ⟨c, d⟩, e, f⟩
    exact ⟨⟨⟨⟨⟨a, b⟩, c⟩, d⟩, e⟩, f⟩
  · rintro ⟨⟨⟨⟨⟨a, b⟩, c⟩, d⟩, e⟩, f⟩
    exact ⟨⟨a, b⟩, ⟨c, d⟩, e, f⟩

theorem pvpTeamMap_rosterOf (read : pvpTeamMap teams = some teamsById) :
    teams.length = 2 ∧ (teams.map (·.teamId)).Nodup ∧ (∀ team ∈ teams, pvpTeamValid team = true) ∧
      ∀ id team, teamsById.get id = some team ↔ team ∈ teams ∧ team.teamId = id := by
  unfold pvpTeamMap at read
  split at read
  · cases read
  · rename_i two
    have distinct := (collectDistinct_isSome_iff _ _ _ _ teams).mp (by rw [read]; rfl)
    exact ⟨not_not.mp two, distinct.2.1, distinct.1, get_collectDistinct_iff read⟩

theorem pvpPlayerMap_rosterOf (read : pvpPlayerMap config teamsById players = some playersById) :
    players.length ≤ maxPvpPlayers ∧
      RosterOf (·.playerId) (·.publicKey.text) (pvpPlayerValid config teamsById) playersById players := by
  unfold pvpPlayerMap at read
  split at read
  · cases read
  · rename_i size
    split at read
    · cases read
    · rename_i byId collected
      split at read
      · cases read
      · cases read
        exact ⟨by omega, collectRoster_rosterOf collected⟩

theorem pvpEpochOf_admitted [StrOrder]
    (header : PvpHeaderValid sessionId refereeKey config attackCooldownTicks objectiveRule)
    (teamRoster : pvpTeamMap teams = some teamsById)
    (roster : pvpPlayerMap config teamsById players = some playersById) (perm : order.Perm players)
    (index : SlotIndex PvpCommandEvidence) :
    (pvpEpochOf config attackCooldownTicks objectiveRule playersById order (sortedPvpTeams teams) index).Admitted := by
  obtain ⟨two, teamIds, teamsValid, teamsGet⟩ := pvpTeamMap_rosterOf teamRoster
  obtain ⟨few, playersValid, ids, _, byId⟩ := pvpPlayerMap_rosterOf roster
  have rules := header.rules
  unfold pvpExtendedRulesValid at rules
  split at rules
  · cases rules
  · rename_i cooldown
    simp only [Bool.or_eq_true, decide_eq_true_eq, not_or, not_lt] at cooldown
    have sorted : (sortedPvpTeams teams).Perm teams := sortBy_perm _ _
    have valid : ∀ player ∈ order, pvpPlayerValid config teamsById player = true :=
      fun player member => playersValid player (perm.mem_iff.mp member)
    simp only [pvpPlayerValid, Bool.not_eq_true', Bool.or_eq_false_iff, decide_eq_false_iff_not, not_lt, gt_iff_lt,
      Bool.not_eq_false'] at valid
    refine
      { limits := pvpConfigValid_limits header.valid
        cooldown := cooldown.1
        objective := ?_
        ids := ((perm.map _).nodup_iff).mpr ids
        few := by
          rw [show (pvpEpochOf _ _ _ _ order _ _).players = order from rfl, perm.length_eq]
          exact few
        arena := fun player member => ⟨(valid player member).1.1.1.2, (valid player member).1.1.2⟩
        hp := fun player member => ⟨(valid player member).1.2, (valid player member).2⟩
        team := ?_
        byId := fun id player => by
          rw [show (pvpEpochOf _ _ _ _ order _ _).players = order from rfl, perm.mem_iff]
          exact byId id player
        teams := ?_
        scores := ?_ }
    · intro rule ruled
      change objectiveRule = some rule at ruled
      rw [ruled] at rules
      simp only [Bool.and_eq_true, decide_eq_true_eq] at rules
      exact ⟨⟨rules.1.1.1.1.1, rules.1.1.1.1.2⟩, rules.1.2, rules.2⟩
    · intro player member
      have known := (valid player member).1.1.1.1.2
      obtain ⟨team, found⟩ := Option.isSome_iff_exists.mp known
      obtain ⟨listed, named⟩ := (teamsGet _ _).mp found
      exact ⟨team, sorted.mem_iff.mpr listed, named⟩
    · have ids : ((sortedPvpTeams teams).map (·.teamId)).Nodup := ((sorted.map _).nodup_iff).mpr teamIds
      obtain ⟨first, second, both⟩ := List.length_eq_two.mp (sorted.length_eq.trans two)
      rw [both] at ids
      exact ⟨first, second, both, by simpa using ids⟩
    · intro team member
      have checked := teamsValid team (sorted.mem_iff.mp member)
      simp only [pvpTeamValid, Bool.not_eq_true', Bool.or_eq_false_iff, decide_eq_false_iff_not, not_lt, gt_iff_lt] at checked
      exact ⟨checked.1.2, checked.2⟩

theorem preparePvpEpoch_ready_iff [StrOrder] :
    preparePvpEpoch arith hasher sessionId refereeKey config teams players transcript witnesses maxFaults
        attackCooldownTicks objectiveRule = .pvpCandidateReady candidate ↔
      PvpHeaderValid sessionId refereeKey config attackCooldownTicks objectiveRule ∧
        ∃ teamsById playersById index, pvpTeamMap teams = some teamsById ∧
          pvpPlayerMap config teamsById players = some playersById ∧
          pvpWitnessRosterValid arith refereeKey witnesses maxFaults = true ∧
          transcript.length ≤ maxPvpCommands ∧
          pvpCommandIndex sessionId refereeKey config playersById transcript = .ok index ∧
          (pvpEpochGameManifest hasher sessionId refereeKey config teams players attackCooldownTicks
            objectiveRule).text ≠ Str.empty ∧
          let gameManifest := pvpEpochGameManifest hasher sessionId refereeKey config teams players attackCooldownTicks
            objectiveRule
          let epoch := pvpEpochOf config attackCooldownTicks objectiveRule playersById (sortedPvpPlayers players)
            (sortedPvpTeams teams) index
          candidate = pvpEpochCandidate hasher sessionId refereeKey gameManifest
            (replayWitnessSessionManifest hasher gameManifest refereeKey witnesses maxFaults) transcript epoch
            (epoch.run arith) := by
  unfold preparePvpEpoch
  rw [pvpHeaderValid_iff, Lib.passes (by simp)]
  refine and_congr_right fun _ => ?_
  cases pvpTeamMap teams with
  | none => simp
  | some teamsById =>
    simp only [Option.some.injEq, exists_and_left, exists_eq_left']
    cases pvpPlayerMap config teamsById players with
    | none => simp
    | some playersById =>
      simp only [Option.some.injEq, exists_eq_left']
      rw [Lib.passes_not (by simp), Lib.passes (by simp), gt_iff_lt, not_lt]
      refine and_congr_right fun _ => and_congr_right fun _ => ?_
      cases pvpCommandIndex sessionId refereeKey config playersById transcript with
      | error reason => simp
      | ok index =>
        simp only [Except.ok.injEq, exists_eq_left']
        rw [Lib.passes (by simp), PvpEpochCandidateResult.pvpCandidateReady.injEq]
        exact and_congr_right fun _ => eq_comm

end ConvergeAudit.Replay
