import ConvergeAudit.Lib.Fallible
import ConvergeAudit.Replay.Encounter

/-!
The plan and the roster are sorted, a transcript is found under its attack, and what a player's evidence for one
attack amounts to depends on the set of inputs.
-/

namespace ConvergeAudit.Replay
open Moon Bft Merkle Lib List

/-- The same attack and telegraph, with the same pieces of evidence in some order and number. -/
structure SameTranscript (transcript other : DungeonAttackTranscript) : Prop where
  attackId : transcript.attackId = other.attackId
  telegraph : transcript.telegraph = other.telegraph
  evidence : ∀ evidence, evidence ∈ transcript.dodgeEvidence ↔ evidence ∈ other.dodgeEvidence

def Rearranged (transcripts others : List DungeonAttackTranscript) : Prop :=
  ∃ arranged, transcripts.Perm arranged ∧ List.Forall₂ SameTranscript arranged others

def transcriptEvents (transcript : DungeonAttackTranscript) : List AuthenticatedEvent :=
  transcript.telegraph :: transcript.dodgeEvidence.flatMap fun evidence => [evidence.input, evidence.receipt]

theorem SameTranscript.symm (same : SameTranscript transcript other) : SameTranscript other transcript :=
  ⟨same.attackId.symm, same.telegraph.symm, fun evidence => (same.evidence evidence).symm⟩

theorem SameTranscript.mem_events_iff (same : SameTranscript transcript other) (event : AuthenticatedEvent) :
    event ∈ transcriptEvents transcript ↔ event ∈ transcriptEvents other := by
  simp only [transcriptEvents, mem_cons, mem_flatMap, same.telegraph, same.evidence]

section
variable (rearranged : Rearranged transcripts others)
include rearranged

theorem Rearranged.symm : Rearranged others transcripts := by
  obtain ⟨arranged, perm, pairs⟩ := rearranged
  obtain ⟨paired, same, back⟩ := perm_comp_forall₂ perm pairs
  exact ⟨paired, back.symm, List.Forall₂.flip (same.imp fun _ _ => SameTranscript.symm)⟩

theorem Rearranged.exists_same (member : transcript ∈ transcripts) :
    ∃ other ∈ others, SameTranscript transcript other := by
  obtain ⟨arranged, perm, pairs⟩ := rearranged
  have found := perm.mem_iff.mp member
  clear perm member
  induction pairs with
  | nil => cases found
  | cons same rest ih =>
    rcases mem_cons.mp found with rfl | later
    · exact ⟨_, mem_cons_self, same⟩
    · obtain ⟨other, present, matched⟩ := ih later
      exact ⟨other, mem_cons_of_mem _ present, matched⟩

theorem Rearranged.attackIds_perm : (transcripts.map (·.attackId)).Perm (others.map (·.attackId)) := by
  obtain ⟨arranged, perm, pairs⟩ := rearranged
  have ids : arranged.map (·.attackId) = others.map (·.attackId) := by
    rw [← List.forall₂_eq_eq_eq, List.forall₂_map_left_iff, List.forall₂_map_right_iff]
    exact pairs.imp fun _ _ same => same.attackId
  rw [← ids]
  exact perm.map _

theorem Rearranged.mem_events_iff (event : AuthenticatedEvent) :
    event ∈ transcripts.flatMap transcriptEvents ↔ event ∈ others.flatMap transcriptEvents := by
  have onward : ∀ {left right : List DungeonAttackTranscript}, Rearranged left right →
      event ∈ left.flatMap transcriptEvents → event ∈ right.flatMap transcriptEvents := by
    intro left right rearranged member
    obtain ⟨transcript, present, inside⟩ := mem_flatMap.mp member
    obtain ⟨other, found, same⟩ := rearranged.exists_same present
    exact mem_flatMap.mpr ⟨other, found, (same.mem_events_iff event).mp inside⟩
  exact ⟨onward rearranged, onward rearranged.symm⟩

end

section
variable {arith : Arithmetic} {sessionId : Str} {authorityKey : PublicKey} {config : TelegraphDungeonConfig}
  {playersById othersById : Map Str DungeonPlayer} {telegraphSource : AuthenticatedEvent} {attack : TelegraphedAttack}
  {dodgeEvidence otherEvidence : List DodgeEvidence}

theorem dodgeAdmitted_valid
    (admitted : dodgeAdmitted arith sessionId authorityKey config playersById telegraphSource attack evidence = true) :
    ∃ player, playersById.get evidence.intent.playerId = some player ∧
      dodgeEvidenceValid arith sessionId authorityKey config player telegraphSource attack evidence = true := by
  unfold dodgeAdmitted at admitted
  split at admitted
  · cases admitted
  · rename_i player found
    exact ⟨player, found, admitted⟩

theorem dodgeAdmitted_iff (found : playersById.get player.playerId = some player) :
    dodgeAdmitted arith sessionId authorityKey config playersById telegraphSource attack evidence = true ∧
        evidence.intent.playerId = player.playerId ↔
      dodgeEvidenceValid arith sessionId authorityKey config player telegraphSource attack evidence = true := by
  unfold dodgeAdmitted
  constructor
  · rintro ⟨admitted, author⟩
    rwa [author, found] at admitted
  · intro valid
    have author := (dodgeEvidenceValid_author valid).1
    rw [author, found]
    exact ⟨valid, rfl⟩

variable (sameRoster : ∀ id, playersById.get id = othersById.get id)
  (sameEvidence : ∀ evidence, evidence ∈ dodgeEvidence ↔ evidence ∈ otherEvidence)
  (faithful : ∀ a ∈ dodgeEvidence, ∀ b ∈ dodgeEvidence, a.input.digest = b.input.digest → a.input = b.input)
include sameRoster sameEvidence faithful

theorem dodgeTable_agrees (id : Str) :
    let table := dodgeTable arith sessionId authorityKey config playersById telegraphSource attack dodgeEvidence
    let other := dodgeTable arith sessionId authorityKey config othersById telegraphSource attack otherEvidence
    table.equivocators.contains id = other.equivocators.contains id ∧ table.accepted.get id = other.accepted.get id := by
  have tells := dodgeTable_tells arith sessionId authorityKey config playersById telegraphSource attack dodgeEvidence id
  have tells' := dodgeTable_tells arith sessionId authorityKey config othersById telegraphSource attack otherEvidence id
  have admits : dodgeAdmitted arith sessionId authorityKey config othersById telegraphSource attack =
      dodgeAdmitted arith sessionId authorityKey config playersById telegraphSource attack := by
    funext evidence
    simp only [dodgeAdmitted, sameRoster]
  unfold admittedDodges at tells tells'
  rw [admits] at tells'
  have members : ∀ evidence,
      evidence ∈ dodgeEvidence.filter
          (dodgeAdmitted arith sessionId authorityKey config playersById telegraphSource attack) ↔
        evidence ∈ otherEvidence.filter
          (dodgeAdmitted arith sessionId authorityKey config playersById telegraphSource attack) := by
    intro evidence
    rw [mem_filter, mem_filter, sameEvidence]
  have equivocated := Claims.contested_congr (fun evidence : DodgeEvidence => evidence.intent.playerId)
    (fun evidence => evidence.input.digest) members id
  constructor
  · rw [Bool.eq_iff_iff, tells.equivocators_iff, tells'.equivocators_iff]
    exact equivocated
  · by_cases contested : Equivocated (dodgeEvidence.filter
        (dodgeAdmitted arith sessionId authorityKey config playersById telegraphSource attack)) id
    · rw [(tells.contested contested).1, (tells'.contested (equivocated.mp contested)).1]
    · rw [(tells.uncontested contested).1, (tells'.uncontested (fun caught => contested (equivocated.mpr caught))).1]
      refine Claims.map_first_eq members contested ?_
      intro a memberA b memberB _ _ digests
      obtain ⟨presentA, admittedA⟩ := mem_filter.mp memberA
      obtain ⟨presentB, admittedB⟩ := mem_filter.mp memberB
      obtain ⟨_, _, valid⟩ := dodgeAdmitted_valid admittedA
      obtain ⟨_, _, valid'⟩ := dodgeAdmitted_valid admittedB
      have written := (dodgeEvidenceValid_author valid).2
      rw [faithful a presentA b presentB digests] at written
      exact serializeDodgeIntent_injective (exactInsert_payload written (dodgeEvidenceValid_author valid').2)

theorem replayAttackStep_eq [StrOrder] (perm : players.Perm others) (distinct : (players.map (·.playerId)).Nodup) :
    replayAttackStep arith sessionId authorityKey config playersById players telegraphSource attack dodgeEvidence =
      replayAttackStep arith sessionId authorityKey config othersById others telegraphSource attack otherEvidence := by
  have agrees := fun id => @dodgeTable_agrees arith sessionId authorityKey config playersById othersById telegraphSource
    attack dodgeEvidence otherEvidence sameRoster sameEvidence faithful id
  unfold replayAttackStep
  dsimp only at agrees ⊢
  have counted : (dodgeTable arith sessionId authorityKey config playersById telegraphSource attack
      dodgeEvidence).accepted.length = (dodgeTable arith sessionId authorityKey config othersById telegraphSource attack
      otherEvidence).accepted.length := by
    refine (dodgeTable_accepted_distinct _ _ _ _ _ _ _ _).length_eq (dodgeTable_accepted_distinct _ _ _ _ _ _ _ _) ?_
    intro id
    rw [(agrees id).2]
  rw [sortedPlayers_eq_of_perm perm distinct, counted]
  congr 1
  funext step player
  unfold resolvePlayer
  rw [(agrees player.playerId).1, (agrees player.playerId).2]

end

theorem rosterMap_isSome_of_perm (perm : players.Perm others) (read : (rosterMap config players).isSome = true) :
    (rosterMap config others).isSome = true := by
  unfold rosterMap at read ⊢
  rw [← perm.length_eq]
  split at read
  · cases read
  · rename_i inhabited
    rw [if_neg inhabited]
    rw [collectRoster_isSome_iff] at read ⊢
    obtain ⟨valid, ids, keys⟩ := read
    exact ⟨fun player member => valid player (perm.mem_iff.mpr member), (perm.map _).nodup_iff.mp ids,
      (perm.map _).nodup_iff.mp keys⟩

/-- Two valid dodges of a player for one attack hold different inputs. -/
def EquivocatesIn (arith : Arithmetic) (sessionId : Str) (authorityKey : PublicKey) (rules : TelegraphDungeonConfig)
    (transcript : DungeonAttackTranscript) (attack : TelegraphedAttack) (player : DungeonPlayer) : Prop :=
  ∃ a ∈ transcript.dodgeEvidence, ∃ b ∈ transcript.dodgeEvidence,
    dodgeEvidenceValid arith sessionId authorityKey rules player transcript.telegraph attack a = true ∧
      dodgeEvidenceValid arith sessionId authorityKey rules player transcript.telegraph attack b = true ∧
      a.input.digest ≠ b.input.digest

theorem encounterDodges_equivocators_iff (distinct : (players.map (·.playerId)).Nodup) (member : player ∈ players)
    (alive : 0 < state.hp player.playerId) :
    (encounterDodges arith sessionId authorityKey rules players state transcript
        attack).equivocators.contains player.playerId = true ↔
      EquivocatesIn arith sessionId authorityKey rules transcript attack (state.current player) := by
  have mine {evidence} := @dodgeAdmitted_iff arith sessionId authorityKey rules _ transcript.telegraph attack
    (state.current player) evidence (EncounterState.get_activeById_current distinct member alive)
  refine (dodgeTable_tells _ _ _ _ _ _ _ _ _).equivocators_iff.trans ⟨?_, ?_⟩
  · rintro ⟨a, memberA, b, memberB, authorA, authorB, different⟩
    obtain ⟨presentA, admittedA⟩ := mem_filter.mp memberA
    obtain ⟨presentB, admittedB⟩ := mem_filter.mp memberB
    exact ⟨a, presentA, b, presentB, mine.mp ⟨admittedA, authorA⟩, mine.mp ⟨admittedB, authorB⟩, different⟩
  · rintro ⟨a, memberA, b, memberB, validA, validB, different⟩
    obtain ⟨admittedA, authorA⟩ := mine.mpr validA
    obtain ⟨admittedB, authorB⟩ := mine.mpr validB
    exact ⟨a, mem_filter.mpr ⟨memberA, admittedA⟩, b, mem_filter.mpr ⟨memberB, admittedB⟩, authorA, authorB, different⟩

section
variable [StrOrder]

/-- The order of a plan: by the ticks, and attacks of the same ticks by their ids from the largest down. -/
def attackOrder : DungeonEncounterAttack → DungeonEncounterAttack → Ordering :=
  compareLex (compareOn (·.attack.visibleTick)) (compareLex (compareOn (·.attack.resolveTick))
    fun a b => compare b.attack.attackId a.attack.attackId)

theorem sortEncounterAttacks_eq : sortEncounterAttacks attacks = sortBy attackOrder attacks := by
  unfold sortEncounterAttacks
  congr 1
  funext a b
  rw [ite_compare_eq_then, ite_compare_eq_then]
  rfl

theorem sortEncounterAttacks_eq_of_perm (perm : attacks.Perm others)
    (distinct : (attacks.map (·.attack.attackId)).Nodup) :
    sortEncounterAttacks attacks = sortEncounterAttacks others := by
  rw [sortEncounterAttacks_eq, sortEncounterAttacks_eq]
  have ordered : Std.TransCmp attackOrder := by
    unfold attackOrder
    infer_instance
  refine sortBy_eq_of_perm_of_separates perm ?_
  intro a memberA b memberB same
  have ids := (compareLex_eq_eq.mp (compareLex_eq_eq.mp same).2).2
  exact inj_on_of_nodup_map distinct memberA memberB (compare_eq_iff_eq.mp ids).symm

theorem canonicalAttackPlan_of_perm (perm : attacks.Perm others)
    (planned : canonicalAttackPlan arith rules attacks = some plan) :
    canonicalAttackPlan arith rules others = some plan := by
  have sorted := sortEncounterAttacks_eq_of_perm perm (canonicalAttackPlan_some planned).2.1
  unfold canonicalAttackPlan at planned ⊢
  rwa [← perm.length_eq, ← sorted]

/-- Two sets of transcripts that are found under the same attacks and hold the same evidence. -/
def TranscriptsMatch (byId othersById : Map Str DungeonAttackTranscript) : Prop :=
  ∀ id, byId.get id = none ∧ othersById.get id = none ∨
    ∃ transcript other, byId.get id = some transcript ∧ othersById.get id = some other ∧ SameTranscript transcript other

/-- Two states of the loop that answer every question alike. -/
structure EncounterState.Agrees (state other : EncounterState) : Prop where
  positions : ∀ id, state.positions.get id = other.positions.get id
  hitPoints : ∀ id, state.hitPoints.get id = other.hitPoints.get id
  equivocators : ∀ id, state.allEquivocators.get id = other.allEquivocators.get id
  acceptedDodges : state.acceptedDodges = other.acceptedDodges

namespace EncounterState
variable {state other : EncounterState}

variable (agrees : state.Agrees other)
include agrees

omit [StrOrder] in
theorem Agrees.hp (id : Str) : state.hp id = other.hp id := by
  rw [EncounterState.hp, EncounterState.hp, agrees.hitPoints]

omit [StrOrder] in
theorem Agrees.position (player : DungeonPlayer) :
    state.position player = other.position player := by
  rw [EncounterState.position, EncounterState.position, agrees.positions]

omit [StrOrder] in
theorem Agrees.activePlayers_perm (perm : players.Perm others) :
    (state.activePlayers players).Perm (other.activePlayers others) := by
  unfold activePlayers
  simp only [agrees.hp, agrees.position]
  exact (perm.filter _).map _

omit [StrOrder] in
theorem Agrees.absorb (arith : Arithmetic) (perm : active.Perm others) (damage : ℤ)
    (step : DungeonAttackStep) :
    (state.absorb arith active damage step).Agrees (other.absorb arith others damage step) where
  positions id := by
    simp only [EncounterState.absorb]
    rw [Map.get_foldl_copyEntry DungeonPlayer.playerId,
      Map.get_foldl_copyEntry DungeonPlayer.playerId, agrees.positions]
    simp only [(perm.map (·.playerId)).mem_iff]
  hitPoints := by
    refine foldl_rel (r := fun m m' : Map Str ℤ => ∀ id, m.get id = m'.get id) agrees.hitPoints ?_
    intro playerId _ m m' same id
    rw [Map.get_set, Map.get_set, same, same]
  equivocators := by
    refine foldl_rel (r := fun m m' : Map Str Bool => ∀ id, m.get id = m'.get id) agrees.equivocators ?_
    intro playerId _ m m' same id
    rw [Map.get_set, Map.get_set, same]
  acceptedDodges := by
    simp only [EncounterState.absorb, agrees.acceptedDodges]

end EncounterState

section
variable {players : List DungeonPlayer} (perm : players.Perm others) (distinct : (players.map (·.playerId)).Nodup)
  (transcripts : TranscriptsMatch byId othersById)
  (faithful : ∀ id transcript, byId.get id = some transcript → DigestsFaithful (transcriptEvents transcript))
include perm distinct transcripts faithful

/-- The step lemma: one attack keeps two runs in agreement. -/
theorem encounterStep_agree (agrees : state.Agrees other) :
    Fallible.Agree EncounterState.Agrees (encounterStep arith sessionId authorityKey rules players byId state spec)
      (encounterStep arith sessionId authorityKey rules others othersById other spec) := by
  unfold encounterStep
  dsimp only
  rcases transcripts spec.attack.attackId with ⟨absent, absent'⟩ | ⟨transcript, matched, found, found', same⟩
  · rw [absent, absent']
    exact .error _ _
  · rw [found, found']
    dsimp only
    rw [← same.telegraph]
    split
    · exact .error _ _
    · have active := agrees.activePlayers_perm perm
      have activeDistinct := distinct.sublist (state.activePlayers_ids players)
      have otherDistinct := (perm.map (·.playerId)).nodup_iff.mp distinct
      have roster : ∀ id, (state.activeById players).get id = (other.activeById others).get id := by
        intro id
        ext player
        rw [EncounterState.get_activeById_iff distinct, EncounterState.get_activeById_iff otherDistinct, active.mem_iff]
      have inputs : ∀ a ∈ transcript.dodgeEvidence, ∀ b ∈ transcript.dodgeEvidence,
          a.input.digest = b.input.digest → a.input = b.input := by
        have event : ∀ evidence ∈ transcript.dodgeEvidence, evidence.input ∈ transcriptEvents transcript := by
          intro evidence member
          exact mem_cons_of_mem _ (mem_flatMap.mpr ⟨evidence, member, mem_cons_self⟩)
        intro a memberA b memberB
        exact faithful _ transcript found a.input (event a memberA) b.input (event b memberB)
      rw [replayAttackStep_eq roster same.evidence inputs active activeDistinct]
      exact .ok (agrees.absorb arith active spec.damage _)

end

theorem eventSetRoot_congr (same : ∀ text, text ∈ digests ↔ text ∈ others) :
    eventSetRoot hasher digests = eventSetRoot hasher others := by
  unfold eventSetRoot
  have sorted := sortBy_desc_eq_of_perm (fun text : Str => text) (unseen_perm same)
    (by rw [map_id'']; exacts [(unseen_invariant digests).1, fun _ => rfl])
  rw [sorted]

theorem dungeonEncounterTranscriptRoot_eq (rearranged : Rearranged transcripts others) :
    dungeonEncounterTranscriptRoot hasher transcripts = dungeonEncounterTranscriptRoot hasher others := by
  have digests : ∀ transcripts : List DungeonAttackTranscript, transcripts.flatMap transcriptDigests =
      (transcripts.flatMap transcriptEvents).map fun event => event.digest.text := by
    intro transcripts
    simp only [transcriptEvents, map_flatMap, map_cons, map_nil]
    rfl
  refine eventSetRoot_congr ?_
  intro text
  rw [digests, digests, mem_map, mem_map]
  simp only [rearranged.mem_events_iff]

omit [StrOrder] in
theorem transcriptLoop_rearranged (rearranged : Rearranged transcripts others)
    (read : transcriptLoop planned Map.empty transcripts = .ok byId) :
    ∃ othersById, transcriptLoop planned Map.empty others = .ok othersById ∧ TranscriptsMatch byId othersById := by
  obtain ⟨known, distinct, found⟩ := transcriptLoop_ok read
  have known' : ∀ other ∈ others, planned.contains other.attackId = true := by
    intro other member
    obtain ⟨transcript, present, same⟩ := rearranged.symm.exists_same member
    rw [same.attackId]
    exact known transcript present
  obtain ⟨othersById, read'⟩ := transcriptLoop_isOk known' (rearranged.attackIds_perm.nodup_iff.mp distinct)
  obtain ⟨_, _, found'⟩ := transcriptLoop_ok read'
  refine ⟨othersById, read', ?_⟩
  intro id
  cases here : byId.get id with
  | some transcript =>
    obtain ⟨member, rfl⟩ := (found id transcript).mp here
    obtain ⟨other, present, same⟩ := rearranged.exists_same member
    exact .inr ⟨transcript, other, rfl, (found' _ other).mpr ⟨present, same.attackId.symm⟩, same⟩
  | none =>
    refine .inl ⟨rfl, ?_⟩
    by_contra filled
    obtain ⟨other, there⟩ := Option.ne_none_iff_exists'.mp filled
    obtain ⟨member, rfl⟩ := (found' id other).mp there
    obtain ⟨transcript, present, same⟩ := rearranged.symm.exists_same member
    rw [(found _ transcript).mpr ⟨present, same.attackId.symm⟩] at here
    cases here

/-- A candidate of some inputs is the candidate of the rearranged inputs. -/
theorem prepareDungeonEncounter_rearranged (perm : players.Perm others) (attacksPerm : attacks.Perm otherAttacks)
    (rearranged : Rearranged transcripts otherTranscripts)
    (faithful : DigestsFaithful (transcripts.flatMap transcriptEvents))
    (ready : prepareDungeonEncounter arith hasher sessionId authorityKey config players attacks transcripts =
      .candidateReady candidate) :
    prepareDungeonEncounter arith hasher sessionId authorityKey config others otherAttacks otherTranscripts =
      .candidateReady candidate := by
  obtain ⟨configured, roster, plan, byId, state, planned, read, present, named, run, rfl⟩ :=
    prepareDungeonEncounter_ready_iff.mp ready
  obtain ⟨byPlayer, collected⟩ := Option.isSome_iff_exists.mp roster
  have distinct := (rosterMap_rosterOf collected).keys_distinct
  obtain ⟨othersById, read', matched⟩ := transcriptLoop_rearranged rearranged read
  have faithful' : ∀ id transcript, byId.get id = some transcript → DigestsFaithful (transcriptEvents transcript) := by
    intro id transcript found a memberA b memberB
    have member := ((transcriptLoop_ok read).2.2 id transcript).mp found
    exact faithful a (mem_flatMap.mpr ⟨transcript, member.1, memberA⟩) b
      (mem_flatMap.mpr ⟨transcript, member.1, memberB⟩)
  have runs : Fallible.Agree EncounterState.Agrees
      (plan.foldlM (encounterStep arith sessionId authorityKey config.attackRules players byId)
        (initialEncounterState config players))
      (plan.foldlM (encounterStep arith sessionId authorityKey config.attackRules others othersById)
        (initialEncounterState config others)) :=
    Fallible.foldlM_agree (fun _ _ _ _ agrees => encounterStep_agree perm distinct matched faithful' agrees)
      { positions := Map.get_foldl_assign_perm _ _ perm distinct Map.empty
        hitPoints := Map.get_foldl_assign_perm _ _ perm distinct Map.empty
        equivocators := fun _ => rfl
        acceptedDodges := rfl }
  rw [run] at runs
  generalize done : plan.foldlM (encounterStep arith sessionId authorityKey config.attackRules others othersById)
    (initialEncounterState config others) = answer at runs
  cases runs with
  | ok agrees =>
    have manifests : telegraphDungeonEncounterManifest hasher authorityKey config players plan =
        telegraphDungeonEncounterManifest hasher authorityKey config others plan := by
      unfold telegraphDungeonEncounterManifest telegraphDungeonManifest
      rw [sortedPlayers_eq_of_perm perm distinct]
    refine prepareDungeonEncounter_ready_iff.mpr ⟨configured, rosterMap_isSome_of_perm perm roster, plan, othersById, _,
      canonicalAttackPlan_of_perm attacksPerm planned, read', ?_, manifests ▸ named, done, ?_⟩
    · intro spec member
      have held := present spec member
      rcases matched spec.attack.attackId with ⟨absent, _⟩ | ⟨transcript, other, _, there, _⟩
      · rw [Map.contains, absent] at held
        cases held
      · rw [Map.contains, there]
        rfl
    · rw [← manifests]
      unfold encounterCandidate
      simp only [sortedPlayers_eq_of_perm perm distinct, dungeonEncounterTranscriptRoot_eq rearranged, agrees.hp,
        agrees.position, agrees.acceptedDodges, Map.contains, agrees.equivocators]

/-- The replay stands at `state`: the attacks `done` of the plan are resolved and `rest` lie ahead. -/
def ReplayedTo (arith : Arithmetic) (sessionId : Str) (authorityKey : PublicKey) (config : DungeonEncounterConfig)
    (players : List DungeonPlayer) (attacks : List DungeonEncounterAttack) (transcripts : List DungeonAttackTranscript)
    (done rest : List DungeonEncounterAttack) (state : EncounterState) : Prop :=
  ∃ plan byId, canonicalAttackPlan arith config.attackRules attacks = some plan ∧
    transcriptLoop (plannedIds plan) Map.empty transcripts = .ok byId ∧ plan = done ++ rest ∧
    done.foldlM (encounterStep arith sessionId authorityKey config.attackRules players byId)
      (initialEncounterState config players) = .ok state

/-- An equivocator is hit on the old position, and the candidate names the player. -/
theorem equivocator_is_hit
    (ready : prepareDungeonEncounter arith hasher sessionId authorityKey config players attacks transcripts =
      .candidateReady candidate)
    (reached : ReplayedTo arith sessionId authorityKey config players attacks transcripts done (spec :: rest) state)
    (transcribed : transcript ∈ transcripts) (attackOf : transcript.attackId = spec.attack.attackId)
    (member : player ∈ players) (alive : 0 < state.hp player.playerId)
    (equivocates : EquivocatesIn arith sessionId authorityKey config.attackRules transcript spec.attack
      (state.current player)) :
    ∃ next, ReplayedTo arith sessionId authorityKey config players attacks transcripts (done ++ [spec]) rest next ∧
      next.position player = state.position player ∧
      next.hp player.playerId = hpAfterEncounterDamage arith (state.hp player.playerId) spec.damage true ∧
      player.playerId ∈ candidate.equivocators := by
  obtain ⟨plan, byId, planned, read, split, before⟩ := reached
  obtain ⟨_, roster, plan', byId', final, planned', read', _, _, run, rfl⟩ := prepareDungeonEncounter_ready_iff.mp ready
  obtain rfl : plan = plan' := Option.some.inj (planned.symm.trans planned')
  obtain rfl : byId = byId' := Except.ok.inj (read.symm.trans read')
  obtain ⟨byPlayer, collected⟩ := Option.isSome_iff_exists.mp roster
  have distinct := (rosterMap_rosterOf collected).keys_distinct
  rw [split] at run
  obtain ⟨middle, first, later⟩ := Fallible.foldlM_append_ok.mp run
  obtain rfl : state = middle := Except.ok.inj (before.symm.trans first)
  obtain ⟨next, stepped, after⟩ := Fallible.foldlM_cons_ok.mp later
  have found : byId.get spec.attack.attackId = some transcript :=
    ((transcriptLoop_ok read).2.2 _ _).mpr ⟨transcribed, attackOf⟩
  have resolves := encounterStep_resolves stepped found distinct member
  have marked := (encounterDodges_equivocators_iff distinct member alive).mpr equivocates
  have markedCurrent : (encounterDodges arith sessionId authorityKey config.attackRules players state transcript
      spec.attack).equivocators.contains (state.current player).playerId = true := marked
  refine ⟨next, ⟨plan, byId, planned, read, ?_, ?_⟩, ?_, ?_, ?_⟩
  · rw [split, append_assoc]
    rfl
  · exact Fallible.foldlM_append_ok.mpr ⟨state, before, Fallible.foldlM_cons_ok.mpr ⟨next, stepped, rfl⟩⟩
  · rw [resolves.position alive, landing, if_pos markedCurrent]
    rfl
  · rw [resolves.hp alive, struck, markedCurrent, Bool.true_or, if_pos rfl]
  · have caught : final.allEquivocators.contains player.playerId = true :=
      Fallible.foldlM_invariant (fun state => state.allEquivocators.contains player.playerId = true)
        (fun _ _ _ _ held moved => by
          obtain ⟨transcript, _, rfl⟩ := encounterStep_ok moved
          exact (EncounterState.absorb_equivocators _ _ _ _ _ _).mpr (.inr held))
        (resolves.equivocators.mpr (.inl ⟨alive, marked⟩)) after
    exact mem_map.mpr ⟨player, mem_filter.mpr ⟨(sortedPlayers_perm _).mem_iff.mpr member, caught⟩, rfl⟩

/-- Order and repetition of the inputs do not reach the result. A player with two different valid dodges for one attack is
hit on the old position and named as an equivocator. -/
theorem encounter_replay_ignores_input_order (arith : Arithmetic) (hasher : Hasher) (sessionId : Str)
    (authorityKey : PublicKey) (config : DungeonEncounterConfig) (players others : List DungeonPlayer)
    (attacks otherAttacks : List DungeonEncounterAttack) (transcripts otherTranscripts : List DungeonAttackTranscript)
    (playersPerm : players.Perm others) (attacksPerm : attacks.Perm otherAttacks)
    (rearranged : Rearranged transcripts otherTranscripts)
    (faithful : DigestsFaithful (transcripts.flatMap transcriptEvents)) :
    (∀ candidate,
      prepareDungeonEncounter arith hasher sessionId authorityKey config players attacks transcripts =
          .candidateReady candidate ↔
        prepareDungeonEncounter arith hasher sessionId authorityKey config others otherAttacks otherTranscripts =
          .candidateReady candidate) ∧
    ∀ candidate, prepareDungeonEncounter arith hasher sessionId authorityKey config players attacks transcripts =
        .candidateReady candidate →
      ∀ done spec rest state,
        ReplayedTo arith sessionId authorityKey config players attacks transcripts done (spec :: rest) state →
      ∀ transcript ∈ transcripts, transcript.attackId = spec.attack.attackId →
      ∀ player ∈ players, 0 < state.hp player.playerId →
      ∀ a ∈ transcript.dodgeEvidence, ∀ b ∈ transcript.dodgeEvidence,
        dodgeEvidenceValid arith sessionId authorityKey config.attackRules (state.current player) transcript.telegraph
          spec.attack a = true →
        dodgeEvidenceValid arith sessionId authorityKey config.attackRules (state.current player) transcript.telegraph
          spec.attack b = true →
        a.input.digest ≠ b.input.digest →
      ∃ next, ReplayedTo arith sessionId authorityKey config players attacks transcripts (done ++ [spec]) rest next ∧
        next.position player = state.position player ∧
        next.hp player.playerId = hpAfterEncounterDamage arith (state.hp player.playerId) spec.damage true ∧
        player.playerId ∈ candidate.equivocators := by
  have faithful' : DigestsFaithful (otherTranscripts.flatMap transcriptEvents) := by
    intro a memberA b memberB
    exact faithful a ((rearranged.mem_events_iff a).mpr memberA) b ((rearranged.mem_events_iff b).mpr memberB)
  refine ⟨fun candidate => ⟨?_, ?_⟩, ?_⟩
  · exact prepareDungeonEncounter_rearranged playersPerm attacksPerm rearranged faithful
  · exact prepareDungeonEncounter_rearranged playersPerm.symm attacksPerm.symm rearranged.symm faithful'
  · intro candidate ready done spec rest state reached transcript transcribed attackOf player member alive a memberA b
      memberB validA validB different
    exact equivocator_is_hit ready reached transcribed attackOf member alive
      ⟨a, memberA, b, memberB, validA, validB, different⟩

end

namespace EncounterSample

def telegraph : AuthenticatedEvent := ⟨"s", ⟨"t"⟩, authority, makeDungeonTelegraphEvent ⟨"A"⟩ 0 0 [] attack⟩

def dodge (digest receiptDigest : Str) (counter toX : ℤ) : DodgeEvidence :=
  let intent : DodgeIntent := ⟨"a", "p", ⟨"t"⟩, 2, toX⟩
  let observed : DodgeReceipt := ⟨⟨digest⟩, 3⟩
  { input := ⟨"s", ⟨digest⟩, ⟨"P"⟩, makeDungeonDodgeEvent ⟨"p"⟩ counter 1 [telegraph.event.id] intent⟩
    receipt := ⟨"s", ⟨receiptDigest⟩, authority,
      makeDungeonReceiptEvent ⟨"A"⟩ (counter + 1) 2 [⟨⟨"p"⟩, counter⟩] observed⟩
    intent, observed }

def transcript : DungeonAttackTranscript := ⟨"a", telegraph, [dodge "i" "r" 0 4, dodge "j" "u" 1 5]⟩

def rearrangedTranscript : DungeonAttackTranscript :=
  ⟨"a", telegraph, [dodge "j" "u" 1 5, dodge "i" "r" 0 4, dodge "j" "u" 1 5]⟩

def equivocators : DungeonEncounterCandidateResult → List Str
  | .candidateReady candidate => candidate.equivocators
  | .refused _ => []

end EncounterSample

section
open EncounterSample
open Shortlex

theorem encounter_replay_ignores_input_order_two_dodges : ∃ candidate,
    prepareDungeonEncounter .int32 hasher "s" authority config players [⟨attack, 4⟩] [transcript] =
        .candidateReady candidate ∧
      prepareDungeonEncounter .int32 hasher "s" authority config players.reverse [⟨attack, 4⟩] [rearrangedTranscript] =
        .candidateReady candidate ∧
      lit "p" ∈ candidate.equivocators := by
  have swapped : ∀ x y evidence : DodgeEvidence, evidence ∈ [x, y] ↔ evidence ∈ [y, x, y] := by
    simp only [mem_cons, not_mem_nil, or_false]
    tauto
  have named : equivocators
      (prepareDungeonEncounter .int32 hasher "s" authority config players [⟨attack, 4⟩] [transcript]) = [lit "p"] := by
    decide +kernel
  cases answer : prepareDungeonEncounter .int32 hasher "s" authority config players [⟨attack, 4⟩] [transcript] with
  | refused reason =>
    rw [answer] at named
    cases named
  | candidateReady candidate =>
    rw [answer] at named
    have order := encounter_replay_ignores_input_order .int32 hasher "s" authority config players players.reverse
      [⟨attack, 4⟩] [⟨attack, 4⟩] [transcript] [rearrangedTranscript] (reverse_perm players).symm (.refl _)
      ⟨[transcript], .refl _, .cons ⟨rfl, rfl, swapped _ _⟩ .nil⟩ (by decide +kernel)
    have listed : candidate.equivocators = [lit "p"] := named
    exact ⟨candidate, rfl, (order.1 candidate).mp answer, by rw [listed]; exact mem_cons_self⟩

end

end ConvergeAudit.Replay
