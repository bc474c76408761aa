import ConvergeAudit.Replay.Encounter

/-!
The end of `replay/encounter.mbt`: only an encounter that was finalized against the signed checkpoint has loot.
-/

namespace ConvergeAudit.Replay
open Moon Bft Game List

/-- A candidate whose roots a verified checkpoint has committed to. -/
structure DungeonEncounterResolution where
  candidate : DungeonEncounterCandidate
  checkpointDigest : Digest

inductive DungeonEncounterFinalizeResult where
  | encounterFinalized (resolution : DungeonEncounterResolution)
  | refused (reason : DungeonEncounterRefusal)

def finalizeDungeonEncounter (candidate : DungeonEncounterCandidate) (checkpoint : VerifiedCheckpoint) :
    DungeonEncounterFinalizeResult :=
  let committed := checkpoint.checkpoint
  if checkpoint.authorityKey ≠ candidate.authority then .refused .checkpointAuthorityMismatch
  else if committed.sessionId ≠ candidate.session then .refused .checkpointSessionMismatch
  else if committed.manifestDigest ≠ candidate.manifest then .refused .checkpointManifestMismatch
  else if committed.eventRoot ≠ candidate.eventRoot then .refused .checkpointEventRootMismatch
  else if committed.publicStateRoot ≠ candidate.publicStateRoot then .refused .checkpointPublicStateRootMismatch
  else .encounterFinalized ⟨candidate, checkpoint.digest⟩

variable {candidate : DungeonEncounterCandidate}

def dungeonEncounterLootAssetId (sessionId encounterId recipientId : Str) : Str :=
  [lit "dungeon-encounter-loot-v1", sessionId, encounterId, recipientId].foldl appendField Str.empty

def deterministicEncounterLootEffect (candidate : DungeonEncounterCandidate) (recipientId : Str) : AssetEffect :=
  .create (dungeonEncounterLootAssetId candidate.session candidate.encounterId recipientId) recipientId
    candidate.lootItemType 1 0

structure DungeonEncounterLootKernel where
  session : Str
  authority : PublicKey
  encounterId : Str
  lootItemType : Str
  manifest : Digest
  eligible : Map Str Bool

def DungeonEncounterLootKernel.kernel (self : DungeonEncounterLootKernel) : AssetReplayKernel where
  manifestDigest := self.manifest
  replay source effect :=
    if source.sessionId ≠ self.session ∨ source.authorKey ≠ self.authority then false
    else
      match effect with
      | .create assetId recipientId itemType quantity outputIndex =>
        self.eligible.contains recipientId &&
          assetId == dungeonEncounterLootAssetId self.session self.encounterId recipientId &&
          itemType == self.lootItemType && quantity == 1 && outputIndex == 0 &&
          exactInsert source "converge.asset-effect.v1" assetId "effect" (serializeAssetEffect effect)
      | _ => false

namespace DungeonEncounterResolution

variable (self : DungeonEncounterResolution)

def replayMatch : CheckpointReplayMatch where
  checkpointDigest := self.checkpointDigest
  authorityKey := self.candidate.authority

def lootKernel : DungeonEncounterLootKernel where
  session := self.candidate.session
  authority := self.candidate.authority
  encounterId := self.candidate.encounterId
  lootItemType := self.candidate.lootItemType
  manifest := self.candidate.manifest
  eligible := if self.candidate.cleared then self.candidate.survivors.foldl (fun m playerId => m.set playerId true) Map.empty
    else Map.empty

theorem lootKernel_eligible (recipientId : Str) :
    self.lootKernel.eligible.contains recipientId = true ↔
      self.candidate.cleared = true ∧ recipientId ∈ self.candidate.survivors := by
  unfold lootKernel
  cases self.candidate.cleared with
  | false => simp [Map.contains]
  | true =>
    rw [if_pos rfl, Map.contains_foldl_set]
    simp [Map.contains]

/-- The kernel accepts the loot of a survivor of a cleared encounter, declared by the authority, and nothing else. -/
theorem lootKernel_replay (accepts : self.lootKernel.kernel.replay source effect = true) :
    ∃ recipientId, (self.candidate.cleared = true ∧ recipientId ∈ self.candidate.survivors) ∧
      effect = deterministicEncounterLootEffect self.candidate recipientId := by
  obtain ⟨_, accepts⟩ := (Lib.passes (by simp)).mp accepts
  cases effect with
  | transfer => cases accepts
  | create assetId recipientId itemType quantity outputIndex =>
    simp only [Bool.and_eq_true, lootKernel_eligible, beq_iff_eq] at accepts
    obtain ⟨⟨⟨⟨⟨entitled, rfl⟩, rfl⟩, rfl⟩, rfl⟩, _⟩ := accepts
    exact ⟨recipientId, entitled, rfl⟩

end DungeonEncounterResolution

section
variable [StrOrder]

omit [StrOrder] in
theorem encounterStateFields_injective : Function.Injective encounterStateFields := by
  rintro ⟨id, position, hp⟩ ⟨id', position', hp'⟩ same
  simp only [encounterStateFields, List.cons.injEq, Str.ofInt_inj, and_true] at same
  obtain ⟨rfl, rfl, rfl⟩ := same
  rfl

/-- A candidate of which the public state root tells everything: the arrays are in the order that the root sorts them to,
and the survivors are read off the states. -/
structure DungeonEncounterCandidate.Canonical (hasher : Hasher) (candidate : DungeonEncounterCandidate) : Prop where
  root : candidate.publicStateRoot = encounterPublicStateRoot hasher candidate.session candidate.encounterId
    candidate.playerStates candidate.cleared candidate.acceptedDodges candidate.equivocators
  states_sorted : sortBy (fun a b => compare b.playerId a.playerId) candidate.playerStates = candidate.playerStates
  equivocators_sorted : sortBy (fun a b => compare b a) candidate.equivocators = candidate.equivocators
  survivors : candidate.survivors = (candidate.playerStates.filter fun state => state.hp > 0).map (·.playerId)
  defeated : candidate.defeated = (candidate.playerStates.filter fun state => !(state.hp > 0)).map (·.playerId)

theorem encounterCandidate_canonical :
    (encounterCandidate hasher sessionId authorityKey config players transcripts manifest state).Canonical hasher := by
  have sorted := pairwise_sortBy (fun a b : DungeonPlayer => compare b.playerId a.playerId) players
  refine ⟨rfl, ?_, ?_, ?_, ?_⟩
  · exact sortBy_desc_map (fun _ => rfl) sorted
  · exact sortBy_desc_map_key (sorted.filter _)
  · simp only [encounterCandidate, filter_map, map_map, Function.comp_def]
  · simp only [encounterCandidate, filter_map, map_map, Function.comp_def]

theorem prepareDungeonEncounter_canonical
    (ready : prepareDungeonEncounter arith hasher sessionId authorityKey config players attacks transcripts =
      .candidateReady candidate) :
    candidate.Canonical hasher ∧ candidate.session = sessionId ∧ candidate.authority = authorityKey := by
  obtain ⟨_, _, plan, byId, state, _, _, _, _, _, rfl⟩ := prepareDungeonEncounter_ready_iff.mp ready
  exact ⟨encounterCandidate_canonical .., rfl, rfl⟩

theorem DungeonEncounterCandidate.Canonical.outcome_eq (injective : hasher.CollisionFree)
    {other : DungeonEncounterCandidate} (canonical : candidate.Canonical hasher) (canonical' : other.Canonical hasher)
    (same : candidate.publicStateRoot = other.publicStateRoot) :
    candidate.cleared = other.cleared ∧ candidate.acceptedDodges = other.acceptedDodges ∧
      candidate.playerStates = other.playerStates ∧ candidate.survivors = other.survivors ∧
      candidate.defeated = other.defeated ∧ candidate.equivocators = other.equivocators := by
  rw [canonical.root, canonical'.root] at same
  have values := foldl_appendField_inj (injective same)
  simp only [append_assoc, cons_append, nil_append, List.cons.injEq, true_and] at values
  obtain ⟨_, _, outcomes, dodges, counts, later⟩ := values
  obtain ⟨states, marked⟩ := counted_append_inj encounterStateFields_injective (fun _ _ => rfl) counts later
  have equivocators := (List.cons.inj marked).2
  have cleared : candidate.cleared = other.cleared := by
    have tags : lit "cleared" ≠ lit "failed" := by decide
    cases here : candidate.cleared <;> cases there : other.cleared <;> simp_all
  rw [canonical.states_sorted, canonical'.states_sorted] at states
  rw [canonical.equivocators_sorted, canonical'.equivocators_sorted] at equivocators
  refine ⟨cleared, Str.ofInt_injective dodges, states, ?_, ?_, equivocators⟩
  · rw [canonical.survivors, canonical'.survivors, states]
  · rw [canonical.defeated, canonical'.defeated, states]

end

end ConvergeAudit.Replay
