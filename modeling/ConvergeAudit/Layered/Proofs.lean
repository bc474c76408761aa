import ConvergeAudit.Layered.Partition
import ConvergeAudit.Merkle.Inclusion

/-!
A proof leads from a payload to the root of its micro checkpoint and from that record to the root of the macro
checkpoint. Both digests bind every field, so a proof cannot be spliced from another window.
-/

namespace ConvergeAudit.Layered
open Moon Bft Merkle Audit List

theorem serializeMicroCheckpointCore_eq :
    serializeMicroCheckpointCore checkpoint = fields ["layered-micro-v1", checkpoint.scopeId,
      Str.ofInt checkpoint.macroEpoch, Str.ofInt checkpoint.microIndex, Str.ofInt checkpoint.startsAtMs,
      Str.ofInt checkpoint.endsAtMs, Str.ofInt checkpoint.eventCount, checkpoint.eventRoot.text] := by
  simp [serializeMicroCheckpointCore, appendIntField, appendField_eq, Str.append_assoc]

theorem serializeMicroCheckpoint_eq :
    serializeMicroCheckpoint checkpoint = fields ["layered-micro-record-v1", serializeMicroCheckpointCore checkpoint,
      checkpoint.digest.text] := by
  simp [serializeMicroCheckpoint, appendField_eq, Str.append_assoc]

theorem serializeMacroCheckpointCore_eq :
    serializeMacroCheckpointCore checkpoint = fields ["layered-macro-v1", checkpoint.scopeId,
      Str.ofInt checkpoint.epoch, Str.ofInt checkpoint.startsAtMs, Str.ofInt checkpoint.endsAtMs,
      Str.ofInt checkpoint.microCheckpointCount, Str.ofInt checkpoint.eventCount,
      checkpoint.previousMacroDigest.text, checkpoint.microRoot.text] := by
  simp [serializeMacroCheckpointCore, appendIntField, appendField_eq, Str.append_assoc]

theorem serializeMicroCheckpoint_inj (same : serializeMicroCheckpoint checkpoint = serializeMicroCheckpoint other) :
    checkpoint = other := by
  rw [serializeMicroCheckpoint_eq, serializeMicroCheckpoint_eq] at same
  have parts := fields_injective same
  simp only [List.cons.injEq, and_true, true_and] at parts
  obtain ⟨core, digests⟩ := parts
  rw [serializeMicroCheckpointCore_eq, serializeMicroCheckpointCore_eq] at core
  have values := fields_injective core
  cases checkpoint
  cases other
  simp only [List.cons.injEq, Str.ofInt_inj, Digest.text_inj, and_true, true_and] at values digests
  obtain ⟨rfl, rfl, rfl, rfl, rfl, rfl, rfl⟩ := values
  rw [digests]

theorem macroCheckpoint_eq_of_core
    (same : serializeMacroCheckpointCore checkpoint = serializeMacroCheckpointCore other)
    (digests : checkpoint.digest = other.digest) : checkpoint = other := by
  rw [serializeMacroCheckpointCore_eq, serializeMacroCheckpointCore_eq] at same
  have values := fields_injective same
  cases checkpoint
  cases other
  simp only [List.cons.injEq, Str.ofInt_inj, Digest.text_inj, and_true, true_and] at values digests
  obtain ⟨rfl, rfl, rfl, rfl, rfl, rfl, rfl, rfl⟩ := values
  rw [digests]

theorem proof_fields {tree : MerkleTree} (made : tree.proof index = some proof) :
    proof.leafIndex = index ∧ proof.leafCount = tree.leafHashes.length := by
  unfold MerkleTree.proof at made
  split at made
  · contradiction
  · cases made
    exact ⟨rfl, rfl⟩

/-- A micro checkpoint whose tree is built from the payloads it keeps. -/
def SealedMicroCheckpoint.Retains (hasher : Hasher) (micro : SealedMicroCheckpoint) : Prop :=
  micro.tree = MerkleTree.build hasher micro.canonicalPayloads

theorem SealedMicroCheckpoint.Retains.eventProof_spec {micro : SealedMicroCheckpoint} (retains : micro.Retains hasher) :
    ((micro.eventProof payload).isSome ↔ payload ∈ micro.canonicalPayloads) ∧
    ∀ proof, micro.eventProof payload = some proof →
      proof.leafCount = micro.canonicalPayloads.length ∧
      verifyInclusion hasher payload (MerkleTree.build hasher micro.canonicalPayloads).root proof = true := by
  unfold SealedMicroCheckpoint.eventProof
  rw [retains]
  cases found : micro.canonicalPayloads.findIdx? (· = payload) with
  | none =>
    have absent := findIdx?_eq_none_iff.mp found
    refine ⟨iff_of_false (by simp) fun member => ?_, by simp⟩
    simpa using absent payload member
  | some index =>
    obtain ⟨inside, matched, -⟩ := findIdx?_eq_some_iff_getElem.mp found
    have isPayload : micro.canonicalPayloads[index] = payload := by simpa using matched
    obtain ⟨made, isMade, accepted⟩ := verifyInclusion_proof hasher inside
    rw [isPayload] at accepted
    dsimp only
    rw [isMade]
    refine ⟨iff_of_true rfl (isPayload ▸ getElem_mem inside), ?_⟩
    rintro proof same
    cases same
    refine ⟨?_, accepted⟩
    rw [(proof_fields isMade).2, MerkleTree.leafHashes_build, length_map]

theorem eventProofFrom_eq_some (found : eventProofFrom tree payload micros index = some proof) :
    ∃ (i : ℕ) (micro : SealedMicroCheckpoint), micros[i]? = some micro ∧ proof.microCheckpoint = micro.checkpointValue ∧
      micro.eventProof payload = some proof.eventProof ∧
      tree.proof ((index + i : ℕ) : ℤ) = some proof.microProof := by
  induction micros generalizing index with
  | nil => contradiction
  | cons micro rest ih =>
    rw [eventProofFrom] at found
    cases here : micro.eventProof payload with
    | none =>
      rw [here] at found
      obtain ⟨i, other, position, record, event, leaf⟩ := ih found
      exact ⟨i + 1, other, position, record, event, by rwa [show index + (i + 1) = index + 1 + i by omega]⟩
    | some eventProof =>
      rw [here] at found
      cases above : tree.proof index with
      | none => simp [above] at found
      | some microProof =>
        simp only [above, Option.some.injEq] at found
        subst found
        exact ⟨0, micro, rfl, rfl, here, above⟩

theorem eventProofFrom_isSome (provable : ∀ i < micros.length, (tree.proof ((index + i : ℕ) : ℤ)).isSome) :
    (eventProofFrom tree payload micros index).isSome ↔ ∃ micro ∈ micros, (micro.eventProof payload).isSome := by
  induction micros generalizing index with
  | nil => simp [eventProofFrom]
  | cons micro rest ih =>
    rw [eventProofFrom]
    cases here : micro.eventProof payload with
    | none =>
      have next : ∀ i < rest.length, (tree.proof ((index + 1 + i : ℕ) : ℤ)).isSome := by
        intro i less
        have shifted := provable (i + 1) (by rw [length_cons]; omega)
        rwa [show index + (i + 1) = index + 1 + i by omega] at shifted
      simp [here, ih next]
    | some eventProof =>
      obtain ⟨microProof, above⟩ := Option.isSome_iff_exists.mp (provable 0 (by simp))
      rw [Nat.add_zero] at above
      simp [here, above]

namespace Setup
variable [StrOrder] {setup : Setup}

theorem retains_plannedMicro : (setup.plannedMicro events n).Retains setup.hasher := rfl

theorem microValues_plannedMacro (found : (setup.plannedMacro events epoch).microValues[i]? = some micro) :
    i < setup.perMacro ∧ setup.plannedMicro events (setup.perMacro * epoch + i) = micro :=
  getElem?_map_range.mp found

omit [StrOrder] in
theorem epoch_of_position (inside : i < setup.perMacro) : (setup.perMacro * epoch + i) / setup.perMacro = epoch := by
  rw [Nat.mul_add_div setup.perMacro_pos, Nat.div_eq_of_lt inside, Nat.add_zero]

theorem verify_plannedMicro {i : ℕ} (inside : i < setup.perMacro)
    (made : (setup.plannedMacro events epoch).tree.proof i = some proof) :
    verifyMacroCheckpointMicro setup.hasher (setup.plannedMacro events epoch).checkpointValue
      (setup.plannedMicro events (setup.perMacro * epoch + i)).checkpointValue proof = true := by
  have size : (setup.epochMicros events epoch setup.perMacro).length = setup.perMacro := length_epochMicros epoch _
  have ordered : setup.start (setup.perMacro * epoch + i) < setup.start (setup.perMacro * epoch + i + 1) :=
    start_strictMono (Nat.lt_succ_self _)
  have lower : setup.start (setup.perMacro * epoch) ≤ setup.start (setup.perMacro * epoch + i) :=
    start_strictMono.monotone (Nat.le_add_right _ _)
  have upper : setup.start (setup.perMacro * epoch + i + 1) ≤ setup.start (setup.perMacro * (epoch + 1)) :=
    start_strictMono.monotone (by rw [Nat.mul_succ]; omega)
  rw [start_mul] at lower upper
  rw [Int.natCast_succ] at upper
  -- the leaves of the tree are the records of the epoch
  let records := (setup.epochMicros events epoch setup.perMacro).map fun micro =>
    serializeMicroCheckpoint micro.checkpointValue
  have position : i < records.length := by
    rwa [length_map, size]
  have record : records[i] = serializeMicroCheckpoint
      (setup.plannedMicro events (setup.perMacro * epoch + i)).checkpointValue := by
    simp [records, epochMicros]
  obtain ⟨honest, isHonest, accepted⟩ := verifyInclusion_proof setup.hasher position
  obtain rfl := Option.some.inj (isHonest.symm.trans made)
  obtain ⟨index, count⟩ := proof_fields made
  have counted : honest.leafCount = setup.perMacro := by
    rw [count]
    change (((MerkleTree.build setup.hasher records).leafHashes.length : ℕ) : ℤ) = _
    rw [MerkleTree.leafHashes_build, length_map, length_map, size]
  rw [record] at accepted
  unfold verifyMacroCheckpointMicro
  rw [if_neg]
  · exact accepted
  have macroCount : (setup.plannedMacro events epoch).checkpointValue.microCheckpointCount = setup.perMacro :=
    congrArg Nat.cast size
  have microIndex : (setup.plannedMicro events (setup.perMacro * epoch + i)).checkpointValue.microIndex = i :=
    index_epochMicros inside
  have microEpoch : (setup.plannedMicro events (setup.perMacro * epoch + i)).checkpointValue.macroEpoch = epoch :=
    congrArg Nat.cast (epoch_of_position inside)
  rw [macroCount, microIndex, microEpoch, index, counted]
  change ¬(_ ∨ setup.originMs + (epoch + 1) * _ ≤ setup.originMs + epoch * _ ∨ _ ≠ _ ∨ _ ≠ _ ∨ _ ≠ _ ∨ _ ≠ _ ∨
    _ ≠ _ ∨ _ ≠ _ ∨ setup.start (setup.perMacro * epoch + i) < setup.originMs + epoch * _ ∨
    setup.start (setup.perMacro * epoch + i + 1) > setup.originMs + (epoch + 1) * _ ∨
    setup.start (setup.perMacro * epoch + i + 1) ≤ setup.start (setup.perMacro * epoch + i))
  rintro (h | h | h | h | h | h | h | h | h | h | h) <;> first | omega | exact h rfl

theorem eventProof_plannedMacro_isSome :
    ((setup.plannedMacro events epoch).eventProof payload).isSome ↔
      ∃ micro ∈ (setup.plannedMacro events epoch).microValues, payload ∈ micro.canonicalPayloads := by
  have provable : ∀ i < (setup.plannedMacro events epoch).microValues.length,
      ((setup.plannedMacro events epoch).tree.proof ((0 + i : ℕ) : ℤ)).isSome := by
    intro i less
    have position : i < ((setup.plannedMacro events epoch).microValues.map fun micro =>
        serializeMicroCheckpoint micro.checkpointValue).length := by
      rwa [length_map]
    obtain ⟨proof, made, -⟩ := verifyInclusion_proof setup.hasher position
    rw [Nat.zero_add]
    exact Option.isSome_iff_exists.mpr ⟨proof, made⟩
  refine (eventProofFrom_isSome provable).trans (exists_congr fun micro => and_congr_right fun member => ?_)
  obtain ⟨i, found⟩ := getElem?_of_mem member
  obtain ⟨-, rfl⟩ := microValues_plannedMacro found
  exact retains_plannedMicro.eventProof_spec.1

theorem verify_eventProof_plannedMacro (made : (setup.plannedMacro events epoch).eventProof payload = some proof) :
    verifyMacroCheckpointEvent setup.hasher (setup.plannedMacro events epoch).checkpoint payload proof = true := by
  obtain ⟨i, micro, found, record, event, above⟩ := eventProofFrom_eq_some made
  obtain ⟨inside, rfl⟩ := microValues_plannedMacro found
  rw [Nat.zero_add] at above
  obtain ⟨someExactly, accepts⟩ := retains_plannedMicro.eventProof_spec
  obtain ⟨count, accepted⟩ := accepts _ event
  have member := someExactly.mp (Option.isSome_iff_exists.mpr ⟨_, event⟩)
  have nonempty := length_pos_of_mem member
  have ordered : setup.start (setup.perMacro * epoch + i) < setup.start (setup.perMacro * epoch + i + 1) :=
    start_strictMono (Nat.lt_succ_self _)
  unfold verifyMacroCheckpointEvent
  rw [record, Bool.and_eq_true]
  refine ⟨?_, verify_plannedMicro inside above⟩
  unfold verifyMicroCheckpointEvent
  rw [if_neg]
  · exact accepted
  change ¬((((setup.plannedMicro events (setup.perMacro * epoch + i)).canonicalPayloads.length : ℕ) : ℤ) ≤ 0 ∨
    setup.start (setup.perMacro * epoch + i + 1) ≤ setup.start (setup.perMacro * epoch + i) ∨ _ ≠ _ ∨ _ ≠ _)
  rintro (blank | disordered | miscounted | undigested)
  · omega
  · omega
  · exact miscounted count
  · exact undigested rfl

/-- An accepted proof against a record with the digest of an epoch comes from that epoch. -/
theorem verifyMacroCheckpointEvent_sound (injective : setup.hasher.CollisionFree)
    (digests : checkpoint.digest = (setup.plannedMacro events epoch).checkpoint.digest)
    (accepted : verifyMacroCheckpointEvent setup.hasher checkpoint payload proof = true) :
    checkpoint = (setup.plannedMacro events epoch).checkpoint ∧ 0 ≤ proof.microCheckpoint.microIndex ∧
    ∃ micro, (setup.plannedMacro events epoch).microValues[proof.microCheckpoint.microIndex.toNat]? = some micro ∧
      micro.checkpointValue = proof.microCheckpoint ∧ 0 ≤ proof.eventProof.leafIndex ∧
      micro.canonicalPayloads[proof.eventProof.leafIndex.toNat]? = some payload := by
  unfold verifyMacroCheckpointEvent at accepted
  rw [Bool.and_eq_true] at accepted
  obtain ⟨eventAccepted, microAccepted⟩ := accepted
  unfold verifyMicroCheckpointEvent at eventAccepted
  unfold verifyMacroCheckpointMicro at microAccepted
  split at eventAccepted
  · contradiction
  split at microAccepted
  · contradiction
  next checked =>
  simp only [not_or, ne_eq, not_not] at checked
  obtain ⟨-, -, -, numbered, digested, -⟩ := checked
  -- the digest fixes the record of the macro checkpoint, its root the record of the micro checkpoint
  have sameRecord : checkpoint = (setup.plannedMacro events epoch).checkpoint :=
    macroCheckpoint_eq_of_core (injective (digested.trans digests)) digests
  subst sameRecord
  obtain ⟨lower, -, -, leaf, -⟩ := verifyInclusion_sound injective microAccepted
  rw [numbered] at lower leaf
  rw [getElem?_map, Option.map_eq_some_iff] at leaf
  obtain ⟨micro, found, serialized⟩ := leaf
  have sameMicro := serializeMicroCheckpoint_inj serialized
  obtain ⟨-, rfl⟩ := microValues_plannedMacro found
  rw [← sameMicro] at eventAccepted
  obtain ⟨eventLower, -, -, eventLeaf, -⟩ := verifyInclusion_sound injective eventAccepted
  exact ⟨rfl, lower, _, found, sameMicro, eventLower, eventLeaf⟩

section
variable (injective : setup.hasher.CollisionFree)
include injective

theorem chainDigest_succ_inj (same : setup.chainDigest events (epoch + 1) = setup.chainDigest others (last + 1)) :
    epoch = last ∧ setup.chainDigest events epoch = setup.chainDigest others epoch ∧
    ∀ i < setup.perMacro, setup.windowPayloads events (setup.perMacro * epoch + i) =
      setup.windowPayloads others (setup.perMacro * epoch + i) := by
  have record : (setup.plannedMacro events epoch).checkpoint = (setup.plannedMacro others last).checkpoint :=
    macroCheckpoint_eq_of_core (injective same) same
  obtain rfl : epoch = last := Int.ofNat_inj.mp (congrArg MacroCheckpoint.epoch record)
  refine ⟨rfl, congrArg MacroCheckpoint.previousMacroDigest record, fun i less => ?_⟩
  have micros := root_injective injective (congrArg MacroCheckpoint.microRoot record)
  have micro := congrArg (·[i]?) micros
  simp only [epochMicros, map_map, getElem?_map, getElem?_range less, Option.map_some, Option.some.injEq] at micro
  exact root_injective injective (congrArg MicroCheckpoint.eventRoot (serializeMicroCheckpoint_inj micro))

theorem windowPayloads_eq_of_chainDigest (same : setup.chainDigest events n = setup.chainDigest others n) :
    ∀ k < setup.perMacro * n, setup.windowPayloads events k = setup.windowPayloads others k := by
  -- back along the chain: every digest fixes the one before it
  induction n with
  | zero => simp
  | succ n ih =>
    intro k less
    obtain ⟨-, before, payloads⟩ := chainDigest_succ_inj injective same
    by_cases earlier : k < setup.perMacro * n
    · exact ih before k earlier
    · have position := Nat.add_sub_cancel' (not_lt.mp earlier)
      rw [Nat.mul_succ] at less
      rw [← position]
      exact payloads _ (by omega)

end

end Setup

namespace LayeredCheckpointBuilder

section
variable [StrOrder]

/-- Proofs from an emitted macro checkpoint exist for exactly its payloads and are accepted; without collisions
nothing else is accepted under its digest. -/
theorem event_proofs_complete_and_sound (setup : Setup) (maxPendingEvents : ℤ) (builder : LayeredCheckpointBuilder)
    (opened : openBuilder setup.hasher setup.policy setup.scopeId setup.originMs setup.previousMacroDigest
      maxPendingEvents = .ok builder) (calls : List Call) (sealedMacro : SealedMacroCheckpoint)
    (emitted : sealedMacro ∈ (emittedIn (builder.run .unbounded calls).2).macroValues) :
    (∀ payload : Str,
      ((sealedMacro.eventProof payload).isSome ↔
        ∃ micro ∈ sealedMacro.microValues, payload ∈ micro.canonicalPayloads) ∧
      ∀ proof, sealedMacro.eventProof payload = some proof →
        verifyMacroCheckpointEvent setup.hasher sealedMacro.checkpoint payload proof = true) ∧
    (setup.hasher.CollisionFree →
      ∀ (checkpoint : MacroCheckpoint) (payload : Str) (proof : LayeredEventProof),
        checkpoint.digest = sealedMacro.checkpoint.digest →
        verifyMacroCheckpointEvent setup.hasher checkpoint payload proof = true →
        checkpoint = sealedMacro.checkpoint ∧ 0 ≤ proof.microCheckpoint.microIndex ∧
        ∃ micro, sealedMacro.microValues[proof.microCheckpoint.microIndex.toNat]? = some micro ∧
          micro.checkpointValue = proof.microCheckpoint ∧ 0 ≤ proof.eventProof.leafIndex ∧
          micro.canonicalPayloads[proof.eventProof.leafIndex.toNat]? = some payload) := by
  obtain ⟨n, reached⟩ := run_reached opened calls
  rw [reached.emitted] at emitted
  obtain ⟨epoch, -, rfl⟩ := mem_map.mp emitted
  refine ⟨fun payload => ⟨Setup.eventProof_plannedMacro_isSome, fun proof made => ?_⟩, ?_⟩
  · exact Setup.verify_eventProof_plannedMacro made
  · intro injective checkpoint payload proof digests accepted
    exact Setup.verifyMacroCheckpointEvent_sound injective digests accepted

end

open Shortlex in
theorem event_proofs_complete_and_sound_first_epoch :
    ∃ sealedMacro ∈ (emittedIn (sampleBuilder.run .unbounded sampleCalls).2).macroValues, ∃ proof,
      sealedMacro.eventProof "a" = some proof ∧
      verifyMacroCheckpointEvent .identity sealedMacro.checkpoint "a" proof = true ∧
      0 ≤ proof.eventProof.leafIndex := by
  have nonempty : ((emittedIn (sampleBuilder.run .unbounded sampleCalls).2).macroValues.head?.map fun sealedMacro =>
      sealedMacro.microValues.map (·.canonicalPayloads)) = some [[lit "a"], []] := by decide +kernel
  obtain ⟨sealedMacro, first, contents⟩ := Option.map_eq_some_iff.mp nonempty
  have emitted := mem_of_head? first
  obtain ⟨complete, sound⟩ := event_proofs_complete_and_sound sampleSetup 8 sampleBuilder sampleBuilder_opened
    sampleCalls sealedMacro emitted
  have held : ∃ micro ∈ sealedMacro.microValues, lit "a" ∈ micro.canonicalPayloads := by
    have listed : [lit "a"] ∈ sealedMacro.microValues.map (·.canonicalPayloads) := by
      rw [contents]
      exact mem_cons_self
    obtain ⟨micro, member, same⟩ := mem_map.mp listed
    exact ⟨micro, member, by rw [same]; exact mem_cons_self⟩
  obtain ⟨proof, made⟩ := Option.isSome_iff_exists.mp ((complete "a").1.mpr held)
  have accepted := (complete "a").2 proof made
  obtain ⟨-, -, _, -, -, position, -⟩ := sound Hasher.identity_collisionFree _ "a" proof rfl accepted
  exact ⟨sealedMacro, emitted, proof, made, accepted, position⟩

/-- A macro digest fixes the log behind it. If two runs of a builder emit macro checkpoints with one digest, these have
one number, and up to them both runs have emitted the same checkpoints, down to the payloads of every window. -/
theorem macro_digest_fixes_the_log [StrOrder] (setup : Setup) (maxPendingEvents : ℤ) (builder : LayeredCheckpointBuilder)
    (opened : openBuilder setup.hasher setup.policy setup.scopeId setup.originMs setup.previousMacroDigest
      maxPendingEvents = .ok builder) (injective : setup.hasher.CollisionFree) (calls otherCalls : List Call) (i j : ℕ)
    (sealedMacro otherMacro : SealedMacroCheckpoint)
    (emitted : (emittedIn (builder.run .unbounded calls).2).macroValues[i]? = some sealedMacro)
    (otherEmitted : (emittedIn (builder.run .unbounded otherCalls).2).macroValues[j]? = some otherMacro)
    (digests : sealedMacro.checkpoint.digest = otherMacro.checkpoint.digest) :
    i = j ∧ (emittedIn (builder.run .unbounded calls).2).macroValues.take (i + 1) =
      (emittedIn (builder.run .unbounded otherCalls).2).macroValues.take (i + 1) := by
  obtain ⟨n, reached⟩ := run_reached opened calls
  obtain ⟨m, otherReached⟩ := run_reached opened otherCalls
  rw [reached.emitted] at emitted ⊢
  rw [otherReached.emitted] at otherEmitted ⊢
  obtain ⟨inside, rfl⟩ := getElem?_map_range.mp emitted
  obtain ⟨otherInside, rfl⟩ := getElem?_map_range.mp otherEmitted
  obtain ⟨rfl, -⟩ := Setup.chainDigest_succ_inj injective digests
  have payloads := Setup.windowPayloads_eq_of_chainDigest (n := i + 1) injective digests
  refine ⟨rfl, ?_⟩
  unfold plannedEmission
  rw [← map_take, ← map_take, take_range, take_range, Nat.min_eq_left inside, Nat.min_eq_left otherInside]
  refine map_congr_left fun k member => Setup.plannedMacro_congr payloads ?_
  rwa [Nat.mul_div_cancel_left _ setup.perMacro_pos, ← mem_range]

open Shortlex in
theorem macro_digest_fixes_the_log_further_call :
    let emitted := fun calls => (emittedIn (sampleBuilder.run .unbounded calls).2).macroValues
    (emitted sampleCalls).take 1 = (emitted (sampleCalls ++ [.appendEvent 7 "c"])).take 1 := by
  intro emitted
  have digests : (emitted sampleCalls)[0]?.map (·.checkpoint.digest) =
      (emitted (sampleCalls ++ [.appendEvent 7 "c"]))[0]?.map (·.checkpoint.digest) := by decide +kernel
  cases first : (emitted sampleCalls)[0]? with
  | none => exact absurd first (by decide +kernel)
  | some sealedMacro =>
    rw [first] at digests
    obtain ⟨otherMacro, otherFirst, same⟩ := Option.map_eq_some_iff.mp digests.symm
    exact (macro_digest_fixes_the_log sampleSetup 8 sampleBuilder sampleBuilder_opened Hasher.identity_collisionFree
      _ _ 0 0 _ _ first otherFirst same.symm).2

end LayeredCheckpointBuilder

end ConvergeAudit.Layered
