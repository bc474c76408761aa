import ConvergeAudit.Layered.Windows

/-!
The appended events determine what every window seals. A builder follows that plan: it has emitted `n` windows of it
and keeps the events of the others.
-/

namespace ConvergeAudit.Layered
open Moon Bft Merkle Audit LayeredCheckpointBuilder LayeredCheckpointEmission
open List hiding count

/-- What `open` fixes for the whole run. -/
structure Setup where
  hasher : Hasher
  policy : VerifiedCheckpointPolicy
  scopeId : Str
  originMs : ℤ
  previousMacroDigest : Digest

namespace Setup
variable [StrOrder] (setup : Setup) (events : List PendingAuditEvent)

def perMacro : ℕ := microsPerMacro setup.policy

def start (n : ℕ) : ℤ := windowStart setup.policy setup.originMs n

def windowPayloads (n : ℕ) : List Str :=
  sortBy compare ((events.filter fun event =>
    setup.start n ≤ event.eventTimeMs ∧ event.eventTimeMs < setup.start (n + 1)).map (·.canonicalPayload))

def sealMicro (n : ℕ) (payloads : List Str) : SealedMicroCheckpoint :=
  let tree := MerkleTree.build setup.hasher payloads
  let unsigned : MicroCheckpoint :=
    { scopeId := setup.scopeId, macroEpoch := (n / setup.perMacro : ℕ), microIndex := (n % setup.perMacro : ℕ)
      startsAtMs := setup.start n, endsAtMs := setup.start (n + 1), eventCount := payloads.length
      eventRoot := tree.root, digest := ⟨Str.empty⟩ }
  ⟨{ unsigned with digest := microCheckpointDigest setup.hasher unsigned }, payloads, tree⟩

def plannedMicro (n : ℕ) : SealedMicroCheckpoint := setup.sealMicro n (setup.windowPayloads events n)

def sealEpoch (epoch : ℕ) (micros : List SealedMicroCheckpoint) (previous : Digest) : SealedMacroCheckpoint :=
  let tree := MerkleTree.build setup.hasher (micros.map fun micro => serializeMicroCheckpoint micro.checkpointValue)
  let interval := setup.policy.policy.macroCheckpointIntervalMs
  let unsigned : MacroCheckpoint :=
    { scopeId := setup.scopeId, epoch := epoch, startsAtMs := setup.originMs + epoch * interval
      endsAtMs := setup.originMs + (epoch + 1) * interval, microCheckpointCount := micros.length
      eventCount := micros.foldl (fun count micro => count + micro.checkpointValue.eventCount) 0
      previousMacroDigest := previous, microRoot := tree.root, digest := ⟨Str.empty⟩ }
  ⟨{ unsigned with digest := macroCheckpointDigest setup.hasher unsigned }, micros, tree⟩

def epochMicros (epoch count : ℕ) : List SealedMicroCheckpoint :=
  (List.range count).map fun i => setup.plannedMicro events (setup.perMacro * epoch + i)

def chainDigest : ℕ → Digest
  | 0 => setup.previousMacroDigest
  | epoch + 1 =>
    (setup.sealEpoch epoch (setup.epochMicros events epoch setup.perMacro) (chainDigest epoch)).checkpointValue.digest

def plannedMacro (epoch : ℕ) : SealedMacroCheckpoint :=
  setup.sealEpoch epoch (setup.epochMicros events epoch setup.perMacro) (setup.chainDigest events epoch)

variable {setup events}

omit [StrOrder] in
theorem perMacro_pos (setup : Setup) : 0 < setup.perMacro := (microsPerMacro_bounds setup.policy).1

omit [StrOrder] in
theorem start_strictMono : StrictMono setup.start := windowStart_strictMono setup.originMs

omit [StrOrder] in
theorem start_zero (setup : Setup) : setup.start 0 = setup.originMs := windowStart_zero setup.originMs

theorem length_epochMicros (epoch count : ℕ) : (setup.epochMicros events epoch count).length = count := by
  rw [epochMicros, length_map, length_range]

section
variable (same : ∀ k < n, setup.windowPayloads events k = setup.windowPayloads others k)
include same

theorem plannedMicro_congr (less : k < n) : setup.plannedMicro events k = setup.plannedMicro others k := by
  rw [plannedMicro, plannedMicro, same k less]

theorem epochMicros_congr (sealedAll : setup.perMacro * epoch + count ≤ n) :
    setup.epochMicros events epoch count = setup.epochMicros others epoch count := by
  apply map_congr_left
  intro i member
  have less := mem_range.mp member
  exact plannedMicro_congr same (by omega)

theorem chainDigest_congr (sealedAll : setup.perMacro * epoch ≤ n) :
    setup.chainDigest events epoch = setup.chainDigest others epoch := by
  induction epoch with
  | zero => rfl
  | succ epoch ih =>
    rw [Nat.mul_succ] at sealedAll
    rw [chainDigest, chainDigest, ih (by omega), epochMicros_congr same sealedAll]

theorem plannedMacro_congr (sealedAll : epoch < n / setup.perMacro) :
    setup.plannedMacro events epoch = setup.plannedMacro others epoch := by
  have whole : setup.perMacro * (epoch + 1) ≤ n :=
    (Nat.mul_le_mul_left _ sealedAll).trans (Nat.mul_div_le n setup.perMacro)
  rw [Nat.mul_succ] at whole
  rw [plannedMacro, plannedMacro, chainDigest_congr same (by omega), epochMicros_congr same whole]

end

theorem windowPayloads_append (late : setup.start n ≤ event.eventTimeMs) (less : k < n) :
    setup.windowPayloads (events ++ [event]) k = setup.windowPayloads events k := by
  have ends : setup.start (k + 1) ≤ setup.start n := start_strictMono.monotone less
  have outside : ¬event.eventTimeMs < setup.start (k + 1) := by omega
  simp [windowPayloads, filter_append, outside]

theorem windowPayloads_perm (perm : events.Perm others) :
    setup.windowPayloads events k = setup.windowPayloads others k :=
  sortBy_eq_of_perm ((perm.filter _).map _)

end Setup

def LayeredCheckpointEmission.append (first second : LayeredCheckpointEmission) : LayeredCheckpointEmission :=
  ⟨first.microValues ++ second.microValues, first.macroValues ++ second.macroValues⟩

variable {builder : LayeredCheckpointBuilder}

namespace LayeredCheckpointBuilder

def inWindow (startsAtMs endsAtMs : ℤ) (event : PendingAuditEvent) : Bool :=
  startsAtMs ≤ event.eventTimeMs ∧ event.eventTimeMs < endsAtMs

theorem foldl_takeEvent (events : List PendingAuditEvent) (payloads : List Str) (retained : List PendingAuditEvent)
    (index : Map Str Bool) :
    ∃ next : Map Str Bool,
      events.foldl (takeEvent startsAtMs endsAtMs) (payloads, retained, index) =
        (payloads ++ (events.filter (inWindow startsAtMs endsAtMs)).map (·.canonicalPayload),
          retained ++ events.filter (fun event => !inWindow startsAtMs endsAtMs event), next) ∧
      ∀ payload, next.contains payload = true ↔ index.contains payload = true ∧
        payload ∉ (events.filter (inWindow startsAtMs endsAtMs)).map (·.canonicalPayload) := by
  induction events generalizing payloads retained index with
  | nil => exact ⟨index, by simp, by simp⟩
  | cons event rest ih =>
    rw [foldl_cons]
    by_cases inside : inWindow startsAtMs endsAtMs event = true
    · have bounds : event.eventTimeMs ≥ startsAtMs ∧ event.eventTimeMs < endsAtMs := by simpa [inWindow] using inside
      obtain ⟨next, folded, kept⟩ := ih (payloads ++ [event.canonicalPayload]) retained
        (index.remove event.canonicalPayload)
      refine ⟨next, ?_, fun payload => ?_⟩
      · simp only [takeEvent, bounds, and_self, if_true, folded]
        simp [inside]
      · rw [kept payload, filter_cons_of_pos inside, map_cons, mem_cons, Map.contains, Map.get_remove]
        by_cases same : payload = event.canonicalPayload <;> simp [same, Map.contains]
    · have bounds : ¬(event.eventTimeMs ≥ startsAtMs ∧ event.eventTimeMs < endsAtMs) := by
        simpa [inWindow] using inside
      obtain ⟨next, folded, kept⟩ := ih payloads (retained ++ [event]) index
      refine ⟨next, ?_, fun payload => ?_⟩
      · simp only [takeEvent, bounds, if_false, folded]
        simp [inside]
      · rw [kept payload, filter_cons_of_neg inside]

theorem mem_map_filter_not {items : List α} (distinct : (items.map f).Nodup) :
    image ∈ items.map f ∧ image ∉ (items.filter taken).map f ↔
      image ∈ (items.filter fun item => !taken item).map f := by
  simp only [mem_map, mem_filter]
  constructor
  · rintro ⟨⟨item, member, rfl⟩, absent⟩
    refine ⟨item, ⟨member, ?_⟩, rfl⟩
    by_contra isTaken
    exact absent ⟨item, ⟨member, by simpa using isTaken⟩, rfl⟩
  · rintro ⟨item, ⟨member, notTaken⟩, rfl⟩
    refine ⟨⟨item, member, rfl⟩, ?_⟩
    rintro ⟨other, ⟨otherMember, isTaken⟩, same⟩
    rw [inj_on_of_nodup_map distinct otherMember member same] at isTaken
    simp [isTaken] at notTaken

theorem append_empty (emission : LayeredCheckpointEmission) : emission.append .empty = emission := by
  simp [append, LayeredCheckpointEmission.empty]

theorem appendEvent_cases (builder : LayeredCheckpointBuilder) (time : ℤ) (payload : Str) :
    (∃ result, result ≠ .auditEventAppended ∧ builder.appendEvent time payload = (builder, result)) ∨
    builder.watermarkMs ≤ time ∧ builder.pendingPayloads.contains payload ≠ true ∧
      builder.appendEvent time payload =
        ({ builder with
            pendingEvents := builder.pendingEvents ++ [⟨time, payload⟩]
            pendingPayloads := builder.pendingPayloads.set payload true }, .auditEventAppended) := by
  unfold appendEvent
  cases decision : classifyAuditEventTime builder.originMs builder.watermarkMs time with
  | auditEventTimeAccepted =>
    dsimp only
    iterate 3
      split
      · exact Or.inl ⟨_, by simp, rfl⟩
    rename_i fresh _
    exact Or.inr ⟨(classifyAuditEventTime_accepted.mp decision).2, fresh, rfl⟩
  | _ => exact Or.inl ⟨_, by simp, rfl⟩

variable [StrOrder]

/-- The builder has sealed the first `n` windows of the plan of `events`. -/
structure Follows (setup : Setup) (events : List PendingAuditEvent) (n : ℕ) (builder : LayeredCheckpointBuilder) :
    Prop where
  sameHasher : builder.hasher = setup.hasher
  samePolicy : builder.policy = setup.policy
  sameScope : builder.scopeId = setup.scopeId
  sameOrigin : builder.originMs = setup.originMs
  cursor : builder.AtWindow n
  pending : builder.pendingEvents = events.filter fun event => setup.start n ≤ event.eventTimeMs
  indexed : ∀ payload, builder.pendingPayloads.contains payload = true ↔
    payload ∈ builder.pendingEvents.map (·.canonicalPayload)
  distinct : (builder.pendingEvents.map (·.canonicalPayload)).Nodup
  current : builder.currentMacroMicros = setup.epochMicros events (n / setup.perMacro) (n % setup.perMacro)
  chain : builder.previousMacroDigest = setup.chainDigest events (n / setup.perMacro)

/-- What the first `n` windows of the plan emit. -/
def plannedEmission (setup : Setup) (events : List PendingAuditEvent) (n : ℕ) : LayeredCheckpointEmission :=
  ⟨(List.range n).map (setup.plannedMicro events), (List.range (n / setup.perMacro)).map (setup.plannedMacro events)⟩

theorem plannedEmission_congr (same : ∀ k < n, setup.windowPayloads events k = setup.windowPayloads others k) :
    plannedEmission setup events n = plannedEmission setup others n := by
  unfold plannedEmission
  congr 1
  · exact map_congr_left fun k member => Setup.plannedMicro_congr same (mem_range.mp member)
  · exact map_congr_left fun k member => Setup.plannedMacro_congr same (mem_range.mp member)

section
variable (follows : builder.Follows setup events n)
include follows

theorem Follows.starts : builder.windowStartMs = setup.start n := by
  rw [follows.cursor.starts, follows.samePolicy, follows.sameOrigin]
  rfl

theorem Follows.boundary : builder.nextBoundaryMs .unbounded = setup.start (n + 1) := by
  rw [follows.cursor.nextBoundaryMs, follows.samePolicy, follows.sameOrigin]
  rfl

theorem Follows.closes_iff :
    setup.start (n + 1) = builder.macroEndMs .unbounded ↔ n % setup.perMacro + 1 = setup.perMacro := by
  have closes := follows.cursor.closes_iff
  rwa [follows.samePolicy, follows.sameOrigin] at closes

theorem Follows.longer : builder.currentMacroMicros ++ [setup.plannedMicro events n] =
    setup.epochMicros events (n / setup.perMacro) (n % setup.perMacro + 1) := by
  rw [follows.current, Setup.epochMicros, Setup.epochMicros, range_succ, map_append, map_singleton,
    Nat.div_add_mod n setup.perMacro]

theorem Follows.sealNextMicro :
    ∃ index : Map Str Bool,
      builder.sealNextMicro (setup.start (n + 1)) =
        ({ builder with
            pendingEvents := events.filter fun event => setup.start (n + 1) ≤ event.eventTimeMs
            pendingPayloads := index }, setup.plannedMicro events n) ∧
      (∀ payload, index.contains payload = true ↔
        payload ∈ (events.filter fun event => setup.start (n + 1) ≤ event.eventTimeMs).map (·.canonicalPayload)) ∧
      ((events.filter fun event => setup.start (n + 1) ≤ event.eventTimeMs).map (·.canonicalPayload)).Nodup := by
  have later : setup.start n < setup.start (n + 1) := Setup.start_strictMono (Nat.lt_succ_self n)
  obtain ⟨taken, kept⟩ : builder.pendingEvents.filter (inWindow (setup.start n) (setup.start (n + 1))) =
        events.filter (fun event => setup.start n ≤ event.eventTimeMs ∧ event.eventTimeMs < setup.start (n + 1)) ∧
      builder.pendingEvents.filter (fun event => !inWindow (setup.start n) (setup.start (n + 1)) event) =
        events.filter fun event => setup.start (n + 1) ≤ event.eventTimeMs := by
    rw [follows.pending, filter_filter, filter_filter]
    constructor
    all_goals
      apply filter_congr
      intro event _
      rw [Bool.eq_iff_iff]
      simp [inWindow]
      omega
  obtain ⟨index, folded, contained⟩ := foldl_takeEvent builder.pendingEvents
    [] [] builder.pendingPayloads
  rw [taken, kept, nil_append, nil_append] at folded
  refine ⟨index, ?_, ?_, ?_⟩
  · unfold LayeredCheckpointBuilder.sealNextMicro takeWindowPayloads
    rw [follows.starts, folded]
    simp only [follows.sameHasher, follows.sameScope, follows.cursor.epoch, follows.cursor.index, follows.samePolicy]
    rfl
  · intro payload
    rw [contained payload, follows.indexed payload, ← kept]
    exact mem_map_filter_not follows.distinct
  · rw [← kept]
    exact follows.distinct.sublist (filter_sublist.map _)

end

theorem Follows.sealWindow (follows : builder.Follows setup events n) {earlier emitted : LayeredCheckpointEmission}
    (planned : earlier.append emitted = plannedEmission setup events n) :
    (builder.sealWindow .unbounded emitted).1.Follows setup events (n + 1) ∧
    earlier.append (builder.sealWindow .unbounded emitted).2 = plannedEmission setup events (n + 1) := by
  obtain ⟨index, sealedMicro, indexed, distinct⟩ := follows.sealNextMicro
  have cursor := follows.cursor.nextWindow.1
  obtain ⟨microsBefore, macrosBefore⟩ := LayeredCheckpointEmission.mk.inj planned
  have micros : earlier.microValues ++ (emitted.microValues ++ [setup.plannedMicro events n]) =
      (List.range (n + 1)).map (setup.plannedMicro events) := by
    rw [range_succ, map_append, ← append_assoc, microsBefore, map_singleton]
  unfold LayeredCheckpointBuilder.nextWindow at cursor
  unfold LayeredCheckpointBuilder.sealWindow
  rw [follows.boundary] at cursor ⊢
  dsimp only at cursor ⊢
  rw [sealedMicro]
  by_cases closing : n % setup.perMacro + 1 = setup.perMacro
  · -- the window ends its epoch: the macro checkpoint is sealed and the chain moves on
    obtain ⟨nextEpoch, nextIndex⟩ :
        (n + 1) / setup.perMacro = n / setup.perMacro + 1 ∧ (n + 1) % setup.perMacro = 0 := succ_closing closing
    rw [if_pos (follows.closes_iff.mpr closing)] at cursor ⊢
    have sealedMacro : LayeredCheckpointBuilder.sealMacro .unbounded
        { builder with
          windowStartMs := setup.start (n + 1)
          pendingEvents := events.filter fun event => setup.start (n + 1) ≤ event.eventTimeMs
          pendingPayloads := index
          currentMacroMicros := builder.currentMacroMicros ++ [setup.plannedMicro events n] }
        (setup.start (n + 1)) = setup.plannedMacro events (n / setup.perMacro) := by
      have ends : setup.start (n + 1) = _ := (windowStart_succ_closing setup.originMs closing).1
      simp only [follows.longer, closing, ends, follows.sameHasher, follows.sameScope, follows.sameOrigin,
        follows.samePolicy, follows.chain, follows.cursor.epoch]
      rfl
    simp only [sealedMacro]
    refine ⟨⟨follows.sameHasher, follows.samePolicy, follows.sameScope, follows.sameOrigin,
      ⟨cursor.epoch, cursor.index, cursor.starts⟩, rfl, indexed, distinct, ?_, ?_⟩, ?_⟩
    · rw [nextIndex]
      rfl
    · rw [nextEpoch]
      rfl
    · simp only [append, plannedEmission, micros, nextEpoch,
        range_succ (n := n / setup.perMacro), map_append, ← append_assoc, macrosBefore, map_singleton]
  · obtain ⟨sameEpoch, nextIndex⟩ :
        (n + 1) / setup.perMacro = n / setup.perMacro ∧ (n + 1) % setup.perMacro = n % setup.perMacro + 1 :=
      succ_within closing
    rw [if_neg fun ends => closing (follows.closes_iff.mp ends)] at cursor ⊢
    refine ⟨⟨follows.sameHasher, follows.samePolicy, follows.sameScope, follows.sameOrigin,
      ⟨cursor.epoch, cursor.index, cursor.starts⟩, rfl, indexed, distinct, ?_, ?_⟩, ?_⟩
    · rw [follows.longer, sameEpoch, nextIndex]
    · rw [sameEpoch]
      exact follows.chain
    · simp only [append, plannedEmission, micros, sameEpoch, macrosBefore]

theorem Follows.sealWindows {earlier : LayeredCheckpointEmission} (due : ℕ) (follows : builder.Follows setup events n)
    (planned : earlier.append emitted = plannedEmission setup events n) :
    (sealWindows .unbounded due builder emitted).1.Follows setup events (n + due) ∧
    earlier.append (sealWindows .unbounded due builder emitted).2 =
      plannedEmission setup events (n + due) := by
  induction due generalizing n builder emitted with
  | zero => exact ⟨follows, planned⟩
  | succ due ih =>
    obtain ⟨next, longer⟩ := follows.sealWindow planned
    rw [show n + (due + 1) = n + 1 + due by omega]
    exact ih next longer

inductive Call where
  | appendEvent (eventTimeMs : ℤ) (canonicalPayload : Str)
  | advanceWatermark (targetWatermarkMs maxWindows : ℤ)

inductive Answer where
  | appended (eventTimeMs : ℤ) (canonicalPayload : Str) (result : AppendAuditEventResult)
  | advanced (targetWatermarkMs : ℤ) (result : AdvanceWatermarkResult)

def Answer.event : Answer → Option PendingAuditEvent
  | .appended eventTimeMs canonicalPayload .auditEventAppended => some ⟨eventTimeMs, canonicalPayload⟩
  | _ => none

def Answer.emission : Answer → LayeredCheckpointEmission
  | .advanced _ (.watermarkAdvanced emission) => emission
  | _ => .empty

def appendedIn (answers : List Answer) : List PendingAuditEvent := answers.filterMap Answer.event

def emittedIn (answers : List Answer) : LayeredCheckpointEmission :=
  ⟨answers.flatMap (·.emission.microValues), answers.flatMap (·.emission.macroValues)⟩

def apply (arith : Arithmetic) (builder : LayeredCheckpointBuilder) : Call → LayeredCheckpointBuilder × Answer
  | .appendEvent eventTimeMs canonicalPayload =>
    let (next, result) := builder.appendEvent eventTimeMs canonicalPayload
    (next, .appended eventTimeMs canonicalPayload result)
  | .advanceWatermark targetWatermarkMs maxWindows =>
    let (next, result) := builder.advanceWatermark arith targetWatermarkMs maxWindows
    (next, .advanced targetWatermarkMs result)

def run (arith : Arithmetic) (builder : LayeredCheckpointBuilder) : List Call → LayeredCheckpointBuilder × List Answer
  | [] => (builder, [])
  | call :: calls =>
    let (next, answer) := builder.apply arith call
    let (final, answers) := run arith next calls
    (final, answer :: answers)

theorem run_invariant {P : LayeredCheckpointBuilder → List Answer → Prop}
    (step : ∀ builder answers call, P builder answers →
      P (builder.apply arith call).1 (answers ++ [(builder.apply arith call).2])) (holds : P builder answers)
    (calls : List Call) :
    P (builder.run arith calls).1 (answers ++ (builder.run arith calls).2) := by
  induction calls generalizing builder answers with
  | nil => rwa [run, append_nil]
  | cons call calls ih =>
    have later := ih (step builder answers call holds)
    rwa [append_assoc] at later

omit [StrOrder] in
theorem emittedIn_snoc : emittedIn (answers ++ [answer]) = (emittedIn answers).append answer.emission := by
  simp [emittedIn, append]

theorem advanceWatermark_cases (arith : Arithmetic) (builder : LayeredCheckpointBuilder) (target maxWindows : ℤ) :
    (∃ error, builder.advanceWatermark arith target maxWindows = (builder, .watermarkRefused error)) ∨
    builder.watermarkMs ≤ target ∧ 0 ≤ maxWindows ∧ builder.dueWindowCount arith target maxWindows ≤ maxWindows ∧
      builder.advanceWatermark arith target maxWindows =
        ({ (sealWindows arith (builder.dueWindowCount arith target maxWindows).toNat builder
              .empty).1 with watermarkMs := target },
          .watermarkAdvanced (sealWindows arith
            (builder.dueWindowCount arith target maxWindows).toNat builder .empty).2) := by
  unfold advanceWatermark
  dsimp only
  iterate 4
    split
    · exact Or.inl ⟨_, rfl⟩
  exact Or.inr ⟨by omega, by omega, by omega, rfl⟩

/-- A state after the given answers: it has sealed the windows that end by the watermark. -/
structure Reached (setup : Setup) (n : ℕ) (builder : LayeredCheckpointBuilder) (answers : List Answer) : Prop where
  follows : builder.Follows setup (appendedIn answers) n
  emitted : emittedIn answers = plannedEmission setup (appendedIn answers) n
  sealedBy : setup.start n ≤ builder.watermarkMs
  openAt : builder.watermarkMs < setup.start (n + 1)
  admitted : ∀ event ∈ appendedIn answers, setup.originMs ≤ event.eventTimeMs
  once : (appendedIn answers).Nodup

section
variable (reached : Reached setup n builder answers)
include reached

theorem Reached.planned : (emittedIn answers).append .empty = plannedEmission setup (appendedIn answers) n := by
  rw [append_empty, reached.emitted]

theorem Reached.idle (noEvent : answer.event = none)
    (noEmission : answer.emission = .empty) : Reached setup n builder (answers ++ [answer]) := by
  have sameEvents : appendedIn (answers ++ [answer]) = appendedIn answers := by
    simp [appendedIn, filterMap_append, noEvent]
  have sameEmission : emittedIn (answers ++ [answer]) = emittedIn answers := by
    rw [emittedIn_snoc, noEmission, append_empty]
  exact ⟨sameEvents ▸ reached.follows, by rw [sameEvents, sameEmission, reached.emitted], reached.sealedBy,
    reached.openAt, sameEvents ▸ reached.admitted, sameEvents ▸ reached.once⟩

theorem Reached.append (onTime : builder.watermarkMs ≤ time)
    (fresh : builder.pendingPayloads.contains payload ≠ true) :
    Reached setup n
      { builder with
        pendingEvents := builder.pendingEvents ++ [⟨time, payload⟩]
        pendingPayloads := builder.pendingPayloads.set payload true }
      (answers ++ [.appended time payload .auditEventAppended]) := by
  obtain ⟨follows, emitted, sealedBy, openAt, admitted, once⟩ := reached
  have events : appendedIn (answers ++ [.appended time payload .auditEventAppended]) =
      appendedIn answers ++ [⟨time, payload⟩] := by
    simp [appendedIn, filterMap_append, Answer.event]
  have noEmission : emittedIn (answers ++ [.appended time payload .auditEventAppended]) = emittedIn answers := by
    rw [emittedIn_snoc]
    exact append_empty _
  have late : setup.start n ≤ time := by omega
  have absent : payload ∉ builder.pendingEvents.map (·.canonicalPayload) :=
    fun member => fresh ((follows.indexed payload).mpr member)
  have same : ∀ k < n, setup.windowPayloads (appendedIn answers) k =
      setup.windowPayloads (appendedIn answers ++ [⟨time, payload⟩]) k :=
    fun k less => (Setup.windowPayloads_append late less).symm
  have position := Nat.div_add_mod n setup.perMacro
  refine ⟨?_, ?_, sealedBy, openAt, ?_, ?_⟩
  · rw [events]
    refine ⟨follows.sameHasher, follows.samePolicy, follows.sameScope, follows.sameOrigin,
      ⟨follows.cursor.epoch, follows.cursor.index, follows.cursor.starts⟩, ?_, ?_, ?_, ?_, ?_⟩
    · simp [filter_append, follows.pending, late]
    · intro other
      rw [Map.contains_set, Bool.or_eq_true, follows.indexed other, map_append, mem_append]
      simp [or_comm]
    · rw [map_append, map_singleton]
      exact Lib.nodup_concat follows.distinct absent
    · rw [← Setup.epochMicros_congr same (by omega)]
      exact follows.current
    · rw [← Setup.chainDigest_congr same (by omega)]
      exact follows.chain
  · rw [noEmission, events, emitted, plannedEmission_congr same]
  · rw [events]
    refine Lib.forall_mem_concat admitted ?_
    have origin : setup.start 0 ≤ setup.start n := Setup.start_strictMono.monotone (Nat.zero_le n)
    rw [Setup.start_zero] at origin
    exact origin.trans late
  · rw [events]
    refine Lib.nodup_concat once fun member => ?_
    -- it would still be pending, and its payload with it
    have pending : ⟨time, payload⟩ ∈ builder.pendingEvents := by
      rw [follows.pending]
      exact mem_filter.mpr ⟨member, by simpa using late⟩
    exact absent (mem_map.mpr ⟨_, pending, rfl⟩)

theorem Reached.advance (forward : builder.watermarkMs ≤ target)
    (ended : due = 0 ∨ setup.start (n + due) ≤ target) (rest : target < setup.start (n + due + 1)) :
    Reached setup (n + due)
      { (sealWindows .unbounded due builder .empty).1 with watermarkMs := target }
      (answers ++ [.advanced target
        (.watermarkAdvanced (sealWindows .unbounded due builder .empty).2)]) := by
  obtain ⟨next, longer⟩ := reached.follows.sealWindows due reached.planned
  obtain ⟨follows, emitted, sealedBy, openAt, admitted, once⟩ := reached
  have events (emission : LayeredCheckpointEmission) :
      appendedIn (answers ++ [.advanced target (.watermarkAdvanced emission)]) = appendedIn answers := by
    simp [appendedIn, filterMap_append, Answer.event]
  refine ⟨?_, ?_, ?_, rest, ?_, ?_⟩
  · rw [events]
    exact { next with cursor := ⟨next.cursor.epoch, next.cursor.index, next.cursor.starts⟩ }
  · rw [events, emittedIn_snoc]
    exact longer
  · rcases ended with rfl | ended
    · exact sealedBy.trans forward
    · exact ended
  · rw [events]
    exact admitted
  · rw [events]
    exact once

theorem Reached.apply (call : Call) :
    ∃ m, Reached setup m (builder.apply .unbounded call).1 (answers ++ [(builder.apply .unbounded call).2]) := by
  unfold LayeredCheckpointBuilder.apply
  cases call with
  | appendEvent time payload =>
    dsimp only
    rcases builder.appendEvent_cases time payload with ⟨result, notAppended, answered⟩ | ⟨onTime, fresh, answered⟩
    · rw [answered]
      refine ⟨n, reached.idle ?_ rfl⟩
      cases result with
      | auditEventAppended => contradiction
      | auditEventDuplicate => rfl
      | auditEventRefused error => rfl
    · rw [answered]
      exact ⟨n, reached.append onTime fresh⟩
  | advanceWatermark target maxWindows =>
    dsimp only
    rcases builder.advanceWatermark_cases .unbounded target maxWindows with
      ⟨error, answered⟩ | ⟨forward, budget, within, answered⟩
    · rw [answered]
      exact ⟨n, reached.idle rfl rfl⟩
    · obtain ⟨due, counted, ended, rest⟩ := reached.follows.cursor.dueWindowCount target budget
      rw [reached.follows.samePolicy, reached.follows.sameOrigin] at ended rest
      rw [counted] at within answered
      rw [answered]
      exact ⟨n + due, reached.advance forward ended (rest within)⟩

end

variable {setup : Setup} {maxPendingEvents : ℤ}
  (opened : openBuilder setup.hasher setup.policy setup.scopeId setup.originMs setup.previousMacroDigest
    maxPendingEvents = .ok builder)
include opened

theorem reached_open : Reached setup 0 builder [] := by
  unfold openBuilder at opened
  split at opened
  · contradiction
  split at opened
  · contradiction
  cases opened
  refine ⟨⟨rfl, rfl, rfl, rfl, ⟨by simp, by simp, (windowStart_zero _).symm⟩, rfl, by simp [Map.contains], by simp, ?_, ?_⟩,
    ?_, ?_, ?_, by simp [appendedIn], by simp [appendedIn]⟩
  · simp [Setup.epochMicros]
  · simp [Setup.chainDigest]
  · simp [emittedIn, plannedEmission]
  · exact setup.start_zero.le
  · have first : setup.start 0 < setup.start 1 := Setup.start_strictMono Nat.zero_lt_one
    rwa [Setup.start_zero] at first

theorem run_reached (calls : List Call) :
    ∃ n, Reached setup n (builder.run .unbounded calls).1 (builder.run .unbounded calls).2 := by
  have everywhere := run_invariant (P := fun builder answers => ∃ n, Reached setup n builder answers)
    (fun builder answers call => fun ⟨_, reached⟩ => reached.apply call) ⟨0, reached_open opened⟩ calls
  rwa [nil_append] at everywhere

end LayeredCheckpointBuilder

end ConvergeAudit.Layered
