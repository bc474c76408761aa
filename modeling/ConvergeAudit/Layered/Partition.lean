import ConvergeAudit.Layered.Runs

/-!
The emitted windows cover the time behind the cursor without gap or overlap, and what they hold depends on the
appended events and the watermark alone.
-/

namespace ConvergeAudit.Layered
open Moon Bft Merkle Audit Lib List Setup

/-- The windows cover `[first, last)` one after the other. -/
def Covers (first last : ℤ) : List MicroCheckpoint → Prop
  | [] => first = last
  | micro :: rest => micro.startsAtMs = first ∧ first < micro.endsAtMs ∧ Covers micro.endsAtMs last rest

def MicroCheckpoint.Spans (micro : MicroCheckpoint) (moment : ℤ) : Prop :=
  micro.startsAtMs ≤ moment ∧ moment < micro.endsAtMs

theorem getElem?_map_range : ((List.range n).map f)[k]? = some item ↔ k < n ∧ f k = item := by
  by_cases less : k < n <;> simp [less]

namespace Setup
variable [StrOrder] {setup : Setup}

theorem covers_planned (setup : Setup) (events : List PendingAuditEvent) (first count : ℕ) :
    Covers (setup.start first) (setup.start (first + count))
      ((List.range count).map fun i => (setup.plannedMicro events (first + i)).checkpointValue) := by
  induction count generalizing first with
  | zero => rfl
  | succ count ih =>
    rw [range_succ_eq_map, map_cons, map_map]
    refine ⟨rfl, start_strictMono (Nat.lt_succ_self first), ?_⟩
    have rest := ih (first + 1)
    rw [show first + 1 + count = first + (count + 1) by omega] at rest
    refine (map_congr_left fun i _ => ?_) ▸ rest
    rw [show first + 1 + i = first + (i + 1) by omega]
    rfl

omit [StrOrder] in
theorem map_range_mul :
    (List.range (size * epochs)).map f =
      (List.range epochs).flatMap fun epoch => (List.range size).map fun i => f (size * epoch + i) := by
  induction epochs with
  | zero => simp
  | succ epochs ih =>
    rw [Nat.mul_succ, range_add, map_append, ih, range_succ, flatMap_append, map_map]
    simp [Function.comp_def]

theorem plannedMicros_eq (n : ℕ) :
    (List.range n).map (setup.plannedMicro events) =
      ((List.range (n / setup.perMacro)).map (setup.plannedMacro events)).flatMap (·.microValues) ++
        setup.epochMicros events (n / setup.perMacro) (n % setup.perMacro) := by
  have position := Nat.div_add_mod n setup.perMacro
  conv_lhs => rw [← position, range_add, map_append, map_range_mul, map_map]
  rw [flatMap_map]
  rfl

omit [StrOrder] in
theorem start_mul :
    setup.start (setup.perMacro * epoch) =
      setup.originMs + epoch * setup.policy.policy.macroCheckpointIntervalMs := by
  have whole : setup.perMacro * epoch / microsPerMacro setup.policy = epoch :=
    Nat.mul_div_cancel_left epoch setup.perMacro_pos
  have none : setup.perMacro * epoch % microsPerMacro setup.policy = 0 := Nat.mul_mod_right _ _
  rw [start, windowStart, whole, none]
  simp

theorem covers_epoch (epoch : ℕ) :
    Covers (setup.plannedMacro events epoch).checkpointValue.startsAtMs
      (setup.plannedMacro events epoch).checkpointValue.endsAtMs
      ((setup.plannedMacro events epoch).microValues.map (·.checkpointValue)) := by
  have covered := covers_planned setup events (setup.perMacro * epoch) setup.perMacro
  rw [← Nat.mul_succ, start_mul, start_mul, Nat.succ_eq_add_one, Int.natCast_succ] at covered
  change Covers _ _ ((setup.epochMicros events epoch setup.perMacro).map _)
  rw [epochMicros, map_map]
  exact covered

omit [StrOrder] in
theorem perMacro_eq :
    (setup.perMacro : ℤ) = (setup.policy.policy.macroCheckpointIntervalMs +
      setup.policy.policy.microCheckpointIntervalMs - 1) / setup.policy.policy.microCheckpointIntervalMs := by
  have positive := setup.perMacro_pos
  unfold perMacro microsPerMacro at *
  omega

theorem index_epochMicros (inside : i < setup.perMacro) :
    (setup.plannedMicro events (setup.perMacro * epoch + i)).checkpointValue.microIndex = i := by
  change (((setup.perMacro * epoch + i) % setup.perMacro : ℕ) : ℤ) = i
  rw [Nat.mul_add_mod, Nat.mod_eq_of_lt inside]

theorem spans_lt_start (less : k < n) (spans : (setup.plannedMicro events k).checkpointValue.Spans moment) :
    moment < setup.start n :=
  calc moment < setup.start (k + 1) := spans.2
    _ ≤ setup.start n := start_strictMono.monotone less

end Setup

namespace LayeredCheckpointBuilder

section
variable [StrOrder]

/-- Nothing is lost and nothing is sealed twice, whatever the calls. -/
theorem run_seals_each_event_once (setup : Setup) (maxPendingEvents : ℤ) (builder : LayeredCheckpointBuilder)
    (opened : openBuilder setup.hasher setup.policy setup.scopeId setup.originMs setup.previousMacroDigest
      maxPendingEvents = .ok builder) (calls : List Call) :
    let final := (builder.run .unbounded calls).1
    let answers := (builder.run .unbounded calls).2
    let micros := (emittedIn answers).microValues
    let macros := (emittedIn answers).macroValues
    let interval := setup.policy.policy.macroCheckpointIntervalMs
    let microInterval := setup.policy.policy.microCheckpointIntervalMs
    Covers setup.originMs final.windowStartMs (micros.map (·.checkpointValue)) ∧
    (∀ (epoch : ℕ) (sealedMacro : SealedMacroCheckpoint), macros[epoch]? = some sealedMacro →
      sealedMacro.checkpointValue.epoch = epoch ∧
      sealedMacro.checkpointValue.startsAtMs = setup.originMs + epoch * interval ∧
      sealedMacro.checkpointValue.endsAtMs = setup.originMs + (epoch + 1) * interval ∧
      Covers sealedMacro.checkpointValue.startsAtMs sealedMacro.checkpointValue.endsAtMs
        (sealedMacro.microValues.map (·.checkpointValue)) ∧
      sealedMacro.checkpointValue.microCheckpointCount = sealedMacro.microValues.length ∧
      (sealedMacro.microValues.length : ℤ) = (interval + microInterval - 1) / microInterval ∧
      (∀ (i : ℕ) micro, sealedMacro.microValues[i]? = some micro → micro.checkpointValue.microIndex = i) ∧
      (epoch = 0 → sealedMacro.checkpointValue.previousMacroDigest = setup.previousMacroDigest) ∧
      ∀ before, macros[epoch - 1]? = some before → epoch ≠ 0 →
        sealedMacro.checkpointValue.previousMacroDigest = before.checkpointValue.digest) ∧
    micros = macros.flatMap (·.microValues) ++ final.currentMacroMicros ∧
    (appendedIn answers).Nodup ∧
    final.pendingEvents = (appendedIn answers).filter (final.windowStartMs ≤ ·.eventTimeMs) ∧
    (∀ micro ∈ micros, micro.canonicalPayloads.Perm (((appendedIn answers).filter fun event =>
      micro.checkpointValue.startsAtMs ≤ event.eventTimeMs ∧
        event.eventTimeMs < micro.checkpointValue.endsAtMs).map (·.canonicalPayload))) ∧
    ∀ event ∈ appendedIn answers,
      (final.windowStartMs ≤ event.eventTimeMs ∧ event ∈ final.pendingEvents ∧
        ∀ micro ∈ micros, ¬micro.checkpointValue.Spans event.eventTimeMs) ∨
      (event ∉ final.pendingEvents ∧ ∃ (k : ℕ) (micro : SealedMicroCheckpoint), micros[k]? = some micro ∧
        micro.checkpointValue.Spans event.eventTimeMs ∧ event.canonicalPayload ∈ micro.canonicalPayloads ∧
        ∀ (j : ℕ) other, micros[j]? = some other → other.checkpointValue.Spans event.eventTimeMs → j = k) := by
  obtain ⟨n, reached⟩ := run_reached opened calls
  intro final answers micros macros interval microInterval
  have starts : final.windowStartMs = setup.start n := reached.follows.starts
  have microsEq : micros = (List.range n).map (setup.plannedMicro (appendedIn answers)) :=
    congrArg LayeredCheckpointEmission.microValues reached.emitted
  have macrosEq : macros = (List.range (n / setup.perMacro)).map (setup.plannedMacro (appendedIn answers)) :=
    congrArg LayeredCheckpointEmission.macroValues reached.emitted
  have pending : final.pendingEvents = (appendedIn answers).filter (final.windowStartMs ≤ ·.eventTimeMs) := by
    rw [starts]
    exact reached.follows.pending
  have microAt {k : ℕ} {micro : SealedMicroCheckpoint} (found : micros[k]? = some micro) :
      k < n ∧ setup.plannedMicro (appendedIn answers) k = micro := by
    rw [microsEq] at found
    exact getElem?_map_range.mp found
  refine ⟨?_, ?_, ?_, reached.once, pending, ?_, ?_⟩
  · have covered := covers_planned setup (appendedIn answers) 0 n
    rw [start_zero, Nat.zero_add] at covered
    rw [starts, microsEq, map_map]
    simp only [Nat.zero_add] at covered
    exact covered
  · intro epoch sealedMacro found
    rw [macrosEq] at found
    obtain ⟨finished, rfl⟩ := getElem?_map_range.mp found
    refine ⟨rfl, rfl, rfl, covers_epoch epoch, rfl, ?_, ?_, ?_, ?_⟩
    · exact (congrArg Nat.cast (length_epochMicros epoch _)).trans perMacro_eq
    · intro i micro numbered
      obtain ⟨inside, rfl⟩ := getElem?_map_range.mp numbered
      exact index_epochMicros inside
    · rintro rfl
      rfl
    · intro before foundBefore later
      rw [macrosEq] at foundBefore
      obtain ⟨-, rfl⟩ := getElem?_map_range.mp foundBefore
      obtain ⟨previous, rfl⟩ := Nat.exists_eq_succ_of_ne_zero later
      rfl
  · rw [microsEq, macrosEq, plannedMicros_eq, reached.follows.current]
  · intro micro member
    rw [microsEq] at member
    obtain ⟨k, -, rfl⟩ := mem_map.mp member
    exact sortBy_perm _ _
  · intro event member
    by_cases waiting : final.windowStartMs ≤ event.eventTimeMs
    · refine Or.inl ⟨waiting, ?_, ?_⟩
      · rw [pending]
        exact mem_filter.mpr ⟨member, by simpa using waiting⟩
      · intro micro emitted spans
        obtain ⟨k, position⟩ := getElem?_of_mem emitted
        obtain ⟨less, rfl⟩ := microAt position
        have before := spans_lt_start less spans
        omega
    · refine Or.inr ⟨?_, ?_⟩
      · rw [pending]
        intro kept
        have late := (mem_filter.mp kept).2
        exact waiting (by simpa using late)
      · have origin := reached.admitted event member
        rw [← setup.start_zero] at origin
        obtain ⟨k, less, inside⟩ := Tiling.exists_window n origin (by omega)
        refine ⟨k, setup.plannedMicro (appendedIn answers) k, ?_, inside, ?_, ?_⟩
        · rw [microsEq]
          exact getElem?_map_range.mpr ⟨less, rfl⟩
        · refine mem_sortBy.mpr (mem_map.mpr ⟨event, mem_filter.mpr ⟨member, ?_⟩, rfl⟩)
          simpa using inside
        · intro j other position spans
          obtain ⟨-, rfl⟩ := microAt position
          exact Tiling.window_unique start_strictMono spans inside

end

section
open Shortlex

def samplePolicy : VerifiedCheckpointPolicy := ⟨⟨1, 2, 3, 3, 3, 3⟩, by decide⟩

def sampleSetup : Setup := ⟨.identity, samplePolicy, "scope", 0, ⟨"genesis"⟩⟩

def sampleBuilder : LayeredCheckpointBuilder :=
  { hasher := .identity, policy := samplePolicy, scopeId := "scope", originMs := 0, maxPendingEvents := 8
    watermarkMs := 0, macroEpoch := 0, microIndex := 0, windowStartMs := 0, previousMacroDigest := ⟨"genesis"⟩
    pendingEvents := [], pendingPayloads := Map.empty, currentMacroMicros := [] }

theorem sampleBuilder_opened : openBuilder sampleSetup.hasher sampleSetup.policy sampleSetup.scopeId
    sampleSetup.originMs sampleSetup.previousMacroDigest 8 = .ok sampleBuilder := by
  rfl

def sampleCalls : List Call := [.appendEvent 0 "a", .appendEvent 4 "b", .advanceWatermark 6 10]

theorem run_seals_each_event_once_cut_windows :
    openBuilder sampleSetup.hasher sampleSetup.policy sampleSetup.scopeId sampleSetup.originMs
      sampleSetup.previousMacroDigest 8 = .ok sampleBuilder ∧
    (sampleBuilder.run .unbounded sampleCalls).1.windowStartMs = 6 ∧
    Covers 0 6 ((emittedIn (sampleBuilder.run .unbounded sampleCalls).2).microValues.map (·.checkpointValue)) := by
  have covered := (run_seals_each_event_once sampleSetup 8 sampleBuilder sampleBuilder_opened sampleCalls).1
  have ends : (sampleBuilder.run .unbounded sampleCalls).1.windowStartMs = 6 := by decide +kernel
  refine ⟨sampleBuilder_opened, ends, ?_⟩
  exact covered

end

section
variable [StrOrder]

/-- Two runs that appended the same events and stand at the same watermark emitted the same checkpoints. -/
theorem emissions_independent_of_arrival (setup : Setup) (maxPendingEvents maxPendingEvents' : ℤ)
    (builder builder' : LayeredCheckpointBuilder)
    (opened : openBuilder setup.hasher setup.policy setup.scopeId setup.originMs setup.previousMacroDigest
      maxPendingEvents = .ok builder)
    (opened' : openBuilder setup.hasher setup.policy setup.scopeId setup.originMs setup.previousMacroDigest
      maxPendingEvents' = .ok builder') (calls calls' : List Call)
    (sameEvents : ∀ event, event ∈ appendedIn (builder.run .unbounded calls).2 ↔
      event ∈ appendedIn (builder'.run .unbounded calls').2)
    (sameWatermark : (builder.run .unbounded calls).1.watermarkMs = (builder'.run .unbounded calls').1.watermarkMs) :
    emittedIn (builder.run .unbounded calls).2 = emittedIn (builder'.run .unbounded calls').2 := by
  obtain ⟨n, reached⟩ := run_reached opened calls
  obtain ⟨m, reached'⟩ := run_reached opened' calls'
  have perm := (perm_ext_iff_of_nodup reached.once reached'.once).mpr sameEvents
  have same (k : ℕ) : setup.windowPayloads _ k = setup.windowPayloads _ k := windowPayloads_perm perm
  -- the watermark tells how many windows have been sealed
  obtain rfl : n = m := by
    refine Tiling.window_unique start_strictMono ⟨reached.sealedBy, reached.openAt⟩ ?_
    rw [sameWatermark]
    exact ⟨reached'.sealedBy, reached'.openAt⟩
  rw [reached.emitted, reached'.emitted, plannedEmission_congr fun k _ => same k]

end

section
open Shortlex

def reorderedCalls : List Call :=
  [.appendEvent 4 "b", .appendEvent 0 "a", .appendEvent 0 "a", .advanceWatermark 2 1, .advanceWatermark 6 3]

theorem emissions_independent_of_arrival_reordered :
    emittedIn (sampleBuilder.run .unbounded sampleCalls).2 =
      emittedIn (sampleBuilder.run .unbounded reorderedCalls).2 := by
  have events : appendedIn (sampleBuilder.run .unbounded sampleCalls).2 = [⟨0, "a"⟩, ⟨4, "b"⟩] := by decide +kernel
  have events' : appendedIn (sampleBuilder.run .unbounded reorderedCalls).2 = [⟨4, "b"⟩, ⟨0, "a"⟩] := by decide +kernel
  apply emissions_independent_of_arrival sampleSetup 8 8 sampleBuilder sampleBuilder sampleBuilder_opened
    sampleBuilder_opened
  · intro event
    rw [events, events']
    simp [or_comm]
  · decide +kernel

end

end LayeredCheckpointBuilder

end ConvergeAudit.Layered
