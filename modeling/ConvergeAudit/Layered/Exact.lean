import ConvergeAudit.Layered.Partition

/-!
`advance_watermark` counts the windows that it would seal before it seals one. On 32-bit integers it follows the same
schedule as long as the ends of the windows that it counts do not pass the largest one.
-/

namespace ConvergeAudit.Layered
open Moon Bft Merkle Audit Lib
open List hiding count

theorem add_le_windowStart (policy : VerifiedCheckpointPolicy) (originMs : ℤ) (n : ℕ) :
    originMs + n ≤ windowStart policy originMs n := by
  induction n with
  | zero => simp [windowStart_zero]
  | succ n ih =>
    have later : windowStart policy originMs n < windowStart policy originMs (n + 1) := windowStart_lt_succ originMs n
    omega

theorem exists_windows_by (originMs : ℤ) (n : ℕ) (target : ℤ) :
    ∃ due : ℕ, ∀ k, windowStart policy originMs (n + k + 1) ≤ target ↔ k < due := by
  have beyond : ∃ k, target < windowStart policy originMs (n + k + 1) := by
    have late := add_le_windowStart policy originMs (n + (target - originMs).toNat + 1)
    exact ⟨(target - originMs).toNat, by omega⟩
  refine ⟨Nat.find beyond, fun k => ⟨fun ended => ?_, fun before => ?_⟩⟩
  · by_contra late
    have later : windowStart policy originMs (n + Nat.find beyond + 1) ≤ windowStart policy originMs (n + k + 1) :=
      (windowStart_strictMono originMs).monotone (by omega)
    exact absurd (later.trans ended) (Int.not_le.mpr (Nat.find_spec beyond))
  · exact Int.not_lt.mp (Nat.find_min beyond before)

variable {builder : LayeredCheckpointBuilder}

namespace LayeredCheckpointBuilder

/-- The end of the window that is sealed after `k` others. -/
def windowEndMs (builder : LayeredCheckpointBuilder) : ℕ → ℤ
  | 0 => builder.nextBoundaryMs .unbounded
  | k + 1 => builder.nextWindow.windowEndMs k

theorem AtWindow.windowEndMs (cursor : builder.AtWindow n) (k : ℕ) :
    builder.windowEndMs k = windowStart builder.policy builder.originMs (n + k + 1) := by
  induction k generalizing builder n with
  | zero => exact cursor.nextBoundaryMs
  | succ k ih =>
    obtain ⟨next, policy, origin⟩ := cursor.nextWindow
    rw [LayeredCheckpointBuilder.windowEndMs, ih next, policy, origin, show n + 1 + k + 1 = n + (k + 1) + 1 by omega]

def Answer.isRefused : Answer → Bool
  | .appended _ _ (.auditEventRefused _) => true
  | .advanced _ (.watermarkRefused _) => true
  | _ => false

section
variable [StrOrder]

theorem apply_refused (refused : (builder.apply arith call).2.isRefused = true) :
    (builder.apply arith call).1 = builder := by
  cases call with
  | appendEvent time payload =>
    rcases builder.appendEvent_cases time payload with ⟨result, _, answered⟩ | ⟨_, _, answered⟩
    · simp only [apply, answered]
    · simp [apply, answered, Answer.isRefused] at refused
  | advanceWatermark target maxWindows =>
    rcases builder.advanceWatermark_cases arith target maxWindows with ⟨error, answered⟩ | ⟨_, _, _, answered⟩
    · simp only [apply, answered]
    · simp [apply, answered, Answer.isRefused] at refused

theorem Reached.advanceWatermark {maxWindows : ℤ} (reached : Reached setup n builder answers)
    (forward : builder.watermarkMs ≤ target) (budget : 0 ≤ maxWindows) :
    ∃ due : ℕ, (∀ k, builder.windowEndMs k ≤ target ↔ k < due) ∧
      (maxWindows < due → ∃ counted, maxWindows < counted ∧ builder.advanceWatermark .unbounded target maxWindows =
        (builder, .watermarkRefused (.checkpointWindowBudgetExceeded counted maxWindows))) ∧
      (due ≤ maxWindows → ∃ next emission, emission.microValues.length = due ∧
        builder.advanceWatermark .unbounded target maxWindows = (next, .watermarkAdvanced emission)) := by
  obtain ⟨due, ends⟩ := exists_windows_by builder.originMs n target
  obtain ⟨k, counted, ended, stopped⟩ := reached.follows.cursor.dueWindowCount target budget
  have most : k ≤ due := by
    rcases ended with rfl | ended
    · exact Nat.zero_le due
    · cases k with
      | zero => exact Nat.zero_le due
      | succ k => exact (ends k).mp ended
  have all (within : k ≤ maxWindows) : k = due := by
    have := (ends k).not.mp (Int.not_le.mpr (stopped within))
    omega
  have origin : builder.originMs ≤ target := by
    have := add_le_windowStart setup.policy setup.originMs n
    have := reached.sealedBy
    rw [Setup.start] at this
    rw [reached.follows.sameOrigin]
    omega
  refine ⟨due, fun k => by rw [reached.follows.cursor.windowEndMs]; exact ends k, fun exceeds => ?_, fun within => ?_⟩
  all_goals
    unfold LayeredCheckpointBuilder.advanceWatermark
    rw [if_neg (by omega), if_neg (by omega), if_neg (by omega), counted]
  · refine ⟨k, ?_, if_pos ?_⟩ <;>
    · by_contra few
      omega
  · obtain rfl := all (by omega)
    obtain ⟨_, longer⟩ := reached.follows.sealWindows k reached.planned
    refine ⟨_, _, ?_, if_neg (by omega)⟩
    have lengths := congrArg (·.microValues.length) longer
    simp only [LayeredCheckpointEmission.append, reached.emitted, plannedEmission, length_append, length_map,
      length_range] at lengths
    rw [Int.toNat_natCast]
    omega

/-- An advance is refused for its budget exactly if more windows are due, and emits the due ones otherwise. A refused
call changes nothing. -/
theorem watermark_refusals_exact (setup : Setup) (maxPendingEvents : ℤ) (builder : LayeredCheckpointBuilder)
    (opened : openBuilder setup.hasher setup.policy setup.scopeId setup.originMs setup.previousMacroDigest
      maxPendingEvents = .ok builder) (calls : List Call) :
    let reached := (builder.run .unbounded calls).1
    (∀ target maxWindows : ℤ, reached.watermarkMs ≤ target → 0 ≤ maxWindows →
      ∃ due : ℕ, (∀ k, reached.windowEndMs k ≤ target ↔ k < due) ∧
        (maxWindows < due → ∃ counted, maxWindows < counted ∧ reached.advanceWatermark .unbounded target maxWindows =
          (reached, .watermarkRefused (.checkpointWindowBudgetExceeded counted maxWindows))) ∧
        (due ≤ maxWindows → ∃ next emission, emission.microValues.length = due ∧
          reached.advanceWatermark .unbounded target maxWindows = (next, .watermarkAdvanced emission))) ∧
    ∀ call, (reached.apply .unbounded call).2.isRefused = true → (reached.apply .unbounded call).1 = reached ∧
      ∀ later, reached.run .unbounded (call :: later) =
        ((reached.run .unbounded later).1, (reached.apply .unbounded call).2 :: (reached.run .unbounded later).2) := by
  obtain ⟨n, reached⟩ := run_reached opened calls
  refine ⟨fun target maxWindows => reached.advanceWatermark, fun call refused => ?_⟩
  have same := apply_refused refused
  refine ⟨same, fun later => ?_⟩
  rw [run]
  simp only [same]

end

open Shortlex in
/-- Two windows are due: a budget of one is refused, a budget of two emits both. -/
theorem watermark_refusals_exact_after_calls :
    let reached := (sampleBuilder.run .unbounded sampleCalls).1
    (∃ counted, 1 < counted ∧ reached.advanceWatermark .unbounded 10 1 =
      (reached, .watermarkRefused (.checkpointWindowBudgetExceeded counted 1))) ∧
    ∃ next emission, emission.microValues.length = 2 ∧
      reached.advanceWatermark .unbounded 10 2 = (next, .watermarkAdvanced emission) := by
  intro reached
  have exactly := (watermark_refusals_exact sampleSetup 8 sampleBuilder sampleBuilder_opened sampleCalls).1
  obtain ⟨due, ends, refused, _⟩ := exactly 10 1 (by decide +kernel) (by decide)
  obtain ⟨due', ends', _, emits⟩ := exactly 10 2 (by decide +kernel) (by decide)
  have second : 1 < due := (ends 1).mp (by decide +kernel)
  have both : due' = 2 := by
    have := (ends' 1).mp (by decide +kernel)
    have := (ends' 2).not.mp (by decide +kernel)
    omega
  subst both
  exact ⟨refused (by omega), emits (by omega)⟩

end LayeredCheckpointBuilder

/-- Window `n` and its epoch end within the machine type, and so does the distance of the epoch's end from the origin. -/
structure Fits (policy : VerifiedCheckpointPolicy) (originMs : ℤ) (n : ℕ) : Prop where
  origin : -2 ^ 31 ≤ originMs
  span : ((n / microsPerMacro policy : ℕ) + 1) * policy.policy.macroCheckpointIntervalMs < 2 ^ 31
  macroEnd : epochEnd policy originMs n < 2 ^ 31
  microEnd : windowStart policy originMs n + policy.policy.microCheckpointIntervalMs < 2 ^ 31

/-- What the builder computes for the window. -/
theorem Fits.window (fits : Fits policy originMs n) :
    IsInt32 ((n / microsPerMacro policy : ℕ) * policy.policy.macroCheckpointIntervalMs) ∧
    IsInt32 (originMs + (n / microsPerMacro policy : ℕ) * policy.policy.macroCheckpointIntervalMs) ∧
    IsInt32 (((n / microsPerMacro policy : ℕ) + 1) * policy.policy.macroCheckpointIntervalMs) ∧
    IsInt32 (originMs + ((n / microsPerMacro policy : ℕ) + 1) * policy.policy.macroCheckpointIntervalMs) ∧
    IsInt32 (windowStart policy originMs n + policy.policy.microCheckpointIntervalMs) ∧
    ∀ count ≤ n, IsInt32 (count + 1) := by
  obtain ⟨origin, span, macroEnd, microEnd⟩ := fits
  have micro := policy.micro_pos
  have nested := policy.micro_le_macro
  have counted := add_le_windowStart policy originMs n
  have epoch : 0 ≤ ((n / microsPerMacro policy : ℕ) : ℤ) * policy.policy.macroCheckpointIntervalMs :=
    Int.mul_nonneg (Int.natCast_nonneg _) (by omega)
  have index : 0 ≤ ((n % microsPerMacro policy : ℕ) : ℤ) * policy.policy.microCheckpointIntervalMs :=
    Int.mul_nonneg (Int.natCast_nonneg _) (by omega)
  have starts : originMs + (n / microsPerMacro policy : ℕ) * policy.policy.macroCheckpointIntervalMs ≤
      windowStart policy originMs n := by
    unfold windowStart
    omega
  have inside : windowStart policy originMs n < epochEnd policy originMs n := by
    have later : windowStart policy originMs n < windowStart policy originMs (n + 1) := windowStart_lt_succ originMs n
    rw [← (boundary_eq policy originMs n).1] at later
    split at later <;> omega
  unfold IsInt32
  unfold epochEnd at inside macroEnd
  rw [Int.add_mul, Int.one_mul] at *
  refine ⟨?_, ?_, ?_, ?_, ?_, fun count few => ?_⟩ <;> omega

namespace LayeredCheckpointBuilder

section
variable {arith : Arithmetic} (exact : arith.ExactInt32)
include exact

theorem AtWindow.exactBoundary (cursor : builder.AtWindow n) (fits : Fits builder.policy builder.originMs n) :
    builder.nextBoundaryMs arith = builder.nextBoundaryMs .unbounded ∧
      builder.macroEndMs arith = builder.macroEndMs .unbounded := by
  obtain ⟨_, _, product, macroEnd, microEnd, counts⟩ := fits.window
  unfold LayeredCheckpointBuilder.nextBoundaryMs macroEndMs
  simp only [cursor.epoch, cursor.starts, exact.add (counts _ (Nat.div_le_self ..)), exact.mul product,
    exact.add macroEnd, exact.add microEnd, Arithmetic.unbounded_add, Arithmetic.unbounded_mul, and_self]

theorem dueLoop_exact {stopAfter : ℤ} {count : ℕ} (counted : count ≤ n) (within : count ≤ stopAfter)
    (fits : ∀ k : ℕ, count + k ≤ stopAfter → k = 0 ∨ windowStart builder.policy builder.originMs (n + k) ≤ target →
      Fits builder.policy builder.originMs (n + k)) :
    builder.dueLoop arith target stopAfter fuel (n / microsPerMacro builder.policy : ℕ)
        (windowStart builder.policy builder.originMs n) count =
      builder.dueLoop .unbounded target stopAfter fuel (n / microsPerMacro builder.policy : ℕ)
        (windowStart builder.policy builder.originMs n) count := by
  induction fuel generalizing n count with
  | zero => rfl
  | succ fuel ih =>
    have here : Fits builder.policy builder.originMs n := fits 0 (by simpa using within) (Or.inl rfl)
    obtain ⟨_, _, product, macroEnd, microEnd, counts⟩ := here.window
    rw [dueLoop_succ, dueLoop]
    simp only [exact.add (counts _ (Nat.div_le_self ..)), exact.mul product, exact.add macroEnd, exact.add microEnd,
      exact.add (counts _ counted)]
    rw [(boundary_eq builder.policy builder.originMs n).1, epoch_eq]
    split
    · rfl
    split
    · rfl
    · refine ih (Nat.succ_le_succ counted) (by push_cast; omega) fun k few reached => ?_
      rw [Nat.add_right_comm, Nat.add_assoc] at reached ⊢
      exact fits (k + 1) (by push_cast at *; omega) (Or.inr (reached.elim (fun zero => by rw [zero, Nat.zero_add]; omega) id))

end

theorem foldl_eventCount_exact {arith : Arithmetic} (exact : arith.ExactInt32) (micros : List SealedMicroCheckpoint)
    (count : ℤ) (positive : 0 ≤ count) (counts : ∀ micro ∈ micros, 0 ≤ micro.checkpointValue.eventCount)
    (few : count + (micros.map (·.checkpointValue.eventCount)).sum < 2 ^ 31) :
    micros.foldl (fun count micro => arith.add count micro.checkpointValue.eventCount) count =
      micros.foldl (fun count micro => count + micro.checkpointValue.eventCount) count := by
  induction micros generalizing count with
  | nil => rfl
  | cons micro rest ih =>
    rw [forall_mem_cons] at counts
    rw [map_cons, sum_cons, ← Int.add_assoc] at few
    have later : 0 ≤ (rest.map (·.checkpointValue.eventCount)).sum := by
      apply sum_nonneg
      simpa using counts.2
    rw [foldl_cons, foldl_cons, exact.add ⟨by omega, by omega⟩]
    exact ih _ (by omega) counts.2 few

end LayeredCheckpointBuilder

section
variable [StrOrder]

theorem Setup.eventCount_plannedMicro (setup : Setup) (events : List PendingAuditEvent) (k : ℕ) :
    (setup.plannedMicro events k).checkpointValue.eventCount + (events.filter (setup.start (k + 1) ≤ ·.eventTimeMs)).length =
      (events.filter (setup.start k ≤ ·.eventTimeMs)).length := by
  have later : setup.start k < setup.start (k + 1) := start_strictMono (Nat.lt_succ_self k)
  have apart := length_eq_length_filter_add (l := events.filter (setup.start k ≤ ·.eventTimeMs))
    (fun event => event.eventTimeMs < setup.start (k + 1))
  have counted : (setup.plannedMicro events k).checkpointValue.eventCount = (setup.windowPayloads events k).length := rfl
  rw [counted, windowPayloads, (sortBy_perm _ _).length_eq, length_map, apart, Nat.cast_add, filter_filter, filter_filter]
  congr 3 <;>
  · apply filter_congr
    intro event _
    rw [Bool.eq_iff_iff]
    simp
    omega

/-- An event is counted in one window of an epoch at most. -/
theorem Setup.eventCount_epochMicros (setup : Setup) (events : List PendingAuditEvent) (epoch count : ℕ) :
    ((setup.epochMicros events epoch count).map (·.checkpointValue.eventCount)).sum +
      (events.filter (setup.start (setup.perMacro * epoch + count) ≤ ·.eventTimeMs)).length ≤ events.length := by
  induction count with
  | zero => simpa [epochMicros] using length_filter_le _ events
  | succ count ih =>
    have counted := eventCount_plannedMicro setup events (setup.perMacro * epoch + count)
    rw [epochMicros, map_map] at ih ⊢
    rw [range_succ, map_append, sum_append, map_singleton, sum_singleton]
    simp only [Function.comp_apply, ← Nat.add_assoc] at *
    omega

end

namespace LayeredCheckpointBuilder

section
variable [StrOrder] {setup : Setup} {events : List PendingAuditEvent}

section
variable {arith : Arithmetic} (exact : arith.ExactInt32) (few : events.length < 2 ^ 31)
include exact few

theorem Follows.sealWindow_exact (follows : builder.Follows setup events n) (fits : Fits setup.policy setup.originMs n) :
    builder.sealWindow arith emitted = builder.sealWindow .unbounded emitted := by
  obtain ⟨product, starts, _, _, _, counts⟩ := fits.window
  rw [← follows.samePolicy, ← follows.sameOrigin] at fits
  have boundaries := follows.cursor.exactBoundary exact fits
  obtain ⟨index, sealedMicro, _⟩ := follows.sealNextMicro
  have counted := setup.eventCount_epochMicros events (n / setup.perMacro) (n % setup.perMacro + 1)
  have sums := foldl_eventCount_exact exact (setup.epochMicros events (n / setup.perMacro) (n % setup.perMacro + 1)) 0 le_rfl
    (fun micro member => by obtain ⟨i, _, rfl⟩ := mem_map.mp member; exact Int.natCast_nonneg _) (by omega)
  unfold LayeredCheckpointBuilder.sealWindow LayeredCheckpointBuilder.sealMacro
  rw [boundaries.1, boundaries.2, follows.boundary]
  dsimp only
  rw [sealedMicro]
  simp only [follows.longer, sums, follows.cursor.epoch, follows.cursor.index, follows.sameOrigin, follows.samePolicy,
    Arithmetic.unbounded_add, Arithmetic.unbounded_mul, exact.mul product, exact.add starts,
    exact.add (counts _ (Nat.div_le_self ..)), exact.add (counts _ (Nat.mod_le ..))]

theorem Follows.sealWindows_exact {earlier emitted : LayeredCheckpointEmission}
    (follows : builder.Follows setup events n) (planned : earlier.append emitted = plannedEmission setup events n)
    (fits : ∀ k < due, Fits setup.policy setup.originMs (n + k)) :
    LayeredCheckpointBuilder.sealWindows arith due builder emitted =
      LayeredCheckpointBuilder.sealWindows .unbounded due builder emitted := by
  induction due generalizing n builder emitted with
  | zero => rfl
  | succ due ih =>
    obtain ⟨next, longer⟩ := follows.sealWindow planned
    rw [LayeredCheckpointBuilder.sealWindows, LayeredCheckpointBuilder.sealWindows,
      follows.sealWindow_exact exact few (fits 0 (Nat.succ_pos due))]
    refine ih next longer fun k before => ?_
    rw [Nat.add_assoc, Nat.add_comm 1]
    exact fits (k + 1) (Nat.succ_lt_succ before)

end

/-- What the builder adds up for its next window are values of the machine type. -/
abbrev EndsFit (builder : LayeredCheckpointBuilder) : Prop :=
  (builder.macroEpoch + 1) * builder.policy.policy.macroCheckpointIntervalMs < 2 ^ 31 ∧
    builder.macroEndMs .unbounded < 2 ^ 31 ∧
    builder.windowStartMs + builder.policy.policy.microCheckpointIntervalMs < 2 ^ 31

/-- The ends of the windows that the call counts fit: the due ones and the next, up to one more than the budget. -/
def Call.Fits (builder : LayeredCheckpointBuilder) : Call → Prop
  | .appendEvent _ _ => True
  | .advanceWatermark target maxWindows => builder.watermarkMs ≤ target → ∀ k < (maxWindows + 1).toNat,
    (∀ j < k, builder.windowEndMs j ≤ target) → (LayeredCheckpointBuilder.nextWindow^[k] builder).EndsFit

def RunFits (builder : LayeredCheckpointBuilder) : List Call → Prop
  | [] => True
  | call :: rest => call.Fits builder ∧ RunFits (builder.apply .unbounded call).1 rest

omit [StrOrder] in
theorem AtWindow.fits (cursor : builder.AtWindow n) (origin : -2 ^ 31 ≤ builder.originMs) (k : ℕ)
    (ends : (LayeredCheckpointBuilder.nextWindow^[k] builder).EndsFit) :
    Fits builder.policy builder.originMs (n + k) := by
  induction k generalizing builder n with
  | zero =>
    obtain ⟨span, macroEnd, microEnd⟩ := ends
    simp only [macroEndMs, Function.iterate_zero, id_eq, Arithmetic.unbounded_add, Arithmetic.unbounded_mul,
      cursor.epoch, cursor.starts] at span macroEnd microEnd
    exact ⟨origin, span, macroEnd, microEnd⟩
  | succ k ih =>
    obtain ⟨next, policy, same⟩ := cursor.nextWindow
    rw [Function.iterate_succ_apply] at ends
    have later := ih next (same ▸ origin) ends
    rwa [policy, same, Nat.add_right_comm, Nat.add_assoc] at later

theorem Reached.apply_exact (exact : arith.ExactInt32) (reached : Reached setup n builder answers)
    (origin : -2 ^ 31 ≤ setup.originMs) (few : answers.length < 2 ^ 31) (fits : call.Fits builder) :
    builder.apply arith call = builder.apply .unbounded call := by
  cases call with
  | appendEvent time payload => rfl
  | advanceWatermark target maxWindows =>
    have follows := reached.follows
    have events : (appendedIn answers).length < 2 ^ 31 := (length_filterMap_le _ _).trans_lt few
    suffices same : builder.advanceWatermark arith target maxWindows = builder.advanceWatermark .unbounded target maxWindows by
      simp only [LayeredCheckpointBuilder.apply, same]
    unfold LayeredCheckpointBuilder.advanceWatermark
    split
    · rfl
    split
    · rfl
    split
    · rfl
    next forward budget =>
      obtain ⟨due, counted, ended, _⟩ := follows.cursor.dueWindowCount target (Int.not_lt.mp budget)
      -- a window is counted if those before it end by the target
      have windows : ∀ k : ℕ, k ≤ maxWindows → k = 0 ∨ windowStart builder.policy builder.originMs (n + k) ≤ target →
          Layered.Fits builder.policy builder.originMs (n + k) := by
        intro k within started
        refine follows.cursor.fits (follows.sameOrigin ▸ origin) k (fits (by omega) k (by omega) fun j before => ?_)
        rw [follows.cursor.windowEndMs]
        have ends : windowStart builder.policy builder.originMs (n + j + 1) ≤
            windowStart builder.policy builder.originMs (n + k) := (windowStart_strictMono _).monotone (by omega)
        exact ends.trans (started.resolve_left (by omega))
      have same : builder.dueWindowCount arith target maxWindows = builder.dueWindowCount .unbounded target maxWindows := by
        unfold LayeredCheckpointBuilder.dueWindowCount
        rw [follows.cursor.epoch, follows.cursor.starts]
        exact dueLoop_exact exact (Nat.zero_le n) (Int.not_lt.mp budget) fun k few => windows k (by simpa using few)
      rw [same, counted]
      dsimp only
      split
      · rfl
      rename_i affordable
      have sealing : ∀ k < due, Layered.Fits setup.policy setup.originMs (n + k) := by
        intro k before
        rw [← follows.samePolicy, ← follows.sameOrigin]
        have starts : windowStart builder.policy builder.originMs (n + k) ≤
            windowStart builder.policy builder.originMs (n + due) := (windowStart_strictMono _).monotone (by omega)
        exact windows k (by omega) (Or.inr (starts.trans (ended.resolve_left (by omega))))
      rw [Int.toNat_natCast, follows.sealWindows_exact exact events reached.planned sealing]

theorem Reached.run_exact (exact : arith.ExactInt32) (reached : Reached setup n builder answers)
    (origin : -2 ^ 31 ≤ setup.originMs) (few : answers.length + calls.length < 2 ^ 31) (fits : builder.RunFits calls) :
    builder.run arith calls = builder.run .unbounded calls := by
  induction calls generalizing builder answers n with
  | nil => rfl
  | cons call calls ih =>
    rw [length_cons] at few
    obtain ⟨_, next⟩ := reached.apply call
    rw [run, run, reached.apply_exact exact origin (by omega) fits.1]
    simp only [ih next (by rw [length_append, length_singleton]; omega) fits.2]

/-- A run that counts only windows whose ends fit is the same on 32-bit integers. -/
theorem run_exact_in_int32 (setup : Setup) (maxPendingEvents : ℤ) (builder : LayeredCheckpointBuilder)
    (opened : openBuilder setup.hasher setup.policy setup.scopeId setup.originMs setup.previousMacroDigest
      maxPendingEvents = .ok builder) (origin : -2 ^ 31 ≤ setup.originMs) (calls : List Call)
    (few : calls.length < 2 ^ 31) (fits : builder.RunFits calls) :
    builder.run .int32 calls = builder.run .unbounded calls ∧
      ∀ micro ∈ (emittedIn (builder.run .int32 calls).2).microValues,
        micro.checkpointValue.startsAtMs < micro.checkpointValue.endsAtMs ∧
        micro.checkpointValue.endsAtMs ≤ (builder.run .int32 calls).1.watermarkMs := by
  have same := (reached_open opened).run_exact Arithmetic.exactInt32_int32 origin (by simpa using few) fits
  obtain ⟨n, reached⟩ := run_reached opened calls
  refine ⟨same, ?_⟩
  rw [same, reached.emitted]
  intro micro member
  obtain ⟨k, before, rfl⟩ := mem_map.mp member
  have ends : setup.start (k + 1) ≤ setup.start n := Setup.start_strictMono.monotone (mem_range.mp before)
  exact ⟨Setup.start_strictMono (Nat.lt_succ_self k), ends.trans reached.sealedBy⟩

end

section
open Shortlex

/-- The last call counts two windows only, and is refused for its budget. -/
theorem run_exact_in_int32_refused_budget :
    sampleBuilder.run .int32 (sampleCalls ++ [.advanceWatermark 2147483647 1]) =
      sampleBuilder.run .unbounded (sampleCalls ++ [.advanceWatermark 2147483647 1]) := by
  refine (run_exact_in_int32 sampleSetup 8 sampleBuilder sampleBuilder_opened (by decide) _ (by decide) ?_).1
  refine ⟨trivial, trivial, ?_, ?_, trivial⟩
  · change _ → ∀ k < _, _ → EndsFit _
    decide +kernel
  · change _ → ∀ k < _, _ → EndsFit _
    decide +kernel

def edgeSetup : Setup :=
  { sampleSetup with
    policy := ⟨⟨1, 1431655767, 1431655767, 1431655767, 1431655767, 1431655767⟩, by decide⟩, originMs := 2147483638 }

def edgeBuilder : LayeredCheckpointBuilder :=
  { sampleBuilder with
    policy := edgeSetup.policy, originMs := 2147483638, watermarkMs := 2147483638, windowStartMs := 2147483638 }

/-- Nothing is due at the origin, but the ends of the first two windows wrap to earlier times. -/
theorem window_ends_wrap :
    openBuilder edgeSetup.hasher edgeSetup.policy edgeSetup.scopeId edgeSetup.originMs edgeSetup.previousMacroDigest 8 =
      .ok edgeBuilder ∧
    (emittedIn (edgeBuilder.run .unbounded [.advanceWatermark 2147483638 2]).2).microValues = [] ∧
    (emittedIn (edgeBuilder.run .int32 [.advanceWatermark 2147483638 2]).2).microValues.map
      (fun micro => (micro.checkpointValue.startsAtMs, micro.checkpointValue.endsAtMs)) =
        [(2147483638, -715827891), (-715827891, 715827876)] := by
  refine ⟨?_, by decide +kernel, by decide +kernel⟩
  rfl

end

end LayeredCheckpointBuilder

end ConvergeAudit.Layered
