import ConvergeAudit.Merkle.Model
import ConvergeAudit.Moon.Map
import ConvergeAudit.Moon.Sort
import ConvergeAudit.Moon.Arithmetic
import ConvergeAudit.Audit.Policy

/-!
`audit/layered`: events are sealed into micro checkpoints window by window, micro checkpoints into macro
checkpoints. The builder is passed explicitly; `arith` says how its integer operations wrap.
-/

namespace ConvergeAudit.Layered
open Moon Bft Merkle Audit

section
variable (hasher : Hasher) (checkpoint : MicroCheckpoint)

structure MicroCheckpoint where
  scopeId : Str
  macroEpoch : ℤ
  microIndex : ℤ
  startsAtMs : ℤ
  endsAtMs : ℤ
  eventCount : ℤ
  eventRoot : Digest
  digest : Digest

structure MacroCheckpoint where
  scopeId : Str
  epoch : ℤ
  startsAtMs : ℤ
  endsAtMs : ℤ
  microCheckpointCount : ℤ
  eventCount : ℤ
  previousMacroDigest : Digest
  microRoot : Digest
  digest : Digest

structure PendingAuditEvent where
  eventTimeMs : ℤ
  canonicalPayload : Str
  deriving DecidableEq

structure SealedMicroCheckpoint where
  checkpointValue : MicroCheckpoint
  canonicalPayloads : List Str
  tree : MerkleTree

structure SealedMacroCheckpoint where
  checkpointValue : MacroCheckpoint
  microValues : List SealedMicroCheckpoint
  tree : MerkleTree

structure LayeredEventProof where
  microCheckpoint : MicroCheckpoint
  eventProof : MerkleProof
  microProof : MerkleProof

inductive LayeredBuilderOpenError where
  | emptyScopeId
  | nonPositivePendingEventLimit

inductive AuditEventAdmissionError where
  | eventBeforeOrigin
  | eventBehindWatermark
  | invalidBuilderWatermark
  | emptyCanonicalEvent
  | pendingEventLimitReached

inductive AppendAuditEventResult where
  | auditEventAppended
  | auditEventDuplicate
  | auditEventRefused (error : AuditEventAdmissionError)

inductive AdvanceWatermarkError where
  | watermarkBeforeOrigin
  | watermarkMovedBackward
  | negativeCheckpointWindowBudget
  | checkpointWindowBudgetExceeded (due budget : ℤ)

structure LayeredCheckpointEmission where
  microValues : List SealedMicroCheckpoint
  macroValues : List SealedMacroCheckpoint

def LayeredCheckpointEmission.empty : LayeredCheckpointEmission := ⟨[], []⟩

inductive AdvanceWatermarkResult where
  | watermarkAdvanced (emission : LayeredCheckpointEmission)
  | watermarkRefused (error : AdvanceWatermarkError)

structure LayeredCheckpointBuilder where
  hasher : Hasher
  policy : VerifiedCheckpointPolicy
  scopeId : Str
  originMs : ℤ
  maxPendingEvents : ℤ
  watermarkMs : ℤ
  macroEpoch : ℤ
  microIndex : ℤ
  windowStartMs : ℤ
  previousMacroDigest : Digest
  pendingEvents : List PendingAuditEvent
  pendingPayloads : Map Str Bool
  currentMacroMicros : List SealedMicroCheckpoint

def appendIntField (buffer : Str) (value : ℤ) : Str := appendField buffer (Str.ofInt value)

def serializeMicroCheckpointCore : Str :=
  let buffer := appendField Str.empty "layered-micro-v1"
  let buffer := appendField buffer checkpoint.scopeId
  let buffer := appendIntField buffer checkpoint.macroEpoch
  let buffer := appendIntField buffer checkpoint.microIndex
  let buffer := appendIntField buffer checkpoint.startsAtMs
  let buffer := appendIntField buffer checkpoint.endsAtMs
  let buffer := appendIntField buffer checkpoint.eventCount
  appendField buffer checkpoint.eventRoot.text

def serializeMicroCheckpoint : Str :=
  let buffer := appendField Str.empty "layered-micro-record-v1"
  let buffer := appendField buffer (serializeMicroCheckpointCore checkpoint)
  appendField buffer checkpoint.digest.text

def microCheckpointDigest : Digest :=
  hasher.hashString (serializeMicroCheckpointCore checkpoint)

def serializeMacroCheckpointCore (checkpoint : MacroCheckpoint) : Str :=
  let buffer := appendField Str.empty "layered-macro-v1"
  let buffer := appendField buffer checkpoint.scopeId
  let buffer := appendIntField buffer checkpoint.epoch
  let buffer := appendIntField buffer checkpoint.startsAtMs
  let buffer := appendIntField buffer checkpoint.endsAtMs
  let buffer := appendIntField buffer checkpoint.microCheckpointCount
  let buffer := appendIntField buffer checkpoint.eventCount
  let buffer := appendField buffer checkpoint.previousMacroDigest.text
  appendField buffer checkpoint.microRoot.text

def macroCheckpointDigest (checkpoint : MacroCheckpoint) : Digest :=
  hasher.hashString (serializeMacroCheckpointCore checkpoint)

end

namespace LayeredCheckpointBuilder

def openBuilder (hasher : Hasher) (policy : VerifiedCheckpointPolicy) (scopeId : Str) (originMs : ℤ)
    (previousMacroDigest : Digest) (maxPendingEvents : ℤ) : Except LayeredBuilderOpenError LayeredCheckpointBuilder :=
  if scopeId = Str.empty then .error .emptyScopeId
  else if maxPendingEvents ≤ 0 then .error .nonPositivePendingEventLimit
  else .ok
    { hasher, policy, scopeId, originMs, maxPendingEvents
      watermarkMs := originMs, macroEpoch := 0, microIndex := 0, windowStartMs := originMs
      previousMacroDigest, pendingEvents := [], pendingPayloads := Map.empty, currentMacroMicros := [] }

def appendEvent (builder : LayeredCheckpointBuilder) (eventTimeMs : ℤ) (canonicalPayload : Str) :
    LayeredCheckpointBuilder × AppendAuditEventResult :=
  match classifyAuditEventTime builder.originMs builder.watermarkMs eventTimeMs with
  | .auditEventBeforeOrigin => (builder, .auditEventRefused .eventBeforeOrigin)
  | .auditEventBehindWatermark => (builder, .auditEventRefused .eventBehindWatermark)
  | .invalidAuditWatermark => (builder, .auditEventRefused .invalidBuilderWatermark)
  | .auditEventTimeAccepted =>
    if canonicalPayload = Str.empty then (builder, .auditEventRefused .emptyCanonicalEvent)
    else if builder.pendingPayloads.contains canonicalPayload then (builder, .auditEventDuplicate)
    else if builder.pendingEvents.length ≥ builder.maxPendingEvents then
      (builder, .auditEventRefused .pendingEventLimitReached)
    else
      ({ builder with
          pendingEvents := builder.pendingEvents ++ [⟨eventTimeMs, canonicalPayload⟩]
          pendingPayloads := builder.pendingPayloads.set canonicalPayload true }, .auditEventAppended)

section Windows
variable (arith : Arithmetic) (builder : LayeredCheckpointBuilder)

def macroEndMs : ℤ :=
  arith.add builder.originMs
    (arith.mul (arith.add builder.macroEpoch 1) builder.policy.policy.macroCheckpointIntervalMs)

def nextBoundaryMs : ℤ :=
  let microEnd := arith.add builder.windowStartMs builder.policy.policy.microCheckpointIntervalMs
  let macroEnd := builder.macroEndMs arith
  if microEnd < macroEnd then microEnd else macroEnd

/-- The counting loop. Its fuel is `stopAfter + 1` rounds, after which it has stopped, unless its count wraps: for
`stopAfter = 2 ^ 31 - 1` no count is larger. -/
def dueLoop (targetWatermarkMs stopAfter : ℤ) : Nat → ℤ → ℤ → ℤ → ℤ
  | 0, _, _, count => count
  | fuel + 1, epoch, windowStart, count =>
    let macroEnd := arith.add builder.originMs
      (arith.mul (arith.add epoch 1) builder.policy.policy.macroCheckpointIntervalMs)
    let microEnd := arith.add windowStart builder.policy.policy.microCheckpointIntervalMs
    let boundary := if microEnd < macroEnd then microEnd else macroEnd
    if boundary > targetWatermarkMs then count
    else if arith.add count 1 > stopAfter then arith.add count 1
    else
      dueLoop targetWatermarkMs stopAfter fuel (if boundary = macroEnd then arith.add epoch 1 else epoch) boundary
        (arith.add count 1)

def dueWindowCount (targetWatermarkMs stopAfter : ℤ) : ℤ :=
  builder.dueLoop arith targetWatermarkMs stopAfter (stopAfter + 1).toNat builder.macroEpoch builder.windowStartMs 0

end Windows

section Sealing
variable [StrOrder]

section
variable (arith : Arithmetic) (builder : LayeredCheckpointBuilder)

def takeEvent (startsAtMs endsAtMs : ℤ) (state : List Str × List PendingAuditEvent × Map Str Bool)
    (event : PendingAuditEvent) : List Str × List PendingAuditEvent × Map Str Bool :=
  let (payloads, retained, pendingPayloads) := state
  if event.eventTimeMs ≥ startsAtMs ∧ event.eventTimeMs < endsAtMs then
    (payloads ++ [event.canonicalPayload], retained, pendingPayloads.remove event.canonicalPayload)
  else (payloads, retained ++ [event], pendingPayloads)

def takeWindowPayloads (startsAtMs endsAtMs : ℤ) : LayeredCheckpointBuilder × List Str :=
  let (payloads, retained, pendingPayloads) :=
    builder.pendingEvents.foldl (takeEvent startsAtMs endsAtMs) ([], [], builder.pendingPayloads)
  ({ builder with pendingEvents := retained, pendingPayloads := pendingPayloads }, sortBy compare payloads)

def sealNextMicro (endsAtMs : ℤ) : LayeredCheckpointBuilder × SealedMicroCheckpoint :=
  let (next, payloads) := builder.takeWindowPayloads builder.windowStartMs endsAtMs
  let tree := MerkleTree.build builder.hasher payloads
  let unsigned : MicroCheckpoint :=
    { scopeId := builder.scopeId, macroEpoch := builder.macroEpoch, microIndex := builder.microIndex
      startsAtMs := builder.windowStartMs, endsAtMs, eventCount := payloads.length, eventRoot := tree.root
      digest := ⟨Str.empty⟩ }
  (next, ⟨{ unsigned with digest := microCheckpointDigest builder.hasher unsigned }, payloads, tree⟩)

def sealMacro (endsAtMs : ℤ) : SealedMacroCheckpoint :=
  let payloads := builder.currentMacroMicros.map fun micro => serializeMicroCheckpoint micro.checkpointValue
  let eventCount := builder.currentMacroMicros.foldl
    (fun count micro => arith.add count micro.checkpointValue.eventCount) 0
  let tree := MerkleTree.build builder.hasher payloads
  let unsigned : MacroCheckpoint :=
    { scopeId := builder.scopeId, epoch := builder.macroEpoch
      startsAtMs := arith.add builder.originMs
        (arith.mul builder.macroEpoch builder.policy.policy.macroCheckpointIntervalMs)
      endsAtMs, microCheckpointCount := builder.currentMacroMicros.length, eventCount
      previousMacroDigest := builder.previousMacroDigest, microRoot := tree.root, digest := ⟨Str.empty⟩ }
  ⟨{ unsigned with digest := macroCheckpointDigest builder.hasher unsigned }, builder.currentMacroMicros, tree⟩

def sealWindow (emitted : LayeredCheckpointEmission) : LayeredCheckpointBuilder × LayeredCheckpointEmission :=
  let boundary := builder.nextBoundaryMs arith
  let macroEnd := builder.macroEndMs arith
  let (taken, micro) := builder.sealNextMicro boundary
  let sealing := { taken with
    currentMacroMicros := taken.currentMacroMicros ++ [micro], windowStartMs := boundary }
  let micros := emitted.microValues ++ [micro]
  if boundary = macroEnd then
    let sealedMacro := sealing.sealMacro arith boundary
    ({ sealing with
        previousMacroDigest := sealedMacro.checkpointValue.digest, currentMacroMicros := []
        macroEpoch := arith.add sealing.macroEpoch 1, microIndex := 0 },
      ⟨micros, emitted.macroValues ++ [sealedMacro]⟩)
  else ({ sealing with microIndex := arith.add sealing.microIndex 1 }, ⟨micros, emitted.macroValues⟩)

def sealWindows (arith : Arithmetic) :
    Nat → LayeredCheckpointBuilder → LayeredCheckpointEmission → LayeredCheckpointBuilder × LayeredCheckpointEmission
  | 0, builder, emitted => (builder, emitted)
  | due + 1, builder, emitted =>
    let (next, longer) := builder.sealWindow arith emitted
    sealWindows arith due next longer

def advanceWatermark (targetWatermarkMs maxWindows : ℤ) : LayeredCheckpointBuilder × AdvanceWatermarkResult :=
  if targetWatermarkMs < builder.originMs then (builder, .watermarkRefused .watermarkBeforeOrigin)
  else if targetWatermarkMs < builder.watermarkMs then (builder, .watermarkRefused .watermarkMovedBackward)
  else if maxWindows < 0 then (builder, .watermarkRefused .negativeCheckpointWindowBudget)
  else
    let due := builder.dueWindowCount arith targetWatermarkMs maxWindows
    if due > maxWindows then (builder, .watermarkRefused (.checkpointWindowBudgetExceeded due maxWindows))
    else
      let (sealedBuilder, emission) := sealWindows arith due.toNat builder .empty
      ({ sealedBuilder with watermarkMs := targetWatermarkMs }, .watermarkAdvanced emission)

end

end Sealing

end LayeredCheckpointBuilder

def SealedMicroCheckpoint.eventProof (micro : SealedMicroCheckpoint) (canonicalPayload : Str) : Option MerkleProof :=
  match micro.canonicalPayloads.findIdx? (· = canonicalPayload) with
  | none => none
  | some index => micro.tree.proof index

def eventProofFrom (tree : MerkleTree) (canonicalPayload : Str) :
    List SealedMicroCheckpoint → Nat → Option LayeredEventProof
  | [], _ => none
  | micro :: rest, index =>
    match micro.eventProof canonicalPayload with
    | none => eventProofFrom tree canonicalPayload rest (index + 1)
    | some eventProof =>
      match tree.proof index with
      | none => none
      | some microProof => some ⟨micro.checkpointValue, eventProof, microProof⟩

namespace SealedMacroCheckpoint

def checkpoint (sealedMacro : SealedMacroCheckpoint) : MacroCheckpoint := sealedMacro.checkpointValue

def eventProof (sealedMacro : SealedMacroCheckpoint) (canonicalPayload : Str) : Option LayeredEventProof :=
  eventProofFrom sealedMacro.tree canonicalPayload sealedMacro.microValues 0

end SealedMacroCheckpoint

def verifyMicroCheckpointEvent (hasher : Hasher) (checkpoint : MicroCheckpoint) (canonicalPayload : Str)
    (proof : MerkleProof) : Bool :=
  if checkpoint.eventCount ≤ 0 ∨ checkpoint.endsAtMs ≤ checkpoint.startsAtMs ∨
      proof.leafCount ≠ checkpoint.eventCount ∨ microCheckpointDigest hasher checkpoint ≠ checkpoint.digest then false
  else verifyInclusion hasher canonicalPayload checkpoint.eventRoot proof

def verifyMacroCheckpointMicro (hasher : Hasher) (checkpoint : MacroCheckpoint) (micro : MicroCheckpoint)
    (proof : MerkleProof) : Bool :=
  if checkpoint.microCheckpointCount ≤ 0 ∨ checkpoint.endsAtMs ≤ checkpoint.startsAtMs ∨
      proof.leafCount ≠ checkpoint.microCheckpointCount ∨ proof.leafIndex ≠ micro.microIndex ∨
      macroCheckpointDigest hasher checkpoint ≠ checkpoint.digest ∨ microCheckpointDigest hasher micro ≠ micro.digest ∨
      micro.scopeId ≠ checkpoint.scopeId ∨ micro.macroEpoch ≠ checkpoint.epoch ∨
      micro.startsAtMs < checkpoint.startsAtMs ∨ micro.endsAtMs > checkpoint.endsAtMs ∨
      micro.endsAtMs ≤ micro.startsAtMs then false
  else verifyInclusion hasher (serializeMicroCheckpoint micro) checkpoint.microRoot proof

def verifyMacroCheckpointEvent (hasher : Hasher) (checkpoint : MacroCheckpoint) (canonicalPayload : Str)
    (proof : LayeredEventProof) : Bool :=
  verifyMicroCheckpointEvent hasher proof.microCheckpoint canonicalPayload proof.eventProof &&
    verifyMacroCheckpointMicro hasher checkpoint proof.microCheckpoint proof.microProof

end ConvergeAudit.Layered
