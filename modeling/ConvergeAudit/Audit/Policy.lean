import Mathlib.Data.Int.Notation

/-!
`audit/policy` and `audit/time`: the interval tiers behind a layered log and the admission of an event time.
-/

namespace ConvergeAudit.Audit

structure CheckpointPolicy where
  eventIntervalMs : ℤ
  microCheckpointIntervalMs : ℤ
  macroCheckpointIntervalMs : ℤ
  eventRetentionMs : ℤ
  microCheckpointRetentionMs : ℤ
  macroCheckpointRetentionMs : ℤ

def checkpointPolicyFieldsValid (eventIntervalMs microCheckpointIntervalMs macroCheckpointIntervalMs eventRetentionMs
    microCheckpointRetentionMs macroCheckpointRetentionMs : ℤ) : Bool :=
  eventIntervalMs > 0 && microCheckpointIntervalMs ≥ eventIntervalMs &&
    macroCheckpointIntervalMs ≥ microCheckpointIntervalMs && eventRetentionMs ≥ macroCheckpointIntervalMs &&
    microCheckpointRetentionMs ≥ eventRetentionMs && macroCheckpointRetentionMs ≥ microCheckpointRetentionMs

def CheckpointPolicy.valid (policy : CheckpointPolicy) : Bool :=
  checkpointPolicyFieldsValid policy.eventIntervalMs policy.microCheckpointIntervalMs
    policy.macroCheckpointIntervalMs policy.eventRetentionMs policy.microCheckpointRetentionMs
    policy.macroCheckpointRetentionMs

/-- The capability that `open_checkpoint_policy` alone mints. -/
structure VerifiedCheckpointPolicy where
  value : CheckpointPolicy
  verified : value.valid = true

theorem CheckpointPolicy.valid_iff (policy : CheckpointPolicy) :
    policy.valid = true ↔
      0 < policy.eventIntervalMs ∧ policy.eventIntervalMs ≤ policy.microCheckpointIntervalMs ∧
      policy.microCheckpointIntervalMs ≤ policy.macroCheckpointIntervalMs ∧
      policy.macroCheckpointIntervalMs ≤ policy.eventRetentionMs ∧
      policy.eventRetentionMs ≤ policy.microCheckpointRetentionMs ∧
      policy.microCheckpointRetentionMs ≤ policy.macroCheckpointRetentionMs := by
  simp only [CheckpointPolicy.valid, checkpointPolicyFieldsValid, Bool.and_eq_true, decide_eq_true_eq, gt_iff_lt,
    ge_iff_le, and_assoc]

namespace VerifiedCheckpointPolicy

variable (verified : VerifiedCheckpointPolicy)

def policy : CheckpointPolicy := verified.value

theorem micro_pos : 0 < verified.policy.microCheckpointIntervalMs := by
  have tiers := verified.value.valid_iff.mp verified.verified
  unfold policy
  omega

theorem micro_le_macro :
    verified.policy.microCheckpointIntervalMs ≤ verified.policy.macroCheckpointIntervalMs :=
  (verified.value.valid_iff.mp verified.verified).2.2.1

end VerifiedCheckpointPolicy

inductive AuditEventTimeDecision where
  | auditEventTimeAccepted
  | auditEventBeforeOrigin
  | auditEventBehindWatermark
  | invalidAuditWatermark

def classifyAuditEventTime (originMs watermarkMs eventTimeMs : ℤ) : AuditEventTimeDecision :=
  if watermarkMs < originMs then .invalidAuditWatermark
  else if eventTimeMs < originMs then .auditEventBeforeOrigin
  else if eventTimeMs < watermarkMs then .auditEventBehindWatermark
  else .auditEventTimeAccepted

theorem classifyAuditEventTime_accepted :
    classifyAuditEventTime originMs watermarkMs eventTimeMs = .auditEventTimeAccepted ↔
      originMs ≤ watermarkMs ∧ watermarkMs ≤ eventTimeMs := by
  unfold classifyAuditEventTime
  split
  · simp
    omega
  split
  · simp
    omega
  split
  · simp
    omega
  · simp
    omega

end ConvergeAudit.Audit
