import Mathlib.Data.Int.Notation

/-! The classification of an authenticated checkpoint against the current head, as `audit/head.mbt` computes it. -/

namespace ConvergeAudit.Audit

inductive CheckpointHeadDecision where
  | advance
  | duplicate
  | sameEpochFork
  | parentFork
  | gap
  | stale
  | boundaryMismatch

def classifyCheckpointHead (boundaryMatches epochKnown knownDigestMatches : Bool) (currentEpoch incomingEpoch : ℤ)
    (parentMatches : Bool) : CheckpointHeadDecision :=
  if !boundaryMatches then .boundaryMismatch
  else if epochKnown then
    if knownDigestMatches then .duplicate else .sameEpochFork
  else if incomingEpoch > currentEpoch && incomingEpoch - 1 == currentEpoch then
    if parentMatches then .advance else .parentFork
  else if incomingEpoch > currentEpoch then .gap
  else .stale

theorem classifyCheckpointHead_advance_iff :
    classifyCheckpointHead boundaryMatches epochKnown knownDigestMatches currentEpoch incomingEpoch parentMatches =
        .advance ↔
      boundaryMatches = true ∧ epochKnown = false ∧ incomingEpoch = currentEpoch + 1 ∧ parentMatches = true := by
  unfold classifyCheckpointHead
  have next : (incomingEpoch > currentEpoch && incomingEpoch - 1 == currentEpoch) =
      decide (incomingEpoch = currentEpoch + 1) := by
    rw [Bool.eq_iff_iff]
    simp
    omega
  rw [next]
  have late : (if incomingEpoch > currentEpoch then CheckpointHeadDecision.gap else .stale) ≠ .advance := by
    split <;> simp
  by_cases exactNext : incomingEpoch = currentEpoch + 1
  · cases boundaryMatches <;> cases epochKnown <;> cases knownDigestMatches <;> cases parentMatches <;> simp [exactNext]
  · cases boundaryMatches <;> cases epochKnown <;> cases knownDigestMatches <;> simp [exactNext, late]

end ConvergeAudit.Audit
