import ConvergeAudit.Moon.Arithmetic

/-!
Rosters of more than `3 f` members certify with `n - f` approvals.
-/

namespace ConvergeAudit.Game
open Moon

section
variable (arith : Arithmetic) (memberCount maxFaults : ℤ)

def faultPolicyValid : Bool := maxFaults ≥ 0 && memberCount > arith.mul 3 maxFaults

def faultQuorumSize : ℤ := arith.sub memberCount maxFaults

def faultCertificateAllowed (approvalCount : ℤ) : Bool :=
  maxFaults ≥ 0 && memberCount > arith.mul 3 maxFaults && approvalCount ≥ arith.sub memberCount maxFaults &&
    approvalCount ≤ memberCount

end

section
variable (arith : Arithmetic) (witnessCount observerCount maxFaults : ℤ)

def replayWitnessPolicyValid : Bool :=
  faultPolicyValid arith witnessCount maxFaults

def replayWitnessQuorumSize : ℤ :=
  faultQuorumSize arith witnessCount maxFaults

def replayWitnessCertificateAllowed (approvalCount : ℤ) : Bool :=
  faultCertificateAllowed arith witnessCount maxFaults approvalCount

def openWorldObserverPolicyValid : Bool :=
  faultPolicyValid arith observerCount maxFaults

def openWorldObserverQuorumSize : ℤ :=
  faultQuorumSize arith observerCount maxFaults

def openWorldObserverCertificateAllowed (approvalCount : ℤ) : Bool :=
  faultCertificateAllowed arith observerCount maxFaults approvalCount

end

theorem faultCertificateAllowed_iff :
    faultCertificateAllowed arith memberCount maxFaults approvalCount = true ↔
      0 ≤ maxFaults ∧ arith.mul 3 maxFaults < memberCount ∧ arith.sub memberCount maxFaults ≤ approvalCount ∧
        approvalCount ≤ memberCount := by
  simp only [faultCertificateAllowed, Bool.and_eq_true, decide_eq_true_eq, and_assoc, ge_iff_le, gt_iff_lt]

theorem faultCertificateAllowed_unbounded
    (allowed : faultCertificateAllowed .unbounded memberCount maxFaults approvalCount = true) :
    0 ≤ maxFaults ∧ 3 * maxFaults < memberCount ∧ memberCount - maxFaults ≤ approvalCount := by
  rw [faultCertificateAllowed_iff, Arithmetic.unbounded_mul, Arithmetic.unbounded_sub] at allowed
  omega

/-- The largest fault bound whose threefold is an `Int`. -/
def largestSafeFaults : ℤ := 715827882

end ConvergeAudit.Game
