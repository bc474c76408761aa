import ConvergeAudit.OpenWorld.Signing

/-!
Two certificates for one slot of a plan name the same encounter, as long as the faulty observers keep to the bound.
-/

namespace ConvergeAudit.OpenWorld
open Moon Bft Game Quorum Lib List SigningHost OpenWorldInMemoryObserverSigningStore

section

theorem SignsThroughLedgers.agree (collisionFree : hasher.CollisionFree)
    (signs : SignsThroughLedgers hasher verifier observer.key) {left right : SignedOpenWorldRegistrationObservation}
    (leftAuthentic : left.Authentic hasher verifier plan index leftDigest observer)
    (rightAuthentic : right.Authentic hasher verifier plan index rightDigest observer) : leftDigest = rightDigest := by
  obtain ⟨σ, store, recording, start, calls, issued⟩ := signs
  -- what was delivered is what the ledger handed out, because the digests are the same
  have source : ∀ {digest : Digest} {signed : SignedOpenWorldRegistrationObservation},
      signed.Authentic hasher verifier plan index digest observer →
      ∃ time emitted, emission store hasher start calls time = some emitted ∧
        emitted.observation = ⟨plan, observer.id, index, digest⟩ := by
    intro digest signed authentic
    obtain ⟨time, emitted, handedOut, sameDigest, _⟩ := issued _ _ authentic.signature
    refine ⟨time, emitted, handedOut, ?_⟩
    have hashed := (emission_recorded recording handedOut).1
    rw [sameDigest, ← authentic.digest] at hashed
    have same := serializeOpenWorldRegistrationObservation_injective (collisionFree hashed)
    rw [← same, authentic.observation]
  obtain ⟨leftTime, leftEmitted, leftHandedOut, leftSame⟩ := source leftAuthentic
  obtain ⟨rightTime, rightEmitted, rightHandedOut, rightSame⟩ := source rightAuthentic
  have leftRecord := (emission_recorded recording leftHandedOut).2
  have rightRecord := (emission_recorded recording rightHandedOut).2
  rw [leftSame] at leftRecord
  rw [rightSame] at rightRecord
  have leftKept := after_recorded recording (Nat.le_max_left (leftTime + 1) (rightTime + 1)) leftRecord
  have rightKept := after_recorded recording (Nat.le_max_right (leftTime + 1) (rightTime + 1)) rightRecord
  exact Option.some.inj (leftKept.symm.trans rightKept)

variable [StrOrder]

theorem CommitsObservers.unique (collisionFree : hasher.CollisionFree)
    (left : CommitsObservers hasher plan observers maxFaults)
    (right : CommitsObservers hasher plan others otherFaults) : observers.Perm others ∧ maxFaults = otherFaults := by
  obtain ⟨_, _, _, leftManifest⟩ := left
  obtain ⟨_, _, _, rightManifest⟩ := right
  have texts := foldl_appendField_inj (collisionFree (leftManifest.symm.trans rightManifest))
  simp only [cons.injEq, true_and, and_true] at texts
  exact openWorldObserverManifest_inj collisionFree (congrArg Digest.mk texts.2.1)

/-- Certificates for one slot of a plan agree, whatever rosters, fault bounds and deliveries they come from. -/
theorem registration_certificates_agree (collisionFree : hasher.CollisionFree) (verifier : Verifier)
    (plan : VerifiedCheckpoint) (faulty : Participant → Bool)
    (budget : ∀ observers maxFaults, CommitsObservers hasher plan observers maxFaults →
      (observers.filter faulty).length ≤ maxFaults)
    (correct : ∀ observers maxFaults, CommitsObservers hasher plan observers maxFaults →
      ∀ observer ∈ observers, faulty observer = false → SignsThroughLedgers hasher verifier observer.key)
    (left right : Registration) (leftDelivered rightDelivered : List SignedOpenWorldRegistrationObservation)
    (leftCertificate rightCertificate : OpenWorldRegistrationCertificate)
    (leftCertifies : left.Certifies .unbounded hasher verifier plan leftDelivered leftCertificate)
    (rightCertifies : right.Certifies .unbounded hasher verifier plan rightDelivered rightCertificate)
    (sameSlot : leftCertificate.registrationIndex = rightCertificate.registrationIndex) :
    leftCertificate.encounterDigest = rightCertificate.encounterDigest := by
  obtain ⟨leftSound, leftCommits, leftSlot, leftEncounter, leftAllowed, leftCounted⟩ := leftCertifies.rests_on
  obtain ⟨_, rightCommits, rightSlot, rightEncounter, rightAllowed, rightCounted⟩ := rightCertifies.rests_on
  obtain ⟨sameRoster, sameFaults⟩ := leftCommits.unique collisionFree rightCommits
  obtain ⟨_, enough, leftQuorum⟩ := faultCertificateAllowed_unbounded leftAllowed
  obtain ⟨_, _, rightQuorum⟩ := faultCertificateAllowed_unbounded rightAllowed
  rw [← sameFaults, ← sameRoster.length_eq] at rightQuorum
  have size := toFinset_card_of_nodup (Registration.observers_nodup leftSound)
  have few := le_trans (Int.ofNat_le.mpr (toFinset_card_le _)) (budget _ _ leftCommits)
  -- both quorums are among the members of one roster
  have leftMembers : left.registrants hasher verifier plan leftDelivered ⊆ left.observers.toFinset := by
    intro observer registered
    exact mem_toFinset.mpr (Registration.mem_registrants.mp registered).1
  have rightMembers : right.registrants hasher verifier plan rightDelivered ⊆ left.observers.toFinset := by
    intro observer registered
    exact mem_toFinset.mpr (sameRoster.mem_iff.mpr (Registration.mem_registrants.mp registered).1)
  obtain ⟨observer, inBoth, honest⟩ := exists_correct_in_both leftMembers rightMembers
    (by omega) few (by omega) (by omega)
  obtain ⟨inLeft, inRight⟩ := Finset.mem_inter.mp inBoth
  obtain ⟨member, leftSigned, _, leftAuthentic⟩ := Registration.mem_registrants.mp inLeft
  obtain ⟨_, rightSigned, _, rightAuthentic⟩ := Registration.mem_registrants.mp inRight
  have notFaulty : faulty observer = false := by
    rw [Bool.eq_false_iff]
    intro isFaulty
    exact honest (mem_toFinset.mpr (mem_filter.mpr ⟨member, isFaulty⟩))
  have signs := correct _ _ leftCommits observer member notFaulty
  rw [leftSlot, rightSlot] at sameSlot
  rw [← sameSlot] at rightAuthentic
  rw [leftEncounter, rightEncounter]
  exact signs.agree collisionFree leftAuthentic rightAuthentic

end

section
open Shortlex

namespace Sample

def observers : List Participant := [⟨"a", ⟨"a"⟩⟩, ⟨"b", ⟨"b"⟩⟩, ⟨"c", ⟨"c"⟩⟩, ⟨"d", ⟨"d"⟩⟩]

def signer (name : Str) : Signer := ⟨fun _ => ⟨name⟩, ⟨name⟩⟩

def signedManifest (manifestDigest : Digest) : SignedCheckpoint :=
  signCheckpoint .identity (signer "authority")
    { sessionId := "w"
      epoch := 4
      previousCheckpoint := ⟨"p"⟩
      manifestDigest := manifestDigest
      eventRoot := ⟨"e"⟩
      publicStateRoot := ⟨"s"⟩
      assetDeltaRoot := ⟨"a"⟩
      hiddenStateCommitment := none }

def plan (maxFaults : ℤ) : VerifiedCheckpoint :=
  ⟨signedManifest (openWorldAuditManifest .identity ⟨"game"⟩ (openWorldObserverManifest .identity observers maxFaults)
    1 2)⟩

def registration (maxFaults : ℤ) : Registration := ⟨⟨"game"⟩, 1, 2, observers, maxFaults, 0, ⟨"encounter"⟩⟩

def certificate (maxFaults approvalCount : ℤ) : OpenWorldRegistrationCertificate :=
  ⟨(plan maxFaults).digest, openWorldObserverManifest .identity observers maxFaults, 0, ⟨"encounter"⟩, 4, maxFaults,
    approvalCount⟩

def observation (name : Str) : SignedOpenWorldRegistrationObservation :=
  signOpenWorldRegistrationObservation .identity (signer name) (plan 1).digest name 0 ⟨"encounter"⟩

/-- Every signature passes under the key of `d`, and under the other keys only the one over `observation`. -/
def verifier : Verifier where
  verify key digest signature := key.text = "d" ∨ signature = ⟨key.text⟩ ∧ digest = (observation key.text).digest

def calls (name : Str) : ℕ → SigningCall
  | 0 => .openLedger (signer name) name none
  | _ + 1 => .signRegistration 0 (plan 1).digest 0 ⟨"encounter"⟩

theorem emission_calls (named : name ≠ Str.empty) :
    emission store .identity (.new .identity) (calls name) 1 =
      some (observation name) := by
  have valid : ((plan 1).digest.text != Str.empty && decide ((0 : ℤ) ≥ 0) && lit "encounter" != Str.empty) = true := by
    decide +kernel
  have opened : SigningHost.after store .identity (.new .identity) (calls name) 1 =
      ⟨.new .identity, [⟨.identity, signer name, name, ⟨name⟩⟩]⟩ := by
    simp [SigningHost.after, SigningHost.step, calls, buildOpenWorldObserverSigningLedger, signer, named]
  unfold emission
  rw [opened]
  rfl

theorem signsThroughLedgers (named : name ≠ Str.empty) (correct : name ≠ "d") :
    SignsThroughLedgers .identity verifier ⟨name⟩ := by
  refine ⟨_, _, appendOnly, .new .identity, calls name, ?_⟩
  intro digest signature verified
  rcases of_decide_eq_true verified with faulty | ⟨sameSignature, sameDigest⟩
  · exact absurd faulty correct
  · exact ⟨1, observation name, emission_calls named, sameDigest.symm, sameSignature.symm⟩

theorem perm_of_commits (commits : CommitsObservers .identity (plan 1) others maxFaults) :
    others.Perm observers ∧ maxFaults = 1 :=
  commits.unique Hasher.identity_collisionFree ⟨⟨"game"⟩, 1, 2, rfl⟩

end Sample

open Sample in
theorem registration_certificates_agree_sample :
    (registration 1).Certifies .unbounded .identity verifier (plan 1)
      [observation "a", observation "b", observation "c"] (certificate 1 3) ∧
    (registration 1).Certifies .unbounded .identity verifier (plan 1)
      [observation "d", observation "c", observation "b", observation "a"] (certificate 1 4) ∧
    (certificate 1 3).encounterDigest = (certificate 1 4).encounterDigest := by
  have both : (registration 1).Certifies .unbounded .identity verifier (plan 1)
        [observation "a", observation "b", observation "c"] (certificate 1 3) ∧
      (registration 1).Certifies .unbounded .identity verifier (plan 1)
        [observation "d", observation "c", observation "b", observation "a"] (certificate 1 4) := by
    decide +kernel
  obtain ⟨left, right⟩ := both
  refine ⟨left, right, ?_⟩
  apply registration_certificates_agree Hasher.identity_collisionFree verifier (plan 1)
    (fun observer => observer.id = "d") ?_ ?_ _ _ _ _ _ _ left right rfl
  · intro others maxFaults commits
    obtain ⟨perm, rfl⟩ := perm_of_commits commits
    rw [(perm.filter _).length_eq]
    decide +kernel
  · intro others maxFaults commits observer member correct
    have listed := (perm_of_commits commits).1.mem_iff.mp member
    simp only [observers, mem_cons, not_mem_nil, or_false] at listed
    rcases listed with rfl | rfl | rfl | rfl
    · exact signsThroughLedgers (by decide) (by decide)
    · exact signsThroughLedgers (by decide) (by decide)
    · exact signsThroughLedgers (by decide) (by decide)
    · exact absurd correct (by decide)

end

/-- The approvals of all but `maxFaults` of the members, where fewer than a third of them are faulty. -/
structure ByzantineQuorum (memberCount maxFaults : ℤ) (approvals : ℕ) : Prop where
  nonneg : 0 ≤ maxFaults
  enough : 3 * maxFaults < memberCount
  quorum : memberCount - maxFaults ≤ approvals
  majority : 2 * maxFaults + 1 ≤ approvals
  some_approval : approvals ≠ 0

/-- What the gate of both certificates leaves open: the product `3 * maxFaults` may have wrapped. -/
theorem byzantineQuorum_iff {memberCount approvals : ℕ} (countBound : memberCount < 2 ^ 31)
    (faultsBound : maxFaults < 2 ^ 31)
    (allowed : faultCertificateAllowed .int32 memberCount maxFaults approvalCount = true)
    (counted : approvalCount ≤ approvals) :
    ByzantineQuorum memberCount maxFaults approvals ↔ maxFaults ≤ largestSafeFaults := by
  obtain ⟨nonneg, above, quorum, _⟩ := faultCertificateAllowed_iff.mp allowed
  have difference : Arithmetic.int32.sub memberCount maxFaults = memberCount - maxFaults :=
    Arithmetic.int32_wrap_eq (by omega) (by omega)
  unfold largestSafeFaults
  constructor
  · intro byzantine
    have enough := byzantine.enough
    omega
  · intro safe
    have product : Arithmetic.int32.mul 3 maxFaults = 3 * maxFaults :=
      Arithmetic.int32_wrap_eq (by omega) (by omega)
    exact ⟨nonneg, by omega, by omega, by omega, by omega⟩

/-- Both kinds of certificates stand for a quorum exactly up to the largest bound whose threefold is an `Int`. -/
theorem certificates_stand_for_quorums_iff [StrOrder] (hasher : Hasher) (verifier : Verifier) (maxFaults : ℤ)
    (faultsBound : -2 ^ 31 ≤ maxFaults ∧ maxFaults < 2 ^ 31) :
    (∀ checkpoint gameManifestDigest refereeKey witnesses collector delivered verified certificate,
      witnesses.length < 2 ^ 31 →
      ReplayWitnessCollector.new .int32 hasher verifier checkpoint gameManifestDigest refereeKey witnesses maxFaults =
        .witnessCollectorReady collector →
      (collector.deliverAll delivered).certify .int32 verified = .witnessCertified certificate →
      (ByzantineQuorum witnesses.length maxFaults
          (approvers hasher verifier checkpoint.digest witnesses .replayWitness delivered).card ↔
        maxFaults ≤ largestSafeFaults)) ∧
    (∀ (registration : Registration) plan delivered certificate,
      registration.observers.length < 2 ^ 31 → registration.maxFaults = maxFaults →
      registration.Certifies .int32 hasher verifier plan delivered certificate →
      (ByzantineQuorum registration.observers.length maxFaults
          (registration.registrants hasher verifier plan delivered).card ↔
        maxFaults ≤ largestSafeFaults)) := by
  constructor
  · intro checkpoint gameManifestDigest refereeKey witnesses collector delivered verified certificate bound built
      certified
    obtain ⟨⟨_, _, roster, _⟩, rfl⟩ := ReplayWitnessCollector.new_ready_iff.mp built
    have valid : (attestationPoll hasher verifier checkpoint.digest witnesses .replayWitness).Valid :=
      Poll.rosterValid_iff.mp roster
    rw [ReplayWitnessCollector.deliverAll_eq, ReplayWitnessCollector.certify] at certified
    simp (disch := simp) only [Lib.passes, Bool.not_not_eq] at certified
    obtain ⟨_, _, allowed, certified⟩ := certified
    cases certified
    refine byzantineQuorum_iff bound faultsBound.2 allowed ?_
    have approvals := countApprovals_le_approvers valid delivered
    rw [EvidenceCollector.evidence, EvidenceCollector.inner_deliverAll]
    exact approvals
  · intro registration plan delivered certificate bound same certifies
    obtain ⟨_, _, _, _, allowed, counted⟩ := certifies.rests_on
    rw [same] at allowed
    exact byzantineQuorum_iff bound faultsBound.2 allowed counted

section
open Shortlex Sample

namespace Sample

def lenient : Verifier := ⟨fun _ _ _ => true⟩

def session (maxFaults : ℤ) : SignedCheckpoint :=
  signedManifest (replayWitnessSessionManifest .identity ⟨"game"⟩ ⟨"authority"⟩ observers maxFaults)

def wrapping : ℤ := 715827883

end Sample

theorem certificates_stand_for_quorums_sample :
    (registration 1).Certifies .int32 .identity verifier (plan 1)
      [observation "a", observation "b", observation "c"] (certificate 1 3) ∧
    ByzantineQuorum 4 1 ((registration 1).registrants .identity verifier (plan 1)
      [observation "a", observation "b", observation "c"]).card := by
  have certifies : (registration 1).Certifies .int32 .identity verifier (plan 1)
      [observation "a", observation "b", observation "c"] (certificate 1 3) := by decide +kernel
  have both := certificates_stand_for_quorums_iff .identity verifier 1 (by decide)
  exact ⟨certifies, (both.2 _ _ _ _ (by decide) rfl certifies).mpr (by decide)⟩

/-- With a bound whose threefold wraps below zero, rosters of four certify although nobody has signed. -/
theorem wrapping_bound_certifies_without_approval :
    openCheckpoint .identity lenient ⟨"authority"⟩ (session wrapping) = .opened ⟨session wrapping⟩ ∧
    openCheckpoint .identity lenient ⟨"authority"⟩ (plan wrapping).signed = .opened (plan wrapping) ∧
    (∃ collector,
      ReplayWitnessCollector.new .int32 .identity lenient (prepareCheckpoint .identity (session wrapping).checkpoint)
        ⟨"game"⟩ ⟨"authority"⟩ observers wrapping = .witnessCollectorReady collector ∧
      (collector.deliverAll []).certify .int32 ⟨session wrapping⟩ =
        .witnessCertified ⟨(session wrapping).digest, ⟨"authority"⟩, 4, wrapping, 0⟩) ∧
    (approvers .identity lenient (prepareCheckpoint .identity (session wrapping).checkpoint).digest observers
      .replayWitness []).card = 0 ∧
    (registration wrapping).Certifies .int32 .identity lenient (plan wrapping) [] (certificate wrapping 0) ∧
    ((registration wrapping).registrants .identity lenient (plan wrapping) []).card = 0 := by
  refine ⟨by decide +kernel, by decide +kernel, ?_, by simp [approvers], by decide +kernel,
    by simp [Registration.registrants]⟩
  exact ⟨_, ReplayWitnessCollector.new_ready_iff.mpr ⟨by decide +kernel, rfl⟩, by decide +kernel⟩

end

end ConvergeAudit.OpenWorld
