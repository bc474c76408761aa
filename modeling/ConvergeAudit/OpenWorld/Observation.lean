import ConvergeAudit.OpenWorld.Texts

/-!
`observation.mbt`, the collecting half: a collector marks the observers that signed exactly its encounter, and
certifies once all but `f` of them have.
-/

namespace ConvergeAudit.OpenWorld
open Moon Bft Game Quorum Lib List

structure SignedOpenWorldRegistrationObservation where
  observation : OpenWorldRegistrationObservation
  digest : Digest
  signature : Signature
  signerKey : PublicKey

inductive OpenWorldObservationAlertKind where
  | invalidObserverRoster
  | observationHashMismatch
  | unknownObserver
  | observerSignerKeyMismatch
  | invalidObserverSignature
  | wrongObservationAuditCheckpoint
  | wrongObservationRegistrationIndex
  | wrongObservationEncounterDigest

structure OpenWorldObservationAlert where
  kind : OpenWorldObservationAlertKind
  observerId : Str
  digest : Digest
  detail : Str

inductive OpenWorldObservationDeliveryResult where
  | observationAccepted
  | observationDuplicate
  | observationRejected (alert : OpenWorldObservationAlert)

structure OpenWorldRegistrationObserverCollector where
  hasher : Hasher
  verifier : Verifier
  auditCheckpointDigest : Digest
  observerManifestDigest : Digest
  registrationIndex : ℤ
  encounterDigest : Digest
  observerKeys : Map Str PublicKey
  observerIndices : Map Str ℕ
  approvals : List Bool
  observerCount : ℤ
  maxFaults : ℤ
  rosterValid : Bool

inductive OpenWorldRegistrationObserverCollectorBuildResult where
  | registrationObserverCollectorReady (collector : OpenWorldRegistrationObserverCollector)
  | invalidRegistrationAuditPolicy
  | invalidRegistrationGameManifest
  | invalidRegistrationObserverTarget
  | invalidRegistrationObserverPolicy
  | invalidRegistrationObserverRoster
  | registrationObserverManifestMismatch

structure OpenWorldRegistrationCertificate where
  auditCheckpointDigest : Digest
  observerManifestDigest : Digest
  registrationIndex : ℤ
  encounterDigest : Digest
  observerCount : ℤ
  maxFaults : ℤ
  approvalCount : ℤ
  deriving DecidableEq

inductive OpenWorldRegistrationCertificationResult where
  | registrationObserved (certificate : OpenWorldRegistrationCertificate)
  | registrationObservationPending (approvalCount required : ℤ)
  deriving DecidableEq

def observationRejection (kind : OpenWorldObservationAlertKind) (signed : SignedOpenWorldRegistrationObservation)
    (detail : Str) : OpenWorldObservationDeliveryResult :=
  .observationRejected ⟨kind, signed.observation.observerId, signed.digest, detail⟩

def observerEntries (observers : List Participant) : List (Str × PublicKey) :=
  observers.map fun observer => (observer.id, observer.key)

namespace OpenWorldRegistrationObserverCollector

section
variable (arith : Arithmetic) (collector : OpenWorldRegistrationObserverCollector)
  (signed : SignedOpenWorldRegistrationObservation)

def new [StrOrder] (arith : Arithmetic) (hasher : Hasher) (verifier : Verifier) (auditPlan : VerifiedCheckpoint)
    (gameManifestDigest : Digest) (sampleNumerator sampleDenominator : ℤ) (observers : List Participant)
    (maxFaults registrationIndex : ℤ) (encounterDigest : Digest) : OpenWorldRegistrationObserverCollectorBuildResult :=
  if !auditPolicyValid sampleNumerator sampleDenominator then .invalidRegistrationAuditPolicy
  else if gameManifestDigest.text = Str.empty then .invalidRegistrationGameManifest
  else if registrationIndex < 0 ∨ encounterDigest.text = Str.empty then .invalidRegistrationObserverTarget
  else if !openWorldObserverPolicyValid arith observers.length maxFaults then .invalidRegistrationObserverPolicy
  else
    let roster := enrol true (observerEntries observers)
    if !roster.valid then .invalidRegistrationObserverRoster
    else
      let observerManifestDigest := openWorldObserverManifest hasher observers maxFaults
      if auditPlan.checkpoint.manifestDigest ≠ openWorldAuditManifest hasher gameManifestDigest observerManifestDigest
          sampleNumerator sampleDenominator then
        .registrationObserverManifestMismatch
      else .registrationObserverCollectorReady
        { hasher := hasher
          verifier := verifier
          auditCheckpointDigest := auditPlan.digest
          observerManifestDigest := observerManifestDigest
          registrationIndex := registrationIndex
          encounterDigest := encounterDigest
          observerKeys := roster.keys
          observerIndices := roster.indices
          approvals := List.replicate observers.length false
          observerCount := observers.length
          maxFaults := maxFaults
          rosterValid := roster.valid }

def deliver : OpenWorldRegistrationObserverCollector × OpenWorldObservationDeliveryResult :=
  if !collector.rosterValid then
    (collector, observationRejection .invalidObserverRoster signed "observer roster is ambiguous")
  else if collector.hasher.hashString (serializeOpenWorldRegistrationObservation signed.observation) ≠
      signed.digest then
    (collector, observationRejection .observationHashMismatch signed "observation digest mismatch")
  else if signed.observation.auditCheckpointDigest ≠ collector.auditCheckpointDigest then
    (collector, observationRejection .wrongObservationAuditCheckpoint signed
      "observation targets another audit plan")
  else if signed.observation.registrationIndex ≠ collector.registrationIndex then
    (collector, observationRejection .wrongObservationRegistrationIndex signed
      "observation targets another registration slot")
  else if signed.observation.encounterDigest ≠ collector.encounterDigest then
    (collector, observationRejection .wrongObservationEncounterDigest signed
      "observation targets another encounter digest")
  else match collector.observerIndices.get signed.observation.observerId with
  | none => (collector, observationRejection .unknownObserver signed "observer is absent from the plan roster")
  | some index =>
    match collector.observerKeys.get signed.observation.observerId with
    | none => (collector, observationRejection .invalidObserverRoster signed "observer index has no signing key")
    | some expectedKey =>
      if signed.signerKey ≠ expectedKey then
        (collector, observationRejection .observerSignerKeyMismatch signed
          "observation signer does not own the observer id")
      else if !collector.verifier.verify signed.signerKey signed.digest signed.signature then
        (collector, observationRejection .invalidObserverSignature signed "observer signature is invalid")
      else if collector.approvals.getD index false then (collector, .observationDuplicate)
      else ({ collector with approvals := collector.approvals.set index true }, .observationAccepted)

def deliverAll (delivered : List SignedOpenWorldRegistrationObservation) : OpenWorldRegistrationObserverCollector :=
  delivered.foldl (fun collector signed => (collector.deliver signed).1) collector

def requiredApprovals : ℤ :=
  openWorldObserverQuorumSize arith collector.observerCount collector.maxFaults

def certify : OpenWorldRegistrationCertificationResult :=
  let approvalCount := collector.approvals.foldl (fun count approved => if approved then count + 1 else count) 0
  if !openWorldObserverCertificateAllowed arith collector.observerCount collector.maxFaults approvalCount then
    .registrationObservationPending approvalCount (collector.requiredApprovals arith)
  else .registrationObserved
    { auditCheckpointDigest := collector.auditCheckpointDigest
      observerManifestDigest := collector.observerManifestDigest
      registrationIndex := collector.registrationIndex
      encounterDigest := collector.encounterDigest
      observerCount := collector.observerCount
      maxFaults := collector.maxFaults
      approvalCount := approvalCount }

/-- The roster position that a delivery marks, if it passes every check. -/
def position : Option ℕ :=
  if collector.rosterValid ∧
      collector.hasher.hashString (serializeOpenWorldRegistrationObservation signed.observation) = signed.digest ∧
      signed.observation.auditCheckpointDigest = collector.auditCheckpointDigest ∧
      signed.observation.registrationIndex = collector.registrationIndex ∧
      signed.observation.encounterDigest = collector.encounterDigest ∧
      collector.observerKeys.get signed.observation.observerId = some signed.signerKey ∧
      collector.verifier.verify signed.signerKey signed.digest signed.signature then
    collector.observerIndices.get signed.observation.observerId
  else none

def mark (approvals : List Bool) (positions : List ℕ) : List Bool :=
  positions.foldl (fun approvals index => approvals.set index true) approvals

end

theorem getElem?_mark (approvals : List Bool) (positions : List ℕ) (index : ℕ) :
    (mark approvals positions)[index]? = some true ↔
      approvals[index]? = some true ∨ index ∈ positions ∧ index < approvals.length := by
  induction positions generalizing approvals with
  | nil => simp [mark]
  | cons position rest ih =>
    refine (ih _).trans ?_
    by_cases here : position = index
    · subst here
      by_cases inside : position < approvals.length <;> simp [inside]
    · have elsewhere : index ≠ position := fun same => here same.symm
      simp [here, elsewhere]

theorem set_of_getD {approvals : List Bool} (marked : approvals.getD index false = true) :
    approvals.set index true = approvals := by
  have absorbed : approvals.set index true = JoinTable.absorb approvals (index, true) := by
    simpa using JoinTable.set_sup_eq_absorb approvals index true
  rw [absorbed]
  exact JoinTable.absorb_of_le (le_of_eq marked.symm)

/-- Every delivery marks at most one position, and touches nothing else. -/
theorem deliver_eq (collector : OpenWorldRegistrationObserverCollector)
    (signed : SignedOpenWorldRegistrationObservation) :
    (collector.deliver signed).1 =
      { collector with approvals := mark collector.approvals (collector.position signed).toList } := by
  unfold position
  split
  · rename_i passed
    obtain ⟨valid, hashed, samePlan, sameSlot, sameEncounter, keyFound, signature⟩ := passed
    unfold deliver
    rw [if_neg (by simp [valid]), if_neg (not_not.mpr hashed), if_neg (not_not.mpr samePlan),
      if_neg (not_not.mpr sameSlot), if_neg (not_not.mpr sameEncounter)]
    cases collector.observerIndices.get signed.observation.observerId with
    | none => rfl
    | some index =>
      simp only [keyFound, signature, not_true_eq_false, ne_eq, Bool.not_true, Bool.false_eq_true, if_false,
        Option.toList_some, mark, foldl_cons, foldl_nil]
      split
      · rename_i marked
        rw [set_of_getD marked]
      · rfl
  · rename_i refused
    unfold deliver
    iterate 9 (split; · rfl)
    rename_i valid hashed samePlan sameSlot sameEncounter _ _ _ _ _ keyFound sameKey signature
    rw [Bool.not_not_eq] at valid signature
    rw [ne_eq, not_not] at hashed samePlan sameSlot sameEncounter sameKey
    exact absurd ⟨valid, hashed, samePlan, sameSlot, sameEncounter, sameKey ▸ keyFound, signature⟩ refused

theorem deliverAll_eq (collector : OpenWorldRegistrationObserverCollector)
    (delivered : List SignedOpenWorldRegistrationObservation) :
    collector.deliverAll delivered =
      { collector with approvals := mark collector.approvals (delivered.filterMap collector.position) } := by
  induction delivered generalizing collector with
  | nil => rfl
  | cons signed rest ih =>
    have same : (collector.deliver signed).1.position = collector.position := by
      rw [deliver_eq]
      rfl
    rw [deliverAll, foldl_cons]
    refine (ih _).trans ?_
    rw [same, deliver_eq]
    cases found : collector.position signed <;> simp [found, mark]

end OpenWorldRegistrationObserverCollector

structure Registration where
  gameManifestDigest : Digest
  sampleNumerator : ℤ
  sampleDenominator : ℤ
  observers : List Participant
  maxFaults : ℤ
  registrationIndex : ℤ
  encounterDigest : Digest

def CommitsObservers [StrOrder] (hasher : Hasher) (plan : VerifiedCheckpoint) (observers : List Participant)
    (maxFaults : ℤ) : Prop :=
  ∃ gameManifestDigest sampleNumerator sampleDenominator, plan.checkpoint.manifestDigest =
    openWorldAuditManifest hasher gameManifestDigest (openWorldObserverManifest hasher observers maxFaults)
      sampleNumerator sampleDenominator

open OpenWorld renaming OpenWorldRegistrationObserverCollector → Collector

/-- A signed observation of `observer` for a slot of a plan. -/
structure SignedOpenWorldRegistrationObservation.Authentic (hasher : Hasher) (verifier : Verifier)
    (auditCheckpointDigest : Digest) (registrationIndex : ℤ) (encounterDigest : Digest) (observer : Participant)
    (signed : SignedOpenWorldRegistrationObservation) : Prop where
  digest : hasher.hashString (serializeOpenWorldRegistrationObservation signed.observation) = signed.digest
  signature : verifier.verify observer.key signed.digest signed.signature = true
  signerKey : signed.signerKey = observer.key
  observation : signed.observation = ⟨auditCheckpointDigest, observer.id, registrationIndex, encounterDigest⟩

namespace Registration

open Classical in
/-- The observers of the roster with an authentic observation among the delivered ones. -/
noncomputable def registrants (registration : Registration) (hasher : Hasher) (verifier : Verifier)
    (plan : VerifiedCheckpoint) (delivered : List SignedOpenWorldRegistrationObservation) : Finset Participant :=
  registration.observers.toFinset.filter fun observer =>
    ∃ signed ∈ delivered, signed.Authentic hasher verifier plan.digest registration.registrationIndex
      registration.encounterDigest observer

variable [StrOrder] {registration : Registration}

omit [StrOrder] in
theorem mem_registrants :
    observer ∈ registration.registrants hasher verifier plan delivered ↔
      observer ∈ registration.observers ∧ ∃ signed ∈ delivered, signed.Authentic hasher verifier plan.digest
        registration.registrationIndex registration.encounterDigest observer := by
  simp [registrants]

section
variable (registration : Registration) (arith : Arithmetic) (hasher : Hasher) (verifier : Verifier)
  (plan : VerifiedCheckpoint)

def collector : OpenWorldRegistrationObserverCollectorBuildResult :=
  Collector.new arith hasher verifier plan registration.gameManifestDigest
    registration.sampleNumerator registration.sampleDenominator registration.observers registration.maxFaults
    registration.registrationIndex registration.encounterDigest

/-- A collector for the registration was built, and certified after a run of deliveries. -/
def Certifies (delivered : List SignedOpenWorldRegistrationObservation)
    (certificate : OpenWorldRegistrationCertificate) : Prop :=
  ∃ collector, registration.collector arith hasher verifier plan = .registrationObserverCollectorReady collector ∧
    (collector.deliverAll delivered).certify arith = .registrationObserved certificate

def blank : Collector where
  hasher := hasher
  verifier := verifier
  auditCheckpointDigest := plan.digest
  observerManifestDigest := openWorldObserverManifest hasher registration.observers registration.maxFaults
  registrationIndex := registration.registrationIndex
  encounterDigest := registration.encounterDigest
  observerKeys := (enrol true (observerEntries registration.observers)).keys
  observerIndices := (enrol true (observerEntries registration.observers)).indices
  approvals := List.replicate registration.observers.length false
  observerCount := registration.observers.length
  maxFaults := registration.maxFaults
  rosterValid := (enrol true (observerEntries registration.observers)).valid

def Admissible : Prop :=
  auditPolicyValid registration.sampleNumerator registration.sampleDenominator = true ∧
  registration.gameManifestDigest.text ≠ Str.empty ∧
  (0 ≤ registration.registrationIndex ∧ registration.encounterDigest.text ≠ Str.empty) ∧
  openWorldObserverPolicyValid arith registration.observers.length registration.maxFaults = true ∧
  (enrol true (observerEntries registration.observers)).valid = true ∧
  plan.checkpoint.manifestDigest = openWorldAuditManifest hasher registration.gameManifestDigest
    (openWorldObserverManifest hasher registration.observers registration.maxFaults) registration.sampleNumerator
    registration.sampleDenominator

instance : Decidable (registration.Admissible arith hasher plan) := by
  unfold Admissible
  infer_instance

end

theorem collector_ready_iff {collector : Collector} :
    registration.collector arith hasher verifier plan = .registrationObserverCollectorReady collector ↔
      registration.Admissible arith hasher plan ∧ collector = registration.blank hasher verifier plan := by
  unfold Registration.collector Collector.new Registration.Admissible
  simp (disch := simp) only [passes, not_or, Int.not_lt, ne_eq, not_not, Bool.not_not_eq, and_assoc,
    OpenWorldRegistrationObserverCollectorBuildResult.registrationObserverCollectorReady.injEq, @eq_comm _ collector]
  rfl

theorem Admissible.sound (admissible : registration.Admissible arith hasher plan) :
    SoundRoster (observerEntries registration.observers) ∧
      CommitsObservers hasher plan registration.observers registration.maxFaults := by
  obtain ⟨_, _, _, _, roster, committed⟩ := admissible
  exact ⟨((enrol_reads true _).valid_iff.mp roster).2, _, _, _, committed⟩

theorem certifies_iff :
    registration.Certifies arith hasher verifier plan delivered certificate ↔
      registration.Admissible arith hasher plan ∧
        ((registration.blank hasher verifier plan).deliverAll delivered).certify arith =
          .registrationObserved certificate := by
  constructor
  · rintro ⟨collector, built, certified⟩
    obtain ⟨admissible, rfl⟩ := collector_ready_iff.mp built
    exact ⟨admissible, certified⟩
  · rintro ⟨admissible, certified⟩
    exact ⟨_, collector_ready_iff.mpr ⟨admissible, rfl⟩, certified⟩

instance {certificate : OpenWorldRegistrationCertificate} :
    Decidable (registration.Certifies arith hasher verifier plan delivered certificate) :=
  decidable_of_iff _ certifies_iff.symm

/-- The positions that deliveries mark are those of observers with an authentic observation. -/
theorem position_blank (sound : SoundRoster (observerEntries registration.observers))
    (marked : (registration.blank hasher verifier plan).position signed = some index) :
    ∃ observer, registration.observers[index]? = some observer ∧ signed.Authentic hasher verifier plan.digest
      registration.registrationIndex registration.encounterDigest observer := by
  unfold Collector.position at marked
  split at marked
  · rename_i passed
    obtain ⟨_, hashed, samePlan, sameSlot, sameEncounter, keyFound, signature⟩ := passed
    have lookup := ((enrol_reads true (observerEntries registration.observers)).lists sound).lookup_iff sound
      signed.observation.observerId index signed.signerKey
    have entry := lookup.mp ⟨marked, keyFound⟩
    rw [observerEntries, getElem?_map] at entry
    obtain ⟨observer, found, same⟩ := Option.map_eq_some_iff.mp entry
    obtain ⟨sameId, sameKey⟩ := Prod.mk.inj same
    refine ⟨observer, found, hashed, ?_, sameKey.symm, ?_⟩
    · rw [sameKey]
      exact signature
    · dsimp only [blank] at samePlan sameSlot sameEncounter
      rw [sameId, ← samePlan, ← sameSlot, ← sameEncounter]
  · cases marked

omit [StrOrder] in
theorem observers_nodup (sound : SoundRoster (observerEntries registration.observers)) :
    registration.observers.Nodup := by
  have ids := sound.ids_nodup
  rw [observerEntries, map_map] at ids
  exact ids.of_map

/-- What a certificate says and what it rests on, whatever was delivered before it. -/
theorem Certifies.rests_on (certifies : registration.Certifies arith hasher verifier plan delivered certificate) :
    SoundRoster (observerEntries registration.observers) ∧
      CommitsObservers hasher plan registration.observers registration.maxFaults ∧
      certificate.registrationIndex = registration.registrationIndex ∧
      certificate.encounterDigest = registration.encounterDigest ∧
      faultCertificateAllowed arith registration.observers.length registration.maxFaults
        certificate.approvalCount = true ∧
      certificate.approvalCount ≤ (registration.registrants hasher verifier plan delivered).card := by
  obtain ⟨admissible, certified⟩ := certifies_iff.mp certifies
  obtain ⟨sound, commits⟩ := admissible.sound
  rw [Collector.deliverAll_eq] at certified
  unfold Collector.certify at certified
  dsimp only at certified
  split at certified
  · cases certified
  rename_i allowed
  obtain rfl := OpenWorldRegistrationCertificationResult.registrationObserved.inj certified
  rw [Bool.not_not_eq] at allowed
  refine ⟨sound, commits, rfl, rfl, allowed, ?_⟩
  refine le_of_eq_of_le (countApprovals_eq _) (Int.ofNat_le.mpr ?_)
  apply Lib.count_marks_le_card (observers_nodup sound)
  intro index found
  rw [Collector.getElem?_mark] at found
  rcases found with initial | ⟨marked, _⟩
  · simp [blank, getElem?_replicate] at initial
  · obtain ⟨signed, given, position⟩ := mem_filterMap.mp marked
    obtain ⟨observer, present, authentic⟩ := position_blank sound position
    exact ⟨observer, mem_registrants.mpr ⟨mem_of_getElem? present, signed, given, authentic⟩, present⟩

end Registration

end ConvergeAudit.OpenWorld
