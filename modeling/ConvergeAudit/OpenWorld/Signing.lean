import ConvergeAudit.OpenWorld.Observation
import ConvergeAudit.AuthMap.Model

/-!
`observation.mbt`, the signing half, and `signing_store.mbt`: a ledger reserves a slot in a store before it signs. Any
number of ledgers may work over one store.
-/

namespace ConvergeAudit.OpenWorld
open Moon Bft Game AuthMap

inductive OpenWorldObserverSigningReservation where
  | signingSlotReserved
  | signingSlotAlreadyReserved (digest : Digest)
  | signingStoreUnavailable

structure OpenWorldObserverSigningStoreSnapshot where
  root : Digest
  size : ℤ

structure OpenWorldObserverSigningStore (σ : Type) where
  reserve : σ → Str → Digest → σ × OpenWorldObserverSigningReservation
  snapshot : σ → OpenWorldObserverSigningStoreSnapshot

structure OpenWorldInMemoryObserverSigningStore where
  records : Map Str Digest
  commitment : AuthenticatedMap

namespace OpenWorldInMemoryObserverSigningStore

def new (hasher : Hasher) : OpenWorldInMemoryObserverSigningStore := ⟨.empty, .new hasher⟩

def reserve [StrOrder] (self : OpenWorldInMemoryObserverSigningStore) (key : Str) (encounterDigest : Digest) :
    OpenWorldInMemoryObserverSigningStore × OpenWorldObserverSigningReservation :=
  match self.records.get key with
  | some previous => (self, .signingSlotAlreadyReserved previous)
  | none =>
    (⟨self.records.set key encounterDigest, (self.commitment.put key encounterDigest.text).1⟩, .signingSlotReserved)

def snapshot (self : OpenWorldInMemoryObserverSigningStore) : OpenWorldObserverSigningStoreSnapshot :=
  ⟨self.commitment.root, self.commitment.size⟩

def store [StrOrder] : OpenWorldObserverSigningStore OpenWorldInMemoryObserverSigningStore := ⟨reserve, snapshot⟩

end OpenWorldInMemoryObserverSigningStore

/-- What the trait asks of an implementation: a record is never lost, and answers are given by the records. -/
structure OpenWorldObserverSigningStore.AppendOnly {σ : Type} (store : OpenWorldObserverSigningStore σ) where
  recorded : σ → Str → Option Digest
  kept : ∀ state key digest other value, recorded state other = some value →
    recorded (store.reserve state key digest).1 other = some value
  reserved : ∀ state key digest, (store.reserve state key digest).2 = .signingSlotReserved →
    recorded (store.reserve state key digest).1 key = some digest
  alreadyReserved : ∀ state key digest previous,
    (store.reserve state key digest).2 = .signingSlotAlreadyReserved previous →
    recorded (store.reserve state key digest).1 key = some previous

/-- The reference store is append-only, whatever its commitment holds. -/
def OpenWorldInMemoryObserverSigningStore.appendOnly [StrOrder] :
    OpenWorldInMemoryObserverSigningStore.store.AppendOnly where
  recorded state key := state.records.get key
  kept state key digest other value found := by
    dsimp only [store, reserve]
    cases known : state.records.get key with
    | some previous => exact found
    | none =>
      have different : other ≠ key := by
        rintro rfl
        rw [found] at known
        cases known
      dsimp only
      rw [Map.get_set_other _ _ different, found]
  reserved state key digest answered := by
    dsimp only [store, reserve] at answered ⊢
    cases known : state.records.get key with
    | some previous =>
      rw [known] at answered
      cases answered
    | none => exact Map.get_set_self _ _ _
  alreadyReserved state key digest previous answered := by
    dsimp only [store, reserve] at answered ⊢
    cases known : state.records.get key with
    | some found =>
      rw [known] at answered
      obtain rfl := OpenWorldObserverSigningReservation.signingSlotAlreadyReserved.inj answered
      exact known
    | none =>
      rw [known] at answered
      cases answered

structure OpenWorldObserverSigningAnchor where
  observerId : Str
  signerKey : PublicKey
  root : Digest
  size : ℤ
  deriving DecidableEq

/-- A ledger; the state of its store is passed beside it. -/
structure OpenWorldObserverSigningLedger where
  hasher : Hasher
  signer : Signer
  observerId : Str
  signerKey : PublicKey

inductive OpenWorldObserverSigningLedgerBuildResult where
  | observerSigningLedgerReady (ledger : OpenWorldObserverSigningLedger)
  | invalidObserverSigningIdentity
  | observerSigningStoreAnchorMismatch

inductive OpenWorldObserverSigningRefusal where
  | invalidObserverSigningTarget
  | conflictingObserverRegistration (digest : Digest)
  | observerSigningStoreUnavailable

inductive OpenWorldObserverSigningResult where
  | observerObservationSigned (signed : SignedOpenWorldRegistrationObservation)
  | observerObservationReused (signed : SignedOpenWorldRegistrationObservation)
  | observerSigningRefused (refusal : OpenWorldObserverSigningRefusal)

inductive OpenWorldObserverSigningDecision where
  | signNewObservation
  | reuseExistingObservation
  | rejectConflictingObservation
  | rejectInvalidObservation

def classifyOpenWorldObserverSigning (targetValid previousObservationPresent previousDigestMatches : Bool) :
    OpenWorldObserverSigningDecision :=
  if !targetValid then .rejectInvalidObservation
  else if !previousObservationPresent then .signNewObservation
  else if previousDigestMatches then .reuseExistingObservation
  else .rejectConflictingObservation

def signOpenWorldRegistrationObservation (hasher : Hasher) (signer : Signer) (auditCheckpointDigest : Digest)
    (observerId : Str) (registrationIndex : ℤ) (encounterDigest : Digest) : SignedOpenWorldRegistrationObservation :=
  let observation : OpenWorldRegistrationObservation :=
    ⟨auditCheckpointDigest, observerId, registrationIndex, encounterDigest⟩
  let digest := hasher.hashString (serializeOpenWorldRegistrationObservation observation)
  { observation := observation, digest := digest, signature := signer.sign digest, signerKey := signer.publicKey }

def buildOpenWorldObserverSigningLedger (hasher : Hasher) (signer : Signer) (observerId : Str)
    (snapshot : OpenWorldObserverSigningStoreSnapshot) (trustedAnchor : Option OpenWorldObserverSigningAnchor) :
    OpenWorldObserverSigningLedgerBuildResult :=
  let signerKey := signer.publicKey
  if observerId = Str.empty ∨ signerKey.text = Str.empty then .invalidObserverSigningIdentity
  else
    let ready := .observerSigningLedgerReady ⟨hasher, signer, observerId, signerKey⟩
    match trustedAnchor with
    | some anchor =>
      if anchor.observerId ≠ observerId ∨ anchor.signerKey ≠ signerKey ∨ anchor.root ≠ snapshot.root ∨
          anchor.size ≠ snapshot.size then
        .observerSigningStoreAnchorMismatch
      else ready
    | none => ready

namespace OpenWorldObserverSigningLedger

/-- The end of `sign_registration`, once the store has said which digest the slot was reserved for before. -/
def answerReservation (self : OpenWorldObserverSigningLedger) (auditCheckpointDigest : Digest) (registrationIndex : ℤ)
    (encounterDigest : Digest) (targetValid : Bool) (previous : Option Digest) : OpenWorldObserverSigningResult :=
  let previousMatches :=
    match previous with
    | some digest => digest == encounterDigest
    | none => false
  let signed := signOpenWorldRegistrationObservation self.hasher self.signer auditCheckpointDigest self.observerId
    registrationIndex encounterDigest
  match classifyOpenWorldObserverSigning targetValid previous.isSome previousMatches with
  | .rejectInvalidObservation => .observerSigningRefused .invalidObserverSigningTarget
  | .rejectConflictingObservation =>
    match previous with
    | some digest => .observerSigningRefused (.conflictingObserverRegistration digest)
    | none => .observerSigningRefused .invalidObserverSigningTarget
  | .reuseExistingObservation => .observerObservationReused signed
  | .signNewObservation => .observerObservationSigned signed

/-- `sign_registration`, with the store it leaves behind. -/
def signRegistration {σ : Type} (store : OpenWorldObserverSigningStore σ) (self : OpenWorldObserverSigningLedger)
    (state : σ) (auditCheckpointDigest : Digest) (registrationIndex : ℤ) (encounterDigest : Digest) :
    σ × OpenWorldObserverSigningResult :=
  let targetValid : Bool := auditCheckpointDigest.text != Str.empty && registrationIndex ≥ 0 &&
    encounterDigest.text != Str.empty
  let key := openWorldObserverSigningKey auditCheckpointDigest registrationIndex
  if !targetValid then (state, .observerSigningRefused .invalidObserverSigningTarget)
  else
    let reservation := store.reserve state key encounterDigest
    let answer := self.answerReservation auditCheckpointDigest registrationIndex encounterDigest targetValid
    (reservation.1,
      match reservation.2 with
      | .signingSlotReserved => answer none
      | .signingSlotAlreadyReserved digest => answer (some digest)
      | .signingStoreUnavailable => .observerSigningRefused .observerSigningStoreUnavailable)

end OpenWorldObserverSigningLedger

def OpenWorldObserverSigningResult.observation? :
    OpenWorldObserverSigningResult → Option SignedOpenWorldRegistrationObservation
  | .observerObservationSigned signed => some signed
  | .observerObservationReused signed => some signed
  | .observerSigningRefused _ => none

section
variable {σ : Type} {store : OpenWorldObserverSigningStore σ} {ledger : OpenWorldObserverSigningLedger}

theorem answerReservation_observation
    (emitted : (ledger.answerReservation auditCheckpointDigest registrationIndex encounterDigest targetValid
      previous).observation? = some signed) :
    signed = signOpenWorldRegistrationObservation ledger.hasher ledger.signer auditCheckpointDigest ledger.observerId
        registrationIndex encounterDigest ∧
      ∀ digest, previous = some digest → digest = encounterDigest := by
  unfold OpenWorldObserverSigningLedger.answerReservation classifyOpenWorldObserverSigning at emitted
  cases targetValid with
  | false => cases emitted
  | true =>
    cases previous with
    | none =>
      cases emitted
      exact ⟨rfl, fun digest impossible => by cases impossible⟩
    | some previous =>
      by_cases same : previous = encounterDigest
      · subst same
        simp only [Bool.not_true, Option.isSome_some, beq_self_eq_true] at emitted
        cases emitted
        exact ⟨rfl, fun digest found => (Option.some.inj found).symm⟩
      · simp only [Bool.not_true, Option.isSome_some, beq_false_of_ne same] at emitted
        cases emitted

end

/-- Opening a ledger, also after a restart, or signing with one that was opened before. -/
inductive SigningCall where
  | openLedger (signer : Signer) (observerId : Str) (trustedAnchor : Option OpenWorldObserverSigningAnchor)
  | signRegistration (ledger : ℕ) (auditCheckpointDigest : Digest) (registrationIndex : ℤ) (encounterDigest : Digest)

structure SigningHost (σ : Type) where
  state : σ
  ledgers : List OpenWorldObserverSigningLedger

namespace SigningHost
variable {σ : Type}

def step (store : OpenWorldObserverSigningStore σ) (hasher : Hasher) (host : SigningHost σ) :
    SigningCall → SigningHost σ × Option OpenWorldObserverSigningResult
  | .openLedger signer observerId trustedAnchor =>
    match buildOpenWorldObserverSigningLedger hasher signer observerId (store.snapshot host.state) trustedAnchor with
    | .observerSigningLedgerReady ledger => ({ host with ledgers := host.ledgers ++ [ledger] }, none)
    | _ => (host, none)
  | .signRegistration index auditCheckpointDigest registrationIndex encounterDigest =>
    match host.ledgers[index]? with
    | some ledger =>
      let signing := ledger.signRegistration store host.state auditCheckpointDigest registrationIndex encounterDigest
      ({ host with state := signing.1 }, some signing.2)
    | none => (host, none)

def after (store : OpenWorldObserverSigningStore σ) (hasher : Hasher) (start : σ) (calls : ℕ → SigningCall) :
    ℕ → SigningHost σ
  | 0 => ⟨start, []⟩
  | time + 1 => ((after store hasher start calls time).step store hasher (calls time)).1

def emission (store : OpenWorldObserverSigningStore σ) (hasher : Hasher) (start : σ) (calls : ℕ → SigningCall)
    (time : ℕ) : Option SignedOpenWorldRegistrationObservation :=
  ((after store hasher start calls time).step store hasher (calls time)).2.bind
    OpenWorldObserverSigningResult.observation?

variable {store : OpenWorldObserverSigningStore σ} {host : SigningHost σ}

def HashesWith (hasher : Hasher) (host : SigningHost σ) : Prop := ∀ ledger ∈ host.ledgers, ledger.hasher = hasher

theorem HashesWith.step (hashes : host.HashesWith hasher) (call : SigningCall) :
    (host.step store hasher call).1.HashesWith hasher := by
  cases call with
  | openLedger signer observerId trustedAnchor =>
    unfold SigningHost.step
    dsimp only
    split
    · rename_i ledger built
      refine Lib.forall_mem_concat hashes ?_
      unfold buildOpenWorldObserverSigningLedger at built
      dsimp only at built
      split at built
      · cases built
      split at built
      · split at built
        · cases built
        · obtain rfl := OpenWorldObserverSigningLedgerBuildResult.observerSigningLedgerReady.inj built
          rfl
      · obtain rfl := OpenWorldObserverSigningLedgerBuildResult.observerSigningLedgerReady.inj built
        rfl
    · exact hashes
  | signRegistration index auditCheckpointDigest registrationIndex encounterDigest =>
    unfold SigningHost.step
    dsimp only
    split <;> exact hashes

theorem step_recorded (recording : store.AppendOnly) (host : SigningHost σ) (call : SigningCall) :
    (∀ key value, recording.recorded host.state key = some value →
      recording.recorded (host.step store hasher call).1.state key = some value) ∧
    ∀ signed, (host.step store hasher call).2.bind OpenWorldObserverSigningResult.observation? = some signed →
      ∃ ledger ∈ host.ledgers,
        signed.digest = ledger.hasher.hashString (serializeOpenWorldRegistrationObservation signed.observation) ∧
        recording.recorded (host.step store hasher call).1.state (openWorldObserverSigningKey
          signed.observation.auditCheckpointDigest signed.observation.registrationIndex) =
            some signed.observation.encounterDigest := by
  cases call with
  | openLedger signer observerId trustedAnchor =>
    unfold SigningHost.step
    dsimp only
    split <;> exact ⟨fun key value found => found, fun signed impossible => by cases impossible⟩
  | signRegistration index auditCheckpointDigest registrationIndex encounterDigest =>
    unfold SigningHost.step
    dsimp only
    split
    · rename_i ledger opened
      refine ⟨fun key value found => ?_, ?_⟩
      · unfold OpenWorldObserverSigningLedger.signRegistration
        dsimp only
        split
        · exact found
        · exact recording.kept _ _ _ _ _ found
      intro signed emitted
      refine ⟨ledger, List.mem_of_getElem? opened, ?_⟩
      unfold OpenWorldObserverSigningLedger.signRegistration at emitted ⊢
      dsimp only at emitted ⊢
      split at emitted
      · cases emitted
      rename_i valid
      rw [if_neg valid]
      split at emitted
      · rename_i answered
        obtain ⟨rfl, _⟩ := answerReservation_observation emitted
        exact ⟨rfl, recording.reserved _ _ _ answered⟩
      · rename_i previous answered
        obtain ⟨rfl, same⟩ := answerReservation_observation emitted
        obtain rfl := same previous rfl
        exact ⟨rfl, recording.alreadyReserved _ _ _ _ answered⟩
      · cases emitted
    · exact ⟨fun key value found => found, fun signed impossible => by cases impossible⟩

variable (recording : store.AppendOnly)
include recording

theorem after_recorded (order : time ≤ later)
    (found : recording.recorded (after store hasher start calls time).state key = some value) :
    recording.recorded (after store hasher start calls later).state key = some value := by
  induction later, order using Nat.le_induction with
  | base => exact found
  | succ later order ih => exact (step_recorded recording _ _).1 key value ih

omit recording in
theorem after_hashesWith (time : ℕ) : (after store hasher start calls time).HashesWith hasher := by
  induction time with
  | zero => exact fun ledger member => by cases member
  | succ time ih => exact ih.step (calls time)

theorem emission_recorded (emitted : emission store hasher start calls time = some signed) :
    signed.digest = hasher.hashString (serializeOpenWorldRegistrationObservation signed.observation) ∧
      recording.recorded (after store hasher start calls (time + 1)).state (openWorldObserverSigningKey
        signed.observation.auditCheckpointDigest signed.observation.registrationIndex) =
          some signed.observation.encounterDigest := by
  obtain ⟨ledger, opened, hashed, recorded⟩ := (step_recorded recording _ _).2 signed emitted
  rw [after_hashesWith time ledger opened] at hashed
  exact ⟨hashed, recorded⟩

end SigningHost

/-- Every signature that verifies under `key` was handed out by ledgers over one append-only store. -/
def SignsThroughLedgers (hasher : Hasher) (verifier : Verifier) (key : PublicKey) : Prop :=
  ∃ (σ : Type) (store : OpenWorldObserverSigningStore σ) (_ : store.AppendOnly) (start : σ) (calls : ℕ → SigningCall),
    ∀ digest signature, verifier.verify key digest signature = true →
      ∃ time signed, SigningHost.emission store hasher start calls time = some signed ∧
        signed.digest = digest ∧ signed.signature = signature

end ConvergeAudit.OpenWorld
