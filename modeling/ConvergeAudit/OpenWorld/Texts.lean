import ConvergeAudit.Game.ReplayWitness

/-!
`x/game_audit/open_world`: the manifests, payloads and keys of an audit epoch. Every text is a tag followed by its
fields, so with a collision-free hasher a digest determines what it commits to.
-/

namespace ConvergeAudit.OpenWorld
open Moon Bft Game

structure OpenWorldRegistrationObservation where
  auditCheckpointDigest : Digest
  observerId : Str
  registrationIndex : ℤ
  encounterDigest : Digest

def openWorldObserverManifest [StrOrder] (hasher : Hasher) (observers : List Participant) (maxFaults : ℤ) : Digest :=
  let sorted := sortedRoster observers
  hasher.hashString (([lit "open-world-registration-observers-v1", Str.ofInt maxFaults, Str.ofInt sorted.length] ++
    rosterFields sorted).foldl appendField Str.empty)

def openWorldAuditManifest (hasher : Hasher) (gameManifestDigest observerManifestDigest : Digest)
    (sampleNumerator sampleDenominator : ℤ) : Digest :=
  hasher.hashString ([lit "open-world-audit-manifest-v3", gameManifestDigest.text, observerManifestDigest.text,
    Str.ofInt sampleNumerator, Str.ofInt sampleDenominator, lit "indexed-encounter-digest-v1"].foldl
      appendField Str.empty)

def openWorldAnchorSealManifest (hasher : Hasher) (auditManifestDigest : Digest) (registeredCount : ℤ) : Digest :=
  hasher.hashString ([lit "open-world-anchor-seal-manifest-v2", auditManifestDigest.text, Str.ofInt registeredCount,
    lit "indexed-encounter-digest-v1", lit "authmap-slot-registry-v1"].foldl appendField Str.empty)

def openWorldEncounterAnchorPayload (registrationIndex : ℤ) (encounterDigest : Digest) : Str :=
  [lit "open-world-encounter-anchor-v1", Str.ofInt registrationIndex, encounterDigest.text].foldl appendField Str.empty

def openWorldEncounterRegistrationKey (registrationIndex : ℤ) : Str :=
  [lit "open-world-encounter-registration-v1", Str.ofInt registrationIndex].foldl appendField Str.empty

def openWorldAuditSeedCommitment (hasher : Hasher) (worldId : Str) (epoch : ℤ) (seed : Str) : Digest :=
  hasher.hashString ([lit "open-world-audit-seed-v1", worldId, Str.ofInt epoch, seed].foldl appendField Str.empty)

def serializeOpenWorldRegistrationObservation (observation : OpenWorldRegistrationObservation) : Str :=
  [lit "open-world-registration-observation-v1", observation.auditCheckpointDigest.text, observation.observerId,
    Str.ofInt observation.registrationIndex, observation.encounterDigest.text].foldl appendField Str.empty

def openWorldObserverSigningKey (auditCheckpointDigest : Digest) (registrationIndex : ℤ) : Str :=
  [lit "open-world-observer-signing-key-v1", auditCheckpointDigest.text, Str.ofInt registrationIndex].foldl
    appendField Str.empty

def auditPolicyValid (numerator denominator : ℤ) : Bool :=
  denominator > 0 && numerator ≥ 0 && numerator ≤ denominator

theorem openWorldEncounterAnchorPayload_inj
    (same : openWorldEncounterAnchorPayload index digest = openWorldEncounterAnchorPayload other otherDigest) :
    index = other ∧ digest = otherDigest := by
  have texts := foldl_appendField_inj same
  simpa only [List.cons.injEq, Str.ofInt_inj, Digest.text_inj, true_and, and_true] using texts

theorem serializeOpenWorldRegistrationObservation_injective :
    Function.Injective serializeOpenWorldRegistrationObservation := by
  intro left right same
  have texts := foldl_appendField_inj same
  cases left
  cases right
  simp only [List.cons.injEq, Str.ofInt_inj, Digest.text_inj, true_and, and_true] at texts
  obtain ⟨rfl, rfl, rfl, rfl⟩ := texts
  rfl

section
variable {hasher : Hasher} (collisionFree : hasher.CollisionFree)
include collisionFree

theorem openWorldObserverManifest_inj [StrOrder] (same : openWorldObserverManifest hasher observers maxFaults =
      openWorldObserverManifest hasher others otherFaults) :
    observers.Perm others ∧ maxFaults = otherFaults := by
  have texts := foldl_appendField_inj (collisionFree same)
  simp only [List.cons_append, List.nil_append, List.cons.injEq, true_and] at texts
  obtain ⟨faults, _, rosters⟩ := texts
  have sorted := rosterFields_injective rosters
  refine ⟨?_, Str.ofInt_injective faults⟩
  calc observers.Perm (sortedRoster observers) := sortedRoster_perm.symm
    _ = sortedRoster others := sorted
    List.Perm _ others := sortedRoster_perm

end

end ConvergeAudit.OpenWorld
