import ConvergeAudit.Bft.Types
import ConvergeAudit.Moon.Fields
import Mathlib.Data.Int.Notation

/-!
`replay/replay.mbt`: an asset effect, its canonical text, and the engine that turns an authenticated event and a
kernel's verdict into a capability.
-/

namespace ConvergeAudit.Replay
open Moon Bft

inductive AssetEffect where
  | create (assetId recipientId itemType : Str) (quantity outputIndex : ℤ)
  | transfer (assetId fromOwner toOwner : Str) (expectedVersion : ℤ)
  deriving DecidableEq

def serializeAssetEffect (effect : AssetEffect) : Str :=
  let buffer := appendField Str.empty "asset-effect-v1"
  match effect with
  | .create assetId recipientId itemType quantity outputIndex =>
    [assetId, recipientId, itemType, Str.ofInt quantity, Str.ofInt outputIndex].foldl appendField (buffer ++ lit "C")
  | .transfer assetId fromOwner toOwner expectedVersion =>
    [assetId, fromOwner, toOwner, Str.ofInt expectedVersion].foldl appendField (buffer ++ lit "T")

inductive AssetEffectValidation where
  | effectValid
  | missingAssetId
  | missingRecipient
  | missingItemType
  | invalidQuantity
  | invalidOutputIndex
  | missingOwner
  | sameOwner
  | invalidExpectedVersion
  deriving DecidableEq

def validateAssetEffect : AssetEffect → AssetEffectValidation
  | .create assetId recipientId itemType quantity outputIndex =>
    if assetId = Str.empty then .missingAssetId
    else if recipientId = Str.empty then .missingRecipient
    else if itemType = Str.empty then .missingItemType
    else if quantity ≤ 0 then .invalidQuantity
    else if outputIndex < 0 then .invalidOutputIndex
    else .effectValid
  | .transfer assetId fromOwner toOwner expectedVersion =>
    if assetId = Str.empty then .missingAssetId
    else if fromOwner = Str.empty ∨ toOwner = Str.empty then .missingOwner
    else if fromOwner = toOwner then .sameOwner
    else if expectedVersion < 0 then .invalidExpectedVersion
    else .effectValid

structure AssetReplayKernel where
  manifestDigest : Digest
  replay : AuthenticatedEvent → AssetEffect → Bool

structure ReplayEngine where
  session : Str
  kernel : AssetReplayKernel

/-- The capability of a replayed effect. What is proved of it holds of every value of the type. -/
structure ReplayedAssetEffect where
  source : AuthenticatedEvent
  manifest : Digest
  effect : AssetEffect

inductive ReplayRefusal where
  | sessionMismatch
  | invalidEffect
  | invalidManifest
  | kernelRejected

inductive ReplayResult where
  | replayed (capability : ReplayedAssetEffect)
  | refused (reason : ReplayRefusal)

def replayedEffectAllowed (sourceAuthenticated sessionMatches effectValid manifestPresent kernelAccepted : Bool) : Bool :=
  sourceAuthenticated && sessionMatches && effectValid && manifestPresent && kernelAccepted

def ReplayEngine.replay (self : ReplayEngine) (source : AuthenticatedEvent) (effect : AssetEffect) : ReplayResult :=
  let sessionMatches := self.session != Str.empty && source.sessionId == self.session
  let effectValid := validateAssetEffect effect == .effectValid
  let manifest := self.kernel.manifestDigest
  let manifestPresent := manifest.text != Str.empty
  let kernelAccepted := sessionMatches && effectValid && manifestPresent && self.kernel.replay source effect
  if replayedEffectAllowed true sessionMatches effectValid manifestPresent kernelAccepted then
    .replayed ⟨source, manifest, effect⟩
  else if !sessionMatches then .refused .sessionMismatch
  else if !effectValid then .refused .invalidEffect
  else if !manifestPresent then .refused .invalidManifest
  else .refused .kernelRejected

theorem ReplayEngine.replay_replayed {engine : ReplayEngine}
    (replayed : engine.replay source effect = .replayed capability) :
    capability = ⟨source, engine.kernel.manifestDigest, effect⟩ ∧ engine.kernel.replay source effect = true := by
  unfold ReplayEngine.replay replayedEffectAllowed at replayed
  dsimp only at replayed
  split at replayed
  · rename_i allowed
    simp only [Bool.and_eq_true] at allowed
    exact ⟨(ReplayResult.replayed.inj replayed).symm, allowed.2.2⟩
  · split at replayed
    · cases replayed
    · split at replayed
      · cases replayed
      · split at replayed <;> cases replayed

namespace ReplayedAssetEffect

def sessionId (self : ReplayedAssetEffect) : Str := self.source.sessionId

def sourceDigest (self : ReplayedAssetEffect) : Digest := self.source.digest

def manifestDigest (self : ReplayedAssetEffect) : Digest := self.manifest

def sourceCapabilityMatches (sessionMatches digestMatches : Bool) : Bool := sessionMatches && digestMatches

def matchesEffect (self : ReplayedAssetEffect) (sessionId : Str) (manifestDigest sourceDigest : Digest)
    (effect : AssetEffect) : Bool :=
  sourceCapabilityMatches (self.sessionId == sessionId) (self.sourceDigest == sourceDigest) &&
    self.manifest == manifestDigest && self.effect == effect

end ReplayedAssetEffect

end ConvergeAudit.Replay
