import ConvergeAudit.Inventory.Runs
import ConvergeAudit.Lib.HashChain

/-!
`inventory/inventory_lineage.mbt`: a bounded run of transfers, each signed by both owners. The transitions are a chain
under their roots, so the record at the end determines them.
-/

namespace ConvergeAudit.Inventory
open Moon Bft Market Replay Lib List

structure AssetLineageAnchor where
  assetId : Str
  ownerId : Str
  version : ℤ
  lastEvent : Digest
  lineageRoot : Digest
  originReceiptDigest : Digest
  deriving DecidableEq

structure AssetOwnerKeyBinding where
  sessionId : Str
  ownerId : Str
  ownerKey : PublicKey

structure SignedAssetOwnerKeyBinding where
  binding : AssetOwnerKeyBinding
  digest : Digest
  signature : Signature
  authorityKey : PublicKey

structure AssetLineageTransferAuthorization where
  sessionId : Str
  transition : AssetLineageTransition
  senderKey : PublicKey
  recipientKey : PublicKey

structure SignedAssetLineageTransfer where
  authorization : AssetLineageTransferAuthorization
  digest : Digest
  senderSignature : Signature
  recipientSignature : Signature

structure AuthenticatedAssetLineageTransfer where
  signedTransfer : SignedAssetLineageTransfer
  senderBinding : SignedAssetOwnerKeyBinding
  recipientBinding : SignedAssetOwnerKeyBinding

def AuthenticatedAssetLineageTransfer.transition (entry : AuthenticatedAssetLineageTransfer) : AssetLineageTransition :=
  entry.signedTransfer.authorization.transition

structure AssetLineageSlice where
  anchor : AssetLineageAnchor
  transfers : List AuthenticatedAssetLineageTransfer

inductive AssetLineageRefusal where
  | invalidAssetLineageLimit
  | missingAssetLineageTransfers
  | assetLineageTransfersTooMany (count limit : ℤ)
  | assetLineageOriginMismatch
  | assetLineageAnchorMismatch
  | assetLineageAssetMismatch (index : ℤ)
  | assetLineageParentMismatch (index : ℤ)
  | assetLineageOwnerMismatch (index : ℤ)
  | assetLineageVersionMismatch (index : ℤ)
  | assetLineageInvalidRecipient (index : ℤ)
  | assetLineageAuthenticationRefused (index : ℤ)
  | assetLineageCurrentRecordMismatch
  deriving DecidableEq

structure VerifiedAssetLineageSlice where
  initialAnchor : AssetLineageAnchor
  finalAnchor : AssetLineageAnchor
  transitions : List AssetLineageTransition
  deriving DecidableEq

inductive AssetLineageVerificationResult where
  | assetLineageVerified (slice : VerifiedAssetLineageSlice)
  | assetLineageRefused (reason : AssetLineageRefusal)
  deriving DecidableEq

def originAssetLineageAnchor (hasher : Hasher) (origin : ItemReceipt) : AssetLineageAnchor where
  assetId := origin.assetId
  ownerId := origin.recipientId
  version := 0
  lastEvent := origin.sourceEvent
  lineageRoot := inventoryOriginLineageRoot hasher origin
  originReceiptDigest := inventoryOriginReceiptDigest hasher origin

def assetRecordLineageAnchor (record : AssetRecord) : AssetLineageAnchor where
  assetId := record.assetId
  ownerId := record.ownerId
  version := record.version
  lastEvent := record.lastEvent
  lineageRoot := record.lineageRoot
  originReceiptDigest := record.originReceiptDigest

def serializeAssetOwnerKeyBinding (binding : AssetOwnerKeyBinding) : Str :=
  [lit "inventory-owner-key-binding-v1", binding.sessionId, binding.ownerId, binding.ownerKey.text].foldl appendField
    Str.empty

theorem serializeAssetOwnerKeyBinding_injective : Function.Injective serializeAssetOwnerKeyBinding := by
  intro binding other same
  have texts := foldl_appendField_inj same
  simp only [List.cons.injEq, and_true, true_and] at texts
  obtain ⟨sessions, owners, keys⟩ := texts
  obtain ⟨sessionId, ownerId, ⟨ownerKey⟩⟩ := binding
  simp only at sessions owners keys
  rw [sessions, owners, keys]

section
variable (hasher : Hasher) (authorization : AssetLineageTransferAuthorization)

def assetOwnerKeyBindingDigest (binding : AssetOwnerKeyBinding) : Digest :=
  hasher.hashString (serializeAssetOwnerKeyBinding binding)

def serializeAssetLineageTransferAuthorization : Str :=
  [lit "inventory-lineage-transfer-authorization-v1", authorization.sessionId,
    serializeAssetLineageTransition authorization.transition, authorization.senderKey.text,
    authorization.recipientKey.text].foldl appendField Str.empty

def assetLineageTransferAuthorizationDigest : Digest :=
  hasher.hashString (serializeAssetLineageTransferAuthorization authorization)

/-- A signed binding and what it is expected to say: the arguments of `asset_owner_key_binding_valid`. -/
structure BindingCheck where
  signed : SignedAssetOwnerKeyBinding
  expectedSessionId : Str
  expectedOwnerId : Str
  expectedOwnerKey : PublicKey
  expectedAuthorityKey : PublicKey

def assetOwnerKeyBindingValid (verifier : Verifier) (check : BindingCheck) : Bool :=
  let binding := check.signed.binding
  let expectedDigest := assetOwnerKeyBindingDigest hasher binding
  binding.sessionId == check.expectedSessionId && binding.ownerId == check.expectedOwnerId &&
    binding.ownerKey == check.expectedOwnerKey && check.signed.authorityKey == check.expectedAuthorityKey &&
    check.signed.digest == expectedDigest &&
    verifier.verify check.expectedAuthorityKey expectedDigest check.signed.signature

def assetOwnerKeyBindingCacheKey (check : BindingCheck) : Str :=
  [serializeAssetOwnerKeyBinding check.signed.binding, check.signed.digest.text, check.signed.signature.text,
    check.signed.authorityKey.text, check.expectedSessionId, check.expectedOwnerId, check.expectedOwnerKey.text,
    check.expectedAuthorityKey.text].foldl appendField Str.empty

end

theorem assetOwnerKeyBindingCacheKey_injective : Function.Injective assetOwnerKeyBindingCacheKey := by
  intro check other same
  have texts := foldl_appendField_inj same
  simp only [List.cons.injEq, and_true] at texts
  obtain ⟨bindings, digests, signatures, keys, sessions, owners, ownerKeys, authorities⟩ := texts
  have sameBinding := serializeAssetOwnerKeyBinding_injective bindings
  obtain ⟨⟨binding, ⟨digest⟩, ⟨signature⟩, ⟨key⟩⟩, session, owner, ⟨ownerKey⟩, ⟨authority⟩⟩ := check
  simp only at sameBinding digests signatures keys sessions owners ownerKeys authorities
  rw [sameBinding, digests, signatures, keys, sessions, owners, ownerKeys, authorities]

def cachedAssetOwnerKeyBindingValid (hasher : Hasher) (verifier : Verifier) (check : BindingCheck)
    (cache : Map Str Bool) : Bool × Map Str Bool :=
  let key := assetOwnerKeyBindingCacheKey check
  match cache.get key with
  | some valid => (valid, cache)
  | none =>
    let valid := assetOwnerKeyBindingValid hasher verifier check
    (valid, cache.set key valid)

namespace AuthenticatedAssetLineageTransfer

section
variable (hasher : Hasher) (verifier : Verifier) (entry : AuthenticatedAssetLineageTransfer) (session : Str)
  (authority : PublicKey)

def senderCheck : BindingCheck :=
  ⟨entry.senderBinding, session, entry.transition.fromOwner, entry.signedTransfer.authorization.senderKey, authority⟩

def recipientCheck : BindingCheck :=
  ⟨entry.recipientBinding, session, entry.transition.toOwner, entry.signedTransfer.authorization.recipientKey, authority⟩

def signaturesValid : Bool :=
  let authorization := entry.signedTransfer.authorization
  let digest := assetLineageTransferAuthorizationDigest hasher authorization
  entry.signedTransfer.digest == digest &&
    verifier.verify authorization.senderKey digest entry.signedTransfer.senderSignature &&
    verifier.verify authorization.recipientKey digest entry.signedTransfer.recipientSignature

def authentic (entry : AuthenticatedAssetLineageTransfer) : Bool :=
  entry.signedTransfer.authorization.sessionId == session &&
    assetOwnerKeyBindingValid hasher verifier (entry.senderCheck session authority) &&
    assetOwnerKeyBindingValid hasher verifier (entry.recipientCheck session authority) &&
    entry.signaturesValid hasher verifier

end

end AuthenticatedAssetLineageTransfer

def assetLineageTransferAuthenticationValid (hasher : Hasher) (verifier : Verifier)
    (entry : AuthenticatedAssetLineageTransfer) (session : Str) (authority : PublicKey) (cache : Map Str Bool) :
    Bool × Map Str Bool :=
  if entry.signedTransfer.authorization.sessionId ≠ session then (false, cache)
  else
    let sender := cachedAssetOwnerKeyBindingValid hasher verifier (entry.senderCheck session authority) cache
    if !sender.1 then sender
    else
      let recipient := cachedAssetOwnerKeyBindingValid hasher verifier (entry.recipientCheck session authority) sender.2
      if !recipient.1 then recipient else (entry.signaturesValid hasher verifier, recipient.2)

section Cache
abbrev CacheSound (hasher : Hasher) (verifier : Verifier) (cache : Map Str Bool) : Prop :=
  cache.Answers assetOwnerKeyBindingCacheKey (assetOwnerKeyBindingValid hasher verifier)

theorem cachedAssetOwnerKeyBindingValid_eq (sound : CacheSound hasher verifier cache) :
    (cachedAssetOwnerKeyBindingValid hasher verifier check cache).1 = assetOwnerKeyBindingValid hasher verifier check ∧
      CacheSound hasher verifier (cachedAssetOwnerKeyBindingValid hasher verifier check cache).2 := by
  unfold cachedAssetOwnerKeyBindingValid
  dsimp only
  cases found : cache.get (assetOwnerKeyBindingCacheKey check) with
  | none => exact ⟨rfl, sound.set assetOwnerKeyBindingCacheKey_injective check⟩
  | some valid => exact ⟨sound check valid found, sound⟩

theorem assetLineageTransferAuthenticationValid_eq (sound : CacheSound hasher verifier cache) :
    (assetLineageTransferAuthenticationValid hasher verifier entry session authority cache).1 =
        entry.authentic hasher verifier session authority ∧
      CacheSound hasher verifier
        (assetLineageTransferAuthenticationValid hasher verifier entry session authority cache).2 := by
  unfold assetLineageTransferAuthenticationValid AuthenticatedAssetLineageTransfer.authentic
  by_cases sameSession : entry.signedTransfer.authorization.sessionId = session
  · obtain ⟨senderSame, senderSound⟩ :=
      cachedAssetOwnerKeyBindingValid_eq sound
    obtain ⟨recipientSame, recipientSound⟩ :=
      cachedAssetOwnerKeyBindingValid_eq senderSound
    simp only [sameSession, ne_eq, not_true_eq_false, if_false, beq_self_eq_true, Bool.true_and]
    rw [← senderSame, ← recipientSame]
    cases senderValid : (cachedAssetOwnerKeyBindingValid hasher verifier (entry.senderCheck session authority) cache).1
    · simp [senderValid, senderSound]
    · simp only [Bool.not_true, Bool.false_eq_true, if_false, Bool.true_and]
      cases recipientValid : (cachedAssetOwnerKeyBindingValid hasher verifier (entry.recipientCheck session authority)
        (cachedAssetOwnerKeyBindingValid hasher verifier (entry.senderCheck session authority) cache).2).1
      · simp [recipientValid, recipientSound]
      · simp [recipientSound]
  · simp [sameSession, sound]

end Cache

def AssetLineageAnchor.advance (hasher : Hasher) (cursor : AssetLineageAnchor) (transition : AssetLineageTransition) :
    AssetLineageAnchor where
  assetId := cursor.assetId
  ownerId := transition.toOwner
  version := cursor.version + 1
  lastEvent := transition.sourceEvent
  lineageRoot := assetLineageTransitionRoot hasher transition
  originReceiptDigest := cursor.originReceiptDigest

/-- The checks of a transition against the cursor, before the signatures. -/
def transitionRefusal (origin : Digest) (currentAssetId : Str) (index : ℤ) (cursor : AssetLineageAnchor)
    (transition : AssetLineageTransition) : Option AssetLineageRefusal :=
  if transition.assetId ≠ cursor.assetId ∨ transition.assetId ≠ currentAssetId ∨
      transition.originReceiptDigest ≠ origin then some (.assetLineageAssetMismatch index)
  else if transition.previousEvent ≠ cursor.lastEvent ∨ transition.previousLineageRoot ≠ cursor.lineageRoot then
    some (.assetLineageParentMismatch index)
  else if transition.fromOwner ≠ cursor.ownerId then some (.assetLineageOwnerMismatch index)
  else if transition.expectedVersion ≠ cursor.version then some (.assetLineageVersionMismatch index)
  else if transition.toOwner = Str.empty ∨ transition.toOwner = transition.fromOwner ∨
      transition.sourceEvent.text = Str.empty then some (.assetLineageInvalidRecipient index)
  else none

/-- The loop of `verifyAssetLineageSlice`. -/
def verifyTransfers (hasher : Hasher) (verifier : Verifier) (session : Str) (authority : PublicKey) (origin : Digest)
    (currentAssetId : Str) : ℤ → AssetLineageAnchor → Map Str Bool → List AuthenticatedAssetLineageTransfer →
      Except AssetLineageRefusal (AssetLineageAnchor × List AssetLineageTransition)
  | _, cursor, _, [] => .ok (cursor, [])
  | index, cursor, cache, entry :: rest =>
    match transitionRefusal origin currentAssetId index cursor entry.transition with
    | some reason => .error reason
    | none =>
      let authentication := assetLineageTransferAuthenticationValid hasher verifier entry session authority cache
      if !authentication.1 then .error (.assetLineageAuthenticationRefused index)
      else
        (verifyTransfers hasher verifier session authority origin currentAssetId (index + 1)
          (cursor.advance hasher entry.transition) authentication.2 rest).map
            fun verified => (verified.1, entry.transition :: verified.2)

def assetLineageSliceAllowed (hasTransfers withinLimit originMatches anchorMatches parentChainMatches
    everyTransferAuthenticated currentRecordMatches : Bool) : Bool :=
  hasTransfers && withinLimit && originMatches && anchorMatches && parentChainMatches && everyTransferAuthenticated &&
    currentRecordMatches

def verifyAssetLineageSlice (hasher : Hasher) (verifier : Verifier) (slice : AssetLineageSlice) (expectedSessionId : Str)
    (expectedAuthorityKey : PublicKey) (expectedOriginReceiptDigest : Digest) (expectedAnchor : AssetLineageAnchor)
    (expectedCurrent : AssetRecord) (maxTransfers : ℤ) : AssetLineageVerificationResult :=
  if maxTransfers < 0 then .assetLineageRefused .invalidAssetLineageLimit
  else if slice.transfers.length = 0 then .assetLineageRefused .missingAssetLineageTransfers
  else if (slice.transfers.length : ℤ) > maxTransfers then
    .assetLineageRefused (.assetLineageTransfersTooMany slice.transfers.length maxTransfers)
  else if expectedOriginReceiptDigest.text = Str.empty ∨
      expectedCurrent.originReceiptDigest ≠ expectedOriginReceiptDigest then
    .assetLineageRefused .assetLineageOriginMismatch
  else if slice.anchor ≠ expectedAnchor ∨ expectedAnchor.originReceiptDigest ≠ expectedOriginReceiptDigest then
    .assetLineageRefused .assetLineageAnchorMismatch
  else
    match verifyTransfers hasher verifier expectedSessionId expectedAuthorityKey expectedOriginReceiptDigest
        expectedCurrent.assetId 0 expectedAnchor .empty slice.transfers with
    | .error reason => .assetLineageRefused reason
    | .ok (cursor, verifiedTransitions) =>
      if !assetLineageSliceAllowed true true true true true true
          (cursor == assetRecordLineageAnchor expectedCurrent) then
        .assetLineageRefused .assetLineageCurrentRecordMismatch
      else .assetLineageVerified ⟨expectedAnchor, cursor, verifiedTransitions⟩

/-- The transition continues the asset of the cursor and passes every check on its contents. -/
@[mk_iff]
structure Continues (origin : Digest) (currentAssetId : Str) (cursor : AssetLineageAnchor)
    (transition : AssetLineageTransition) : Prop where
  asset : transition.assetId = cursor.assetId
  current : transition.assetId = currentAssetId
  origin : transition.originReceiptDigest = origin
  event : transition.previousEvent = cursor.lastEvent
  root : transition.previousLineageRoot = cursor.lineageRoot
  owner : transition.fromOwner = cursor.ownerId
  version : transition.expectedVersion = cursor.version
  recipient : transition.toOwner ≠ Str.empty
  changes : transition.toOwner ≠ transition.fromOwner
  source : transition.sourceEvent.text ≠ Str.empty

theorem transitionRefusal_none_iff :
    transitionRefusal origin currentAssetId index cursor transition = none ↔
      Continues origin currentAssetId cursor transition := by
  unfold transitionRefusal
  simp (disch := simp) only [passes, not_or, ne_eq, not_not, and_true, continues_iff, and_assoc]

section Slices
variable (hasher : Hasher) (verifier : Verifier) (session : Str) (authority : PublicKey) (origin : Digest)
  (currentAssetId : Str)

/-- Every transfer continues the cursor before it and is authentic. -/
def Follows : AssetLineageAnchor → List AuthenticatedAssetLineageTransfer → Prop
  | _, [] => True
  | cursor, entry :: rest =>
    (Continues origin currentAssetId cursor entry.transition ∧ entry.authentic hasher verifier session authority = true) ∧
      Follows (cursor.advance hasher entry.transition) rest

def cursorAfter (cursor : AssetLineageAnchor) (transitions : List AssetLineageTransition) : AssetLineageAnchor :=
  transitions.foldl (AssetLineageAnchor.advance hasher) cursor

variable {hasher verifier session authority origin currentAssetId}

theorem verifyTransfers_ok_iff (index : ℤ) (cursor : AssetLineageAnchor) (sound : CacheSound hasher verifier cache)
    (verified : AssetLineageAnchor × List AssetLineageTransition) :
    verifyTransfers hasher verifier session authority origin currentAssetId index cursor cache entries = .ok verified ↔
      Follows hasher verifier session authority origin currentAssetId cursor entries ∧
        verified = (cursorAfter hasher cursor (entries.map (·.transition)), entries.map (·.transition)) := by
  induction entries generalizing index cursor cache verified with
  | nil => simp [verifyTransfers, Follows, cursorAfter, eq_comm]
  | cons entry rest ih =>
    obtain ⟨sameAnswer, soundNext⟩ := assetLineageTransferAuthenticationValid_eq sound
    unfold verifyTransfers Follows
    cases refused : transitionRefusal origin currentAssetId index cursor entry.transition with
    | some reason =>
      have stops : ¬Continues origin currentAssetId cursor entry.transition := by
        rw [← transitionRefusal_none_iff, refused]
        simp
      simp [stops]
    | none =>
      have continues := transitionRefusal_none_iff.mp refused
      dsimp only
      rw [sameAnswer]
      cases entry.authentic hasher verifier session authority with
      | false => simp
      | true =>
        have later := ih (index + 1) (cursor.advance hasher entry.transition) soundNext
        simp only [Bool.not_true, Bool.false_eq_true, if_false, continues, true_and, map_cons, Lib.Fallible.map_ok, later]
        simp [cursorAfter, @eq_comm _ verified]

theorem follows_append :
    Follows hasher verifier session authority origin currentAssetId cursor (early ++ late) ↔
      Follows hasher verifier session authority origin currentAssetId cursor early ∧
        Follows hasher verifier session authority origin currentAssetId
          (cursorAfter hasher cursor (early.map (·.transition))) late := by
  induction early generalizing cursor with
  | nil => simp [Follows, cursorAfter]
  | cons entry rest ih =>
    simp only [cons_append, Follows, ih, cursorAfter, map_cons, foldl_cons, and_assoc]

theorem cursorAfter_append :
    cursorAfter hasher cursor (early ++ late) = cursorAfter hasher (cursorAfter hasher cursor early) late :=
  foldl_append

variable (hasher) in
theorem cursorAfter_kept (cursor : AssetLineageAnchor) (transitions : List AssetLineageTransition) :
    (cursorAfter hasher cursor transitions).assetId = cursor.assetId ∧
      (cursorAfter hasher cursor transitions).originReceiptDigest = cursor.originReceiptDigest ∧
      (cursorAfter hasher cursor transitions).version = cursor.version + transitions.length := by
  induction transitions generalizing cursor with
  | nil => simp [cursorAfter]
  | cons transition rest ih =>
    obtain ⟨asset, origin, version⟩ := ih (cursor.advance hasher transition)
    refine ⟨asset, origin, ?_⟩
    rw [length_cons]
    simp only [cursorAfter, foldl_cons] at version ⊢
    rw [version]
    simp only [AssetLineageAnchor.advance]
    omega

theorem lineageRoot_cursorAfter (cursor : AssetLineageAnchor) (transitions : List AssetLineageTransition) :
    (cursorAfter hasher cursor transitions).lineageRoot =
      HashChain.tip (assetLineageTransitionRoot hasher) cursor.lineageRoot transitions := by
  induction transitions generalizing cursor with
  | nil => rfl
  | cons transition rest ih => exact ih (cursor.advance hasher transition)

theorem Follows.linked (follows : Follows hasher verifier session authority origin currentAssetId cursor entries) :
    HashChain.Linked (assetLineageTransitionRoot hasher) (·.previousLineageRoot) cursor.lineageRoot
      (entries.map (·.transition)) := by
  induction entries generalizing cursor with
  | nil => trivial
  | cons entry rest ih => exact ⟨follows.1.1.root, ih follows.2⟩

theorem assetLineageTransitionRoot_injective (injective : hasher.CollisionFree) :
    Function.Injective (assetLineageTransitionRoot hasher) := by
  intro transition other same
  exact serializeAssetLineageTransition_injective (injective same)

variable (hasher verifier session authority) in
/-- A slice from an anchor to a record: what `verifyAssetLineageSlice` accepts, apart from the limit. -/
structure AcceptedSlice (anchor : AssetLineageAnchor) (current : AssetRecord)
    (transfers : List AuthenticatedAssetLineageTransfer) : Prop where
  nonempty : transfers ≠ []
  origin_named : current.originReceiptDigest.text ≠ Str.empty
  origin : anchor.originReceiptDigest = current.originReceiptDigest
  follows : Follows hasher verifier session authority current.originReceiptDigest current.assetId anchor transfers
  reaches : cursorAfter hasher anchor (transfers.map (·.transition)) = assetRecordLineageAnchor current

theorem verifyAssetLineageSlice_verified_iff :
    verifyAssetLineageSlice hasher verifier slice session authority expectedOrigin anchor current maxTransfers =
        .assetLineageVerified verified ↔
      slice.anchor = anchor ∧ (slice.transfers.length : ℤ) ≤ maxTransfers ∧
        current.originReceiptDigest = expectedOrigin ∧
        AcceptedSlice hasher verifier session authority anchor current slice.transfers ∧
        verified = ⟨anchor, assetRecordLineageAnchor current, slice.transfers.map (·.transition)⟩ := by
  have empty_sound : CacheSound hasher verifier .empty := by
    intro check valid found
    cases found
  unfold verifyAssetLineageSlice
  simp (disch := simp) only [passes, not_or, ne_eq, not_not]
  constructor
  · rintro ⟨_, some_transfers, within, ⟨named, rfl⟩, ⟨anchored, origin⟩, accepted⟩
    split at accepted
    · cases accepted
    rename_i cursor transitions looped
    obtain ⟨follows, same⟩ := (verifyTransfers_ok_iff 0 anchor empty_sound _).mp looped
    obtain ⟨reached, accepted⟩ := (passes_not (by simp)).mp accepted
    cases same
    have reached := eq_of_beq reached
    cases accepted
    refine ⟨anchored, by omega, rfl, ⟨?_, named, origin, follows, reached⟩, by rw [reached]⟩
    exact fun nothing => some_transfers (by rw [nothing]; rfl)
  · rintro ⟨anchored, within, rfl, accepted, rfl⟩
    have positive := length_pos_iff.mpr accepted.nonempty
    have looped := (verifyTransfers_ok_iff 0 anchor empty_sound _).mpr ⟨accepted.follows, rfl⟩
    refine ⟨by omega, by omega, by omega, ⟨accepted.origin_named, rfl⟩, ⟨anchored, accepted.origin⟩, ?_⟩
    simp [looped, accepted.reaches, assetLineageSliceAllowed]

theorem AcceptedSlice.transitions_unique (injective : hasher.CollisionFree)
    (accepted : AcceptedSlice hasher verifier session authority anchor current transfers)
    (accepted' : AcceptedSlice hasher verifier' session' authority' anchor current transfers') :
    transfers.map (·.transition) = transfers'.map (·.transition) := by
  have ends := accepted.reaches.trans accepted'.reaches.symm
  have versions := (cursorAfter_kept hasher anchor (transfers.map (·.transition))).2.2
  have versions' := (cursorAfter_kept hasher anchor (transfers'.map (·.transition))).2.2
  have roots := congrArg AssetLineageAnchor.lineageRoot ends
  rw [lineageRoot_cursorAfter, lineageRoot_cursorAfter] at roots
  rw [ends] at versions
  exact HashChain.eq_of_tip_eq (assetLineageTransitionRoot_injective injective) accepted.follows.linked
    accepted'.follows.linked (by omega) roots

theorem AcceptedSlice.append (first : AcceptedSlice hasher verifier session authority anchor middle early)
    (second : AcceptedSlice hasher verifier session authority (assetRecordLineageAnchor middle) current late) :
    AcceptedSlice hasher verifier session authority anchor current (early ++ late) := by
  have sameOrigin := second.origin
  have sameAsset : middle.assetId = current.assetId := by
    have kept := (cursorAfter_kept hasher (assetRecordLineageAnchor middle) (late.map (·.transition))).1
    rw [second.reaches] at kept
    exact kept.symm
  refine ⟨?_, second.origin_named, first.origin.trans sameOrigin, follows_append.mpr ⟨?_, ?_⟩, ?_⟩
  · intro nothing
    exact first.nonempty (append_eq_nil_iff.mp nothing).1
  · rw [← sameOrigin, ← sameAsset]
    exact first.follows
  · rw [first.reaches]
    exact second.follows
  · rw [map_append, cursorAfter_append, first.reaches]
    exact second.reaches

/-- A record at the end of a part of the slice: the item of the last one, with the cursor's owner and position. -/
def recordAt (cursor : AssetLineageAnchor) (current : AssetRecord) : AssetRecord :=
  { current with
    ownerId := cursor.ownerId
    version := cursor.version
    lastEvent := cursor.lastEvent
    lineageRoot := cursor.lineageRoot }

theorem AcceptedSlice.cut (some_early : early ≠ []) (some_late : late ≠ [])
    (accepted : AcceptedSlice hasher verifier session authority anchor current (early ++ late)) :
    ∃ middle, AcceptedSlice hasher verifier session authority anchor middle early ∧
      AcceptedSlice hasher verifier session authority (assetRecordLineageAnchor middle) current late ∧
      middle.originReceiptDigest = current.originReceiptDigest := by
  obtain ⟨earlyFollows, lateFollows⟩ := follows_append.mp accepted.follows
  have reaches := accepted.reaches
  rw [map_append, cursorAfter_append] at reaches
  have keptEarly := (cursorAfter_kept hasher anchor (early.map (·.transition))).2.1
  generalize reached : cursorAfter hasher anchor (early.map (·.transition)) = cursor at *
  obtain ⟨asset, origin, _⟩ := cursorAfter_kept hasher cursor (late.map (·.transition))
  rw [reaches] at asset origin
  have position : assetRecordLineageAnchor (recordAt cursor current) = cursor := by
    dsimp only [assetRecordLineageAnchor] at asset origin
    simp only [assetRecordLineageAnchor, recordAt, asset, origin]
  refine ⟨recordAt cursor current, ⟨some_early, accepted.origin_named, accepted.origin, earlyFollows, ?_⟩, ?_, rfl⟩
  · rw [reached, position]
  · rw [position]
    exact ⟨some_late, accepted.origin_named, keptEarly.trans accepted.origin, lateFollows, reaches⟩

end Slices

def lineageTransitions (hasher : Hasher) : AssetRecord → List AssetTransfer → List AssetLineageTransition
  | _, [] => []
  | record, transfer :: rest =>
    assetLineageTransition record transfer :: lineageTransitions hasher (transferRecord hasher record transfer) rest

def AssetLineageTransition.transfer (transition : AssetLineageTransition) : AssetTransfer where
  assetId := transition.assetId
  fromOwner := transition.fromOwner
  toOwner := transition.toOwner
  expectedVersion := transition.expectedVersion
  sourceEvent := transition.sourceEvent

theorem map_transfer_lineageTransitions :
    (lineageTransitions hasher record transfers).map AssetLineageTransition.transfer = transfers := by
  induction transfers generalizing record with
  | nil => rfl
  | cons transfer rest ih =>
    rw [lineageTransitions, map_cons, ih]
    rfl

theorem length_lineageTransitions : (lineageTransitions hasher record transfers).length = transfers.length := by
  induction transfers generalizing record with
  | nil => rfl
  | cons transfer rest ih => rw [lineageTransitions, length_cons, ih, length_cons]

theorem lineageTransitions_linked (record : AssetRecord) (transfers : List AssetTransfer) :
    HashChain.Linked (assetLineageTransitionRoot hasher) (·.previousLineageRoot) record.lineageRoot
      (lineageTransitions hasher record transfers) := by
  induction transfers generalizing record with
  | nil => trivial
  | cons transfer rest ih => exact ⟨rfl, ih (transferRecord hasher record transfer)⟩

theorem tip_lineageTransitions (record : AssetRecord) (transfers : List AssetTransfer) :
    HashChain.tip (assetLineageTransitionRoot hasher) record.lineageRoot (lineageTransitions hasher record transfers) =
      (transfers.foldl (transferRecord hasher) record).lineageRoot := by
  induction transfers generalizing record with
  | nil => rfl
  | cons transfer rest ih => exact ih (transferRecord hasher record transfer)

/-- A slice from the creation of an asset to its record after some transfers has the transitions of these transfers. -/
theorem AcceptedSlice.transitions_of_transfers (injective : hasher.CollisionFree)
    (accepted : AcceptedSlice hasher verifier session authority (originAssetLineageAnchor hasher receipt)
      (transfers.foldl (transferRecord hasher) (createRecord hasher receipt)) entries) :
    entries.map (·.transition) = lineageTransitions hasher (createRecord hasher receipt) transfers := by
  have versions := (cursorAfter_kept hasher (originAssetLineageAnchor hasher receipt)
    (entries.map (·.transition))).2.2
  have roots := congrArg AssetLineageAnchor.lineageRoot accepted.reaches
  rw [lineageRoot_cursorAfter] at roots
  rw [accepted.reaches] at versions
  simp only [assetRecordLineageAnchor, originAssetLineageAnchor, Ledger.version_foldl_transferRecord, createRecord,
    zero_add] at versions
  refine HashChain.eq_of_tip_eq (assetLineageTransitionRoot_injective injective) accepted.follows.linked
    (lineageTransitions_linked (createRecord hasher receipt) transfers) ?_ ?_
  · rw [length_lineageTransitions]
    omega
  · rw [tip_lineageTransitions]
    exact roots

section
variable [StrOrder]

open LedgerEvent in
/-- For a collision-free hasher: the anchor and the record determine the transitions of a slice; a slice over the whole
life of an asset lists the transfers that the index has committed for it; slices that meet compose, and a slice can be cut
at every interior point. -/
theorem lineage_slices_unique_and_composable (hasher : Hasher) (injective : hasher.CollisionFree) :
    (∀ verifier verifier' session session' authority authority' origin origin' anchor current maxTransfers maxTransfers'
        slice slice' verified verified',
      verifyAssetLineageSlice hasher verifier slice session authority origin anchor current maxTransfers =
        .assetLineageVerified verified →
      verifyAssetLineageSlice hasher verifier' slice' session' authority' origin' anchor current maxTransfers' =
        .assetLineageVerified verified' →
      verified.transitions = verified'.transitions) ∧
    (∀ indexSession genesis calls assetId receipt record verifier session authority origin maxTransfers slice verified,
      let host := (Host.new hasher indexSession genesis).run calls
      creationsOf assetId host.events = [receipt] → host.index.get assetId = some record →
      verifyAssetLineageSlice hasher verifier slice session authority origin (originAssetLineageAnchor hasher receipt)
        record maxTransfers = .assetLineageVerified verified →
      verified.transitions.map AssetLineageTransition.transfer = transfersOf assetId host.events) ∧
    (∀ verifier session authority origin origin' anchor middle current maxEarly maxLate maxTransfers early late
        verifiedEarly verifiedLate,
      verifyAssetLineageSlice hasher verifier early session authority origin anchor middle maxEarly =
        .assetLineageVerified verifiedEarly →
      verifyAssetLineageSlice hasher verifier late session authority origin' (assetRecordLineageAnchor middle) current
        maxLate = .assetLineageVerified verifiedLate →
      ((early.transfers ++ late.transfers).length : ℤ) ≤ maxTransfers →
      verifyAssetLineageSlice hasher verifier ⟨anchor, early.transfers ++ late.transfers⟩ session authority origin anchor
        current maxTransfers = .assetLineageVerified ⟨anchor, assetRecordLineageAnchor current,
          verifiedEarly.transitions ++ verifiedLate.transitions⟩) ∧
    (∀ verifier session authority origin anchor current maxTransfers slice verified (count : ℕ),
      verifyAssetLineageSlice hasher verifier slice session authority origin anchor current maxTransfers =
        .assetLineageVerified verified →
      0 < count → count < slice.transfers.length →
      ∃ middle,
        verifyAssetLineageSlice hasher verifier ⟨anchor, slice.transfers.take count⟩ session authority origin anchor middle
          maxTransfers = .assetLineageVerified ⟨anchor, assetRecordLineageAnchor middle,
            verified.transitions.take count⟩ ∧
        verifyAssetLineageSlice hasher verifier ⟨assetRecordLineageAnchor middle, slice.transfers.drop count⟩ session
          authority origin (assetRecordLineageAnchor middle) current maxTransfers =
            .assetLineageVerified ⟨assetRecordLineageAnchor middle, assetRecordLineageAnchor current,
              verified.transitions.drop count⟩) := by
  refine ⟨?_, ?_, ?_, ?_⟩
  · intro verifier verifier' session session' authority authority' origin origin' anchor current maxTransfers maxTransfers'
      slice slice' verified verified' first second
    obtain ⟨_, _, _, accepted, rfl⟩ := verifyAssetLineageSlice_verified_iff.mp first
    obtain ⟨_, _, _, accepted', rfl⟩ := verifyAssetLineageSlice_verified_iff.mp second
    exact accepted.transitions_unique injective accepted'
  · intro indexSession genesis calls assetId receipt record verifier session authority origin maxTransfers slice verified
      host created known sliceVerified
    obtain ⟨_, _, _, accepted, rfl⟩ := verifyAssetLineageSlice_verified_iff.mp sliceVerified
    have faithful := faithful_run hasher indexSession genesis calls
    rcases Ledger.accounted faithful.admissible assetId with ⟨nothing, _⟩ | ⟨origin_receipt, once, _, folded⟩
    · rw [created] at nothing
      cases nothing
    · rw [created] at once
      cases once
      rw [← faithful.holds.records, known, Option.some.injEq] at folded
      rw [folded] at accepted
      rw [accepted.transitions_of_transfers injective, map_transfer_lineageTransitions]
  · intro verifier session authority origin origin' anchor middle current maxEarly maxLate maxTransfers early late
      verifiedEarly verifiedLate first second fits
    obtain ⟨_, _, sameOrigin, accepted, rfl⟩ := verifyAssetLineageSlice_verified_iff.mp first
    obtain ⟨_, _, _, accepted', rfl⟩ := verifyAssetLineageSlice_verified_iff.mp second
    refine verifyAssetLineageSlice_verified_iff.mpr ⟨rfl, fits, ?_, accepted.append accepted', ?_⟩
    · exact accepted'.origin.symm.trans sameOrigin
    · rw [map_append]
  · intro verifier session authority origin anchor current maxTransfers slice verified count sliceVerified positive inside
    obtain ⟨_, within, sameOrigin, accepted, rfl⟩ := verifyAssetLineageSlice_verified_iff.mp sliceVerified
    have some_early : slice.transfers.take count ≠ [] := by
      rw [← length_pos_iff, length_take]
      omega
    have some_late : slice.transfers.drop count ≠ [] := by
      rw [← length_pos_iff, length_drop]
      omega
    rw [← take_append_drop count slice.transfers] at accepted
    obtain ⟨middle, early, late, origins⟩ := accepted.cut some_early some_late
    refine ⟨middle, verifyAssetLineageSlice_verified_iff.mpr ⟨rfl, ?_, origins.trans sameOrigin, early, ?_⟩,
      verifyAssetLineageSlice_verified_iff.mpr ⟨rfl, ?_, sameOrigin, late, ?_⟩⟩
    · rw [length_take]
      omega
    · rw [map_take]
    · rw [length_drop]
      omega
    · rw [map_drop]

end

section
open Shortlex

namespace LineageSample

def verifier : Verifier := ⟨fun key digest signature => signature.text == key.text ++ digest.text⟩

def receipt : ItemReceipt := ⟨"a", "x", "i", 1, ⟨"e0"⟩, 0⟩

def anchor : AssetLineageAnchor := originAssetLineageAnchor .identity receipt

def binding (owner : Str) : SignedAssetOwnerKeyBinding :=
  let bound : AssetOwnerKeyBinding := ⟨"s", owner, ⟨owner⟩⟩
  let digest := assetOwnerKeyBindingDigest .identity bound
  ⟨bound, digest, ⟨lit "k" ++ digest.text⟩, ⟨"k"⟩⟩

def handOn (cursor : AssetLineageAnchor) (toOwner : Str) (source : Digest) : AuthenticatedAssetLineageTransfer :=
  let transition : AssetLineageTransition := ⟨cursor.assetId, cursor.originReceiptDigest, cursor.ownerId, toOwner,
    cursor.version, cursor.lastEvent, source, cursor.lineageRoot⟩
  let authorization : AssetLineageTransferAuthorization := ⟨"s", transition, ⟨cursor.ownerId⟩, ⟨toOwner⟩⟩
  let digest := assetLineageTransferAuthorizationDigest .identity authorization
  ⟨⟨authorization, digest, ⟨cursor.ownerId ++ digest.text⟩, ⟨toOwner ++ digest.text⟩⟩, binding cursor.ownerId,
    binding toOwner⟩

def first : AuthenticatedAssetLineageTransfer := handOn anchor "y" ⟨"e1"⟩

def second : AuthenticatedAssetLineageTransfer := handOn (anchor.advance .identity first.transition) "x" ⟨"e2"⟩

def transfers : List AssetTransfer := [first.transition.transfer, second.transition.transfer]

def current : AssetRecord := transfers.foldl (transferRecord .identity) (createRecord .identity receipt)

def batch : ReceiptBatch where
  receipts := [receipt]
  assetIndices := Map.empty.set "a" 0
  tree := Merkle.MerkleTree.build .identity [serializeItemReceipt receipt]
  tree_built := ⟨.identity, rfl⟩
  each_valid := by decide +kernel
  assets_distinct := nodup_singleton _
  outputs_distinct := nodup_singleton _

def replayed (source : Digest) (effect : AssetEffect) : ReplayedAssetEffect :=
  ⟨⟨"s", source, ⟨"k"⟩, { id := ⟨⟨"p"⟩, 0⟩, deps := [], lamport := 0, op := .delete "t" "r" }⟩, ⟨"m"⟩, effect⟩

def finalized : Game.FinalizedCheckpoint where
  verified := ⟨⟨{
    sessionId := "s"
    epoch := 0
    previousCheckpoint := ⟨"g"⟩
    manifestDigest := ⟨"m"⟩
    eventRoot := ⟨"e"⟩
    publicStateRoot := ((AuthMap.AuthenticatedMap.new .identity).put "a" (serializeAssetRecord current)).1.root
    assetDeltaRoot := batch.root
    hiddenStateCommitment := none }, ⟨"d"⟩, ⟨"x"⟩, ⟨"k"⟩⟩⟩

/-- One transaction creates the asset and hands it on twice. -/
def host : Host := (Host.new .identity "s" ⟨"g"⟩).run [.plan batch transfers
    (replayed ⟨"e0"⟩ (creationEffect receipt) ::
      transfers.map fun transfer => replayed transfer.sourceEvent (transferEffect transfer)), .commit finalized 0]

end LineageSample

open LineageSample

theorem lineage_slices_unique_and_composable_two_transfers :
    transfers = LedgerEvent.transfersOf "a" host.events ∧ ∃ middle,
      verifyAssetLineageSlice .identity verifier ⟨anchor, [first]⟩ "s" ⟨"k"⟩ anchor.originReceiptDigest anchor middle 2 =
        .assetLineageVerified ⟨anchor, assetRecordLineageAnchor middle, [first.transition]⟩ ∧
      verifyAssetLineageSlice .identity verifier ⟨assetRecordLineageAnchor middle, [second]⟩ "s" ⟨"k"⟩
        anchor.originReceiptDigest (assetRecordLineageAnchor middle) current 2 =
        .assetLineageVerified ⟨assetRecordLineageAnchor middle, assetRecordLineageAnchor current, [second.transition]⟩ := by
  have accepted : verifyAssetLineageSlice .identity verifier ⟨anchor, [first, second]⟩ "s" ⟨"k"⟩
      anchor.originReceiptDigest anchor current 2 =
      .assetLineageVerified ⟨anchor, assetRecordLineageAnchor current, [first.transition, second.transition]⟩ := by
    decide +kernel
  obtain ⟨_, listed, _, cut⟩ := lineage_slices_unique_and_composable .identity Hasher.identity_collisionFree
  exact ⟨listed "s" ⟨"g"⟩ _ "a" receipt current verifier "s" ⟨"k"⟩ _ 2 _ _ (by decide +kernel : _ = [receipt])
      (by decide +kernel : host.index.get "a" = some current) accepted,
    cut verifier "s" ⟨"k"⟩ _ anchor current 2 _ _ 1 accepted (by decide) (by decide)⟩

end

end ConvergeAudit.Inventory
