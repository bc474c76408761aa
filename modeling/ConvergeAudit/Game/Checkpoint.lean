import ConvergeAudit.Bft.Adapter

/-!
`x/game_audit/checkpoint`. What is proved about verified checkpoints holds of every value of the type, also of those
that `openCheckpoint` never returns.
-/

namespace ConvergeAudit.Game
open Moon Bft

structure Checkpoint where
  sessionId : Str
  epoch : ℤ
  previousCheckpoint : Digest
  manifestDigest : Digest
  eventRoot : Digest
  publicStateRoot : Digest
  assetDeltaRoot : Digest
  hiddenStateCommitment : Option Digest
  deriving DecidableEq

structure SignedCheckpoint where
  checkpoint : Checkpoint
  digest : Digest
  signature : Signature
  authorityKey : PublicKey
  deriving DecidableEq

/-- A hashed candidate; it says nothing about the game. -/
structure PreparedCheckpoint where
  checkpoint : Checkpoint
  digest : Digest

inductive CheckpointVerification where
  | verified
  | wrongAuthority
  | hashMismatch
  | invalidSignature
  deriving DecidableEq

structure VerifiedCheckpoint where
  signed : SignedCheckpoint
  deriving DecidableEq

inductive CheckpointOpenResult where
  | opened (verified : VerifiedCheckpoint)
  | refused (reason : CheckpointVerification)
  deriving DecidableEq

namespace VerifiedCheckpoint

variable (verified : VerifiedCheckpoint)

def digest : Digest := verified.signed.digest

def checkpoint : Checkpoint := verified.signed.checkpoint

def authorityKey : PublicKey := verified.signed.authorityKey

end VerifiedCheckpoint

/-- Every field is length-prefixed, and the optional one has a tag. -/
def serializeCheckpoint (checkpoint : Checkpoint) : Str :=
  let written := [lit "checkpoint-v1", checkpoint.sessionId, Str.ofInt checkpoint.epoch,
    checkpoint.previousCheckpoint.text, checkpoint.manifestDigest.text, checkpoint.eventRoot.text,
    checkpoint.publicStateRoot.text, checkpoint.assetDeltaRoot.text].foldl appendField Str.empty
  match checkpoint.hiddenStateCommitment with
  | none => written ++ lit "0"
  | some digest => appendField (written ++ lit "1") digest.text

def prepareCheckpoint (hasher : Hasher) (checkpoint : Checkpoint) : PreparedCheckpoint where
  checkpoint := checkpoint
  digest := hasher.hashString (serializeCheckpoint checkpoint)

def signPreparedCheckpoint (signer : Signer) (prepared : PreparedCheckpoint) : SignedCheckpoint where
  checkpoint := prepared.checkpoint
  digest := prepared.digest
  signature := signer.sign prepared.digest
  authorityKey := signer.publicKey

def signCheckpoint (hasher : Hasher) (signer : Signer) (checkpoint : Checkpoint) : SignedCheckpoint :=
  signPreparedCheckpoint signer (prepareCheckpoint hasher checkpoint)

def verifyCheckpoint (hasher : Hasher) (verifier : Verifier) (expectedAuthority : PublicKey)
    (signed : SignedCheckpoint) : CheckpointVerification :=
  if signed.authorityKey ≠ expectedAuthority then .wrongAuthority
  else if hasher.hashString (serializeCheckpoint signed.checkpoint) ≠ signed.digest then .hashMismatch
  else if !verifier.verify signed.authorityKey signed.digest signed.signature then .invalidSignature
  else .verified

def openCheckpoint (hasher : Hasher) (verifier : Verifier) (expectedAuthority : PublicKey)
    (signed : SignedCheckpoint) : CheckpointOpenResult :=
  match verifyCheckpoint hasher verifier expectedAuthority signed with
  | .verified => .opened ⟨signed⟩
  | reason => .refused reason

theorem openCheckpoint_opened (opened : openCheckpoint hasher verifier authority signed = .opened verified) :
    verified = ⟨signed⟩ ∧ verifyCheckpoint hasher verifier authority signed = .verified ∧
      signed.authorityKey = authority := by
  unfold openCheckpoint at opened
  cases decided : verifyCheckpoint hasher verifier authority signed with
  | verified =>
    simp only [decided, CheckpointOpenResult.opened.injEq] at opened
    refine ⟨opened.symm, rfl, ?_⟩
    unfold verifyCheckpoint at decided
    by_contra wrong
    simp [wrong] at decided
  | _ => simp [decided] at opened

theorem serializeCheckpoint_injective : Function.Injective serializeCheckpoint := by
  have written : ∀ checkpoint, serializeCheckpoint checkpoint = fields [lit "checkpoint-v1", checkpoint.sessionId,
      Str.ofInt checkpoint.epoch, checkpoint.previousCheckpoint.text, checkpoint.manifestDigest.text,
      checkpoint.eventRoot.text, checkpoint.publicStateRoot.text, checkpoint.assetDeltaRoot.text] ++
        optionalField (checkpoint.hiddenStateCommitment.map Digest.text) := by
    intro checkpoint
    unfold serializeCheckpoint
    rw [foldl_appendField]
    cases checkpoint.hiddenStateCommitment with
    | none => simp [optionalField]
    | some digest => simp [optionalField, appendField_eq, Str.append_assoc]
  intro checkpoint other same
  rw [written, written] at same
  obtain ⟨values, hidden⟩ := fields_append_inj (by rfl) same
  have commitment := Option.map_injective Digest.text_injective (optionalField_injective hidden)
  cases checkpoint
  cases other
  simp only [List.cons.injEq, Str.ofInt_inj, Digest.text_inj, true_and, and_true] at values commitment
  obtain ⟨rfl, rfl, rfl, rfl, rfl, rfl, rfl⟩ := values
  rw [commitment]

theorem verifyCheckpoint_verified (verified : verifyCheckpoint hasher verifier authority signed = .verified) :
    signed.digest = hasher.hashString (serializeCheckpoint signed.checkpoint) := by
  unfold verifyCheckpoint at verified
  split at verified
  · cases verified
  split at verified
  · cases verified
  rename_i hashed
  exact (not_not.mp hashed).symm

theorem verifyCheckpoint_inj (injective : hasher.CollisionFree)
    (verified : verifyCheckpoint hasher verifier authority signed = .verified)
    (verified' : verifyCheckpoint hasher verifier' authority' other = .verified) (same : signed.digest = other.digest) :
    signed.checkpoint = other.checkpoint := by
  rw [verifyCheckpoint_verified verified, verifyCheckpoint_verified verified'] at same
  exact serializeCheckpoint_injective (injective same)

end ConvergeAudit.Game
