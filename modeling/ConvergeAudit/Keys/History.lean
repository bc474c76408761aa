import ConvergeAudit.Js.Values
import ConvergeAudit.Js.Collections
import ConvergeAudit.Lib.Fallible

/-!
`key-lifecycle.ts`: the versions of a verification key, the validation and compilation of their history, and the
verification of a statement under the version that it names.
-/

namespace ConvergeAudit.Keys

open Moon Js Lib.Fallible List

structure VerificationKeyRecord where
  version : Int
  keyId : Str
  keyVersion : Int
  subjectId : Str
  purpose : Str
  scopeId : Str
  scheme : Str
  publicKey : Str
  /-- Inclusive signing-time boundary. -/
  validFromMs : Int
  /-- Exclusive signing-time boundary. -/
  validUntilMs : Int
  /-- Inclusive effective invalidation boundary; `none` means not revoked. -/
  revokedAtMs : Option Int
  deriving DecidableEq

def validKeyRecord (value : VerificationKeyRecord) : Bool :=
  value.version == 1 &&
  identifier value.keyId 256 && safePositiveInteger value.keyVersion &&
  identifier value.subjectId 256 && identifier value.purpose 128 &&
  boundedText value.scopeId 256 && identifier value.scheme 128 &&
  boundedText value.publicKey 16384 &&
  safeNonNegativeInteger value.validFromMs &&
  safeNonNegativeInteger value.validUntilMs &&
  decide (value.validFromMs < value.validUntilMs) &&
  match value.revokedAtMs with
  | none => true
  | some revokedAtMs => safeNonNegativeInteger revokedAtMs && decide (value.validFromMs ≤ revokedAtMs) &&
      decide (revokedAtMs ≤ value.validUntilMs)

/-- What the proofs use of a valid record. -/
structure RecordFacts (value : VerificationKeyRecord) : Prop where
  named : identifier value.keyId 256 = true
  numbered : safePositiveInteger value.keyVersion = true
  interval : value.validFromMs < value.validUntilMs

theorem validKeyRecord_facts (valid : validKeyRecord value = true) : RecordFacts value := by
  simp only [validKeyRecord, Bool.and_eq_true, decide_eq_true_eq] at valid
  obtain ⟨⟨⟨⟨⟨⟨⟨⟨⟨⟨⟨_, named⟩, numbered⟩, _⟩, _⟩, _⟩, _⟩, _⟩, _⟩, _⟩, interval⟩, _⟩ := valid
  exact ⟨named, numbered, interval⟩

def keyVersionIndex (keyId : Str) (keyVersion : Int) : Str := keyId ++ ⟨[0]⟩ ++ Str.ofInt keyVersion

theorem keyVersionIndex_inj (plain : (0 : UInt16) ∉ k.units) (plain' : (0 : UInt16) ∉ l.units)
    (same : keyVersionIndex k v = keyVersionIndex l w) : k = l ∧ v = w := by
  have units : k.units ++ 0 :: (Str.ofInt v).units = l.units ++ 0 :: (Str.ofInt w).units := by
    simpa [keyVersionIndex] using congrArg Str.units same
  obtain ⟨front, back⟩ := split_at_separator plain plain' units
  exact ⟨Str.ext front, Str.ofInt_injective (Str.ext back)⟩

inductive HistoryRefusal
  | invalidKeyRecord
  | duplicateKeyVersion
  | keyIdentityChanged
  | nonMonotonicKeyVersion
  | overlappingKeyVersions
  deriving DecidableEq

def scanKeys (versions : List Str) : List VerificationKeyRecord → Except HistoryRefusal Unit
  | [] => .ok ()
  | key :: rest => do
    require (validKeyRecord key = true) .invalidKeyRecord
    require (keyVersionIndex key.keyId key.keyVersion ∉ versions) .duplicateKeyVersion
    scanKeys (keyVersionIndex key.keyId key.keyVersion :: versions) rest

/-- `key` names the subject, purpose and scope of `first`. -/
def SameIdentity (first key : VerificationKeyRecord) : Prop :=
  key.subjectId = first.subjectId ∧ key.purpose = first.purpose ∧ key.scopeId = first.scopeId

instance (first key : VerificationKeyRecord) : Decidable (SameIdentity first key) :=
  inferInstanceAs (Decidable (_ ∧ _ ∧ _))

def checkOrdered : List VerificationKeyRecord → Except HistoryRefusal Unit
  | previous :: current :: rest => do
    require (current.keyVersion = previous.keyVersion + 1) .nonMonotonicKeyVersion
    require (previous.validUntilMs ≤ current.validFromMs) .overlappingKeyVersions
    checkOrdered (current :: rest)
  | _ => .ok ()

def checkSlot (slot : List VerificationKeyRecord) : Except HistoryRefusal Unit := do
  require (∀ first ∈ slot.head?, ∀ key ∈ slot, SameIdentity first key) .keyIdentityChanged
  checkOrdered (sortOn (·.keyVersion) slot)

def checkSlots : List (Str × List VerificationKeyRecord) → Except HistoryRefusal Unit
  | [] => .ok ()
  | entry :: rest => do
    checkSlot entry.2
    checkSlots rest

def validateVerificationKeyHistory (history : List VerificationKeyRecord) : Except HistoryRefusal Unit := do
  require (history ≠ [] ∧ history.length ≤ 1024) .invalidKeyRecord
  scanKeys [] history
  checkSlots (slotsOf (·.keyId) history).entries

def recordsOf (keyId : Str) (records : List VerificationKeyRecord) : List VerificationKeyRecord :=
  records.filter fun record => record.keyId = keyId

theorem mem_recordsOf : record ∈ recordsOf keyId records ↔ record ∈ records ∧ record.keyId = keyId := by
  simp [recordsOf]

/-- A later version of a key: the next number, and an interval that does not begin before the earlier one has ended. -/
def Follows (previous current : VerificationKeyRecord) : Prop :=
  current.keyVersion = previous.keyVersion + 1 ∧ previous.validUntilMs ≤ current.validFromMs

structure ValidSlot (slot : List VerificationKeyRecord) : Prop where
  identity : ∀ first ∈ slot, ∀ key ∈ slot, SameIdentity first key
  ordered : (sortOn (·.keyVersion) slot).IsChain Follows

structure ValidHistory (history : List VerificationKeyRecord) : Prop where
  nonempty : history ≠ []
  bounded : history.length ≤ 1024
  records : ∀ key ∈ history, validKeyRecord key = true
  distinct : (history.map fun key => (key.keyId, key.keyVersion)).Nodup
  slots : ∀ keyId, ValidSlot (recordsOf keyId history)

theorem checkOrdered_ok : checkOrdered ordered = .ok () ↔ ordered.IsChain Follows := by
  induction ordered with
  | nil => simp [checkOrdered]
  | cons previous rest ih =>
    cases rest with
    | nil => simp [checkOrdered]
    | cons current rest =>
      rw [checkOrdered, isChain_cons_cons, ← ih, require_bind, require_bind, Follows, and_assoc]

theorem checkSlot_ok : checkSlot slot = .ok () ↔ ValidSlot slot := by
  constructor
  · intro passed
    obtain ⟨identity, ordered⟩ := require_bind.mp passed
    refine ⟨?_, checkOrdered_ok.mp ordered⟩
    intro first member key other
    cases slot with
    | nil => exact absurd member not_mem_nil
    | cons head rest =>
      obtain ⟨subject, purpose, scope⟩ := identity head rfl first member
      obtain ⟨subject', purpose', scope'⟩ := identity head rfl key other
      exact ⟨subject'.trans subject.symm, purpose'.trans purpose.symm, scope'.trans scope.symm⟩
  · rintro ⟨identity, ordered⟩
    refine require_bind.mpr ⟨?_, checkOrdered_ok.mpr ordered⟩
    intro first head key member
    exact identity first (mem_of_mem_head? head) key member

theorem checkSlots_ok : checkSlots entries = .ok () ↔ ∀ entry ∈ entries, ValidSlot entry.2 := by
  induction entries with
  | nil => simp [checkSlots]
  | cons entry rest ih =>
    rw [checkSlots, forall_mem_cons, ← ih, ← checkSlot_ok, bind_ok]
    exact ⟨fun ⟨_, both⟩ => both, fun both => ⟨(), both⟩⟩

variable {history : List VerificationKeyRecord}

theorem scanKeys_ok :
    scanKeys versions history = .ok () ↔ (∀ key ∈ history, validKeyRecord key = true) ∧
      (history.map fun key => keyVersionIndex key.keyId key.keyVersion).Nodup ∧
      ∀ key ∈ history, keyVersionIndex key.keyId key.keyVersion ∉ versions := by
  induction history generalizing versions with
  | nil => simp [scanKeys]
  | cons key rest ih =>
    rw [scanKeys, forall_mem_cons, forall_mem_cons, map_cons, nodup_cons]
    constructor
    · intro passed
      obtain ⟨valid, passed⟩ := require_bind.mp passed
      obtain ⟨fresh, passed⟩ := require_bind.mp passed
      obtain ⟨valids, distinct, unseen⟩ := ih.mp passed
      refine ⟨⟨valid, valids⟩, ⟨?_, distinct⟩, fresh, ?_⟩
      · intro again
        obtain ⟨other, member, same⟩ := mem_map.mp again
        exact unseen other member (same ▸ mem_cons_self)
      · exact fun other member seen => unseen other member (mem_cons_of_mem _ seen)
    · rintro ⟨⟨valid, valids⟩, ⟨apart, distinct⟩, fresh, unseen⟩
      refine require_bind.mpr ⟨valid, require_bind.mpr ⟨fresh, ih.mpr ⟨valids, distinct, ?_⟩⟩⟩
      intro other member seen
      rcases mem_cons.mp seen with same | seen
      · exact apart (mem_map.mpr ⟨other, member, same⟩)
      · exact unseen other member seen

theorem nodup_index_iff (records : ∀ key ∈ history, validKeyRecord key = true) :
    (history.map fun key => keyVersionIndex key.keyId key.keyVersion).Nodup ↔
      (history.map fun key => (key.keyId, key.keyVersion)).Nodup := by
  have plain : ∀ key ∈ history, (0 : UInt16) ∉ key.keyId.units := fun key member =>
    nul_not_mem_of_identifier (validKeyRecord_facts (records key member)).named
  unfold List.Nodup
  rw [pairwise_map, pairwise_map]
  refine List.Pairwise.iff_of_mem ?_
  intro key other member member'
  refine not_congr ⟨fun same => ?_, fun same => ?_⟩
  · obtain ⟨ids, versions⟩ := keyVersionIndex_inj (plain key member) (plain other member') same
    exact Prod.ext ids versions
  · obtain ⟨ids, versions⟩ := Prod.mk.inj same
    rw [ids, versions]

theorem validateVerificationKeyHistory_ok :
    validateVerificationKeyHistory history = .ok () ↔ ValidHistory history := by
  have slotsValid : (∀ entry ∈ (slotsOf (·.keyId) history).entries, ValidSlot entry.2) ↔
      ∀ keyId, ValidSlot (recordsOf keyId history) := by
    rw [forall_slotsOf (P := fun _ slot => ValidSlot slot)]
    refine forall_congr' fun keyId => ⟨fun occurs => ?_, fun valid _ => valid⟩
    by_cases none : recordsOf keyId history = []
    · rw [none]
      exact ⟨fun _ member => absurd member not_mem_nil, .nil⟩
    · exact occurs none
  constructor
  · intro passed
    obtain ⟨⟨nonempty, bounded⟩, passed⟩ := require_bind.mp passed
    obtain ⟨_, scanned, checked⟩ := bind_ok.mp passed
    obtain ⟨records, distinct, _⟩ := scanKeys_ok.mp scanned
    exact ⟨nonempty, bounded, records, (nodup_index_iff records).mp distinct, slotsValid.mp (checkSlots_ok.mp checked)⟩
  · rintro ⟨nonempty, bounded, records, distinct, slots⟩
    refine require_bind.mpr ⟨⟨nonempty, bounded⟩, bind_ok.mpr ⟨(), scanKeys_ok.mpr ⟨records, ?_, ?_⟩, ?_⟩⟩
    · exact (nodup_index_iff records).mpr distinct
    · exact fun _ _ => not_mem_nil
    · exact checkSlots_ok.mpr (slotsValid.mpr slots)

/-- Versions that follow one another are apart, however many lie between. -/
theorem follows_apart {ordered : List VerificationKeyRecord} (facts : ∀ key ∈ ordered, RecordFacts key)
    (chain : ordered.IsChain Follows) :
    ordered.Pairwise fun a b => a.keyVersion < b.keyVersion ∧ a.validUntilMs ≤ b.validFromMs := by
  induction ordered with
  | nil => exact List.Pairwise.nil
  | cons first rest ih =>
    obtain ⟨firstFacts, restFacts⟩ := forall_mem_cons.mp facts
    have later := ih restFacts chain.of_cons
    refine pairwise_cons.mpr ⟨?_, later⟩
    cases rest with
    | nil => exact fun _ member => absurd member not_mem_nil
    | cons second rest =>
      obtain ⟨number, apart⟩ := (isChain_cons_cons.mp chain).1
      intro key member
      rcases mem_cons.mp member with rfl | beyond
      · exact ⟨by omega, apart⟩
      · obtain ⟨after, beyondEnd⟩ := (pairwise_cons.mp later).1 key beyond
        have interval := (restFacts second mem_cons_self).interval
        exact ⟨by omega, by omega⟩

theorem ValidHistory.apart (valid : ValidHistory history) {a b : VerificationKeyRecord} (memberA : a ∈ history)
    (memberB : b ∈ history) (sameKey : a.keyId = b.keyId) (earlier : a.keyVersion < b.keyVersion) :
    a.validUntilMs ≤ b.validFromMs := by
  have facts : ∀ key ∈ sortOn (·.keyVersion) (recordsOf b.keyId history), RecordFacts key := fun key member =>
    validKeyRecord_facts (valid.records key (mem_recordsOf.mp (mem_sortOn.mp member)).1)
  have apart := follows_apart facts (valid.slots b.keyId).ordered
  have inA : a ∈ sortOn (·.keyVersion) (recordsOf b.keyId history) := mem_sortOn.mpr (mem_recordsOf.mpr ⟨memberA, sameKey⟩)
  have inB : b ∈ sortOn (·.keyVersion) (recordsOf b.keyId history) := mem_sortOn.mpr (mem_recordsOf.mpr ⟨memberB, rfl⟩)
  obtain ⟨front, back, split⟩ := append_of_mem inB
  rw [split] at apart inA
  obtain ⟨_, tail, cross⟩ := pairwise_append.mp apart
  rcases mem_append.mp inA with before | after
  · exact (cross a before b mem_cons_self).2
  · rcases mem_cons.mp after with rfl | after
    · omega
    · have := ((pairwise_cons.mp tail).1 a after).1
      omega

theorem ValidHistory.eq_of_version (valid : ValidHistory history) (memberA : a ∈ history) (memberB : b ∈ history)
    (sameKey : a.keyId = b.keyId) (sameVersion : a.keyVersion = b.keyVersion) : a = b :=
  inj_on_of_nodup_map valid.distinct memberA memberB (Prod.ext sameKey sameVersion)

/-- The value that only `compileVerificationKeyHistory` makes. -/
structure CompiledVerificationKeyHistory where
  records : List VerificationKeyRecord
  valid : validateVerificationKeyHistory records = .ok ()

def CompiledVerificationKeyHistory.index (history : CompiledVerificationKeyHistory) : Map Str VerificationKeyRecord :=
  history.records.foldl (fun index key => index.set (keyVersionIndex key.keyId key.keyVersion) key) Map.empty

def CompiledVerificationKeyHistory.lookup (history : CompiledVerificationKeyHistory) (keyId : Str) (keyVersion : Int) :
    Option VerificationKeyRecord :=
  history.index.get (keyVersionIndex keyId keyVersion)

def compileVerificationKeyHistory (records : List VerificationKeyRecord) :
    Except HistoryRefusal CompiledVerificationKeyHistory :=
  match validation : validateVerificationKeyHistory records with
  | .error reason => .error reason
  | .ok () => .ok ⟨records, validation⟩

theorem CompiledVerificationKeyHistory.lookup_eq_some {history : CompiledVerificationKeyHistory}
    (named : identifier keyId 256 = true) :
    history.lookup keyId keyVersion = some key ↔
      key ∈ history.records ∧ key.keyId = keyId ∧ key.keyVersion = keyVersion := by
  have valid := validateVerificationKeyHistory_ok.mp history.valid
  have distinct := (nodup_index_iff valid.records).mpr valid.distinct
  unfold lookup index
  rw [Map.get_foldl_assign_iff _ distinct]
  refine and_congr_right fun member => ⟨fun same => ?_, fun same => ?_⟩
  · have plain := nul_not_mem_of_identifier (validKeyRecord_facts (valid.records key member)).named
    exact keyVersionIndex_inj plain (nul_not_mem_of_identifier named) same
  · rw [same.1, same.2]

structure KeyBoundAuthentication where
  version : Int
  purpose : Str
  scopeId : Str
  unitId : Str
  subjectId : Str
  keyId : Str
  keyVersion : Int
  scheme : Str
  publicKey : Str
  statementDigest : Str
  issuedAtMs : Int
  signature : Str

def isKeyBoundAuthentication (authentication : KeyBoundAuthentication) : Bool :=
  authentication.version == 1 &&
  identifier authentication.purpose 128 &&
  boundedText authentication.scopeId 256 &&
  boundedText authentication.unitId 256 &&
  identifier authentication.subjectId 256 &&
  identifier authentication.keyId 256 &&
  safePositiveInteger authentication.keyVersion &&
  identifier authentication.scheme 128 &&
  boundedText authentication.publicKey 16384 &&
  boundedText authentication.statementDigest 4096 &&
  safeNonNegativeInteger authentication.issuedAtMs &&
  boundedText authentication.signature 16384

theorem isKeyBoundAuthentication_named (shaped : isKeyBoundAuthentication authentication = true) :
    identifier authentication.keyId 256 = true := by
  simp only [isKeyBoundAuthentication, Bool.and_eq_true] at shaped
  exact shaped.1.1.1.1.1.1.2

def canonicalKeyBoundSignatureStatement (authentication : KeyBoundAuthentication) : Str :=
  jsonArray [jsonString "converge-audit-key-bound-signature-v1", jsonNumber authentication.version,
    jsonString authentication.purpose, jsonString authentication.scopeId, jsonString authentication.unitId,
    jsonString authentication.subjectId, jsonString authentication.keyId, jsonNumber authentication.keyVersion,
    jsonString authentication.scheme, jsonString authentication.publicKey, jsonString authentication.statementDigest,
    jsonNumber authentication.issuedAtMs]

inductive IssuanceRefusal
  | keyNotYetValid
  | keyExpired
  | keyRevoked

inductive KeyBoundRefusal
  | invalidAuthentication
  | invalidKeyHistory
  | expectedBindingMismatch
  | unknownKeyVersion
  | keyRecordBindingMismatch
  | statementFromFuture
  | atIssuance (refusal : IssuanceRefusal)
  | unsupportedScheme
  | invalidSignature

def issuanceTimeRefusal (key : VerificationKeyRecord) (issuedAtMs : Int) : Option IssuanceRefusal :=
  if safeNonNegativeInteger issuedAtMs = false ∨ issuedAtMs < key.validFromMs then some .keyNotYetValid
  else if key.validUntilMs ≤ issuedAtMs then some .keyExpired
  else if key.revokedAtMs.any (fun revokedAtMs => decide (revokedAtMs ≤ issuedAtMs)) then some .keyRevoked
  else none

theorem issuanceTimeRefusal_eq_none :
    issuanceTimeRefusal key issuedAtMs = none ↔ safeNonNegativeInteger issuedAtMs = true ∧
      key.validFromMs ≤ issuedAtMs ∧ issuedAtMs < key.validUntilMs ∧
      ∀ revokedAtMs, key.revokedAtMs = some revokedAtMs → issuedAtMs < revokedAtMs := by
  unfold issuanceTimeRefusal
  cases safe : safeNonNegativeInteger issuedAtMs with
  | false => simp
  | true =>
    by_cases early : issuedAtMs < key.validFromMs
    · simp [early]
    · by_cases late : key.validUntilMs ≤ issuedAtMs
      · simp [early, late]
      · cases key.revokedAtMs with
        | none => simp [early, late, not_lt.mp early, not_le.mp late]
        | some revokedAtMs => simp [early, late, not_lt.mp early, not_le.mp late]

/-- What the verifier is given besides the statement. `history` is `none` for a value that was not compiled. -/
structure KeyBoundVerificationContext where
  purpose : Str
  scopeId : Str
  unitId : Str
  subjectId : Str
  statementDigest : Str
  nowMs : Int
  maxClockSkewMs : Int
  history : Option CompiledVerificationKeyHistory
  hashString : Str → Str
  /-- The registry of signature verifiers: public key, digest, signature. -/
  verifiers : Str → Option (Str → Str → Str → Bool)

def preflightKeyBoundStatement (authentication : KeyBoundAuthentication) (options : KeyBoundVerificationContext) :
    Except KeyBoundRefusal VerificationKeyRecord := do
  require (isKeyBoundAuthentication authentication = true) .invalidAuthentication
  let history ← given options.history .invalidKeyHistory
  require (authentication.purpose = options.purpose ∧ authentication.scopeId = options.scopeId ∧
    authentication.unitId = options.unitId ∧ authentication.subjectId = options.subjectId ∧
    authentication.statementDigest = options.statementDigest) .expectedBindingMismatch
  let key ← given (history.lookup authentication.keyId authentication.keyVersion) .unknownKeyVersion
  require (key.subjectId = authentication.subjectId ∧ key.purpose = authentication.purpose ∧
    key.scopeId = authentication.scopeId ∧ key.scheme = authentication.scheme ∧
    key.publicKey = authentication.publicKey) .keyRecordBindingMismatch
  require (safeNonNegativeInteger options.nowMs = true ∧ safeNonNegativeInteger options.maxClockSkewMs = true ∧
    safeNonNegativeInteger (options.nowMs + options.maxClockSkewMs) = true ∧
    authentication.issuedAtMs ≤ options.nowMs + options.maxClockSkewMs) .statementFromFuture
  match issuanceTimeRefusal key authentication.issuedAtMs with
  | some refusal => .error (.atIssuance refusal)
  | none =>
    require ((options.verifiers authentication.scheme).isSome = true) .unsupportedScheme
    .ok key

def verifyKeyBoundStatement (authentication : KeyBoundAuthentication) (options : KeyBoundVerificationContext) :
    Except KeyBoundRefusal (Str × Int) := do
  let key ← preflightKeyBoundStatement authentication options
  let verifier ← given (options.verifiers authentication.scheme) .unsupportedScheme
  let digest := options.hashString (canonicalKeyBoundSignatureStatement authentication)
  require (verifier key.publicKey digest authentication.signature = true) .invalidSignature
  .ok (authentication.keyId, authentication.keyVersion)

end ConvergeAudit.Keys
