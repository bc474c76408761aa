import ConvergeAudit.Keys.History

/-!
`key-lifecycle-ledger.ts`: a command is planned against an image; the plan gives the new records of its key and the
event to append.
-/

namespace ConvergeAudit.Keys

open Moon Js Lib.Fallible

inductive LifecycleEventKind
  | provision
  | rotate
  | revoke
  deriving DecidableEq

/-- `Omit<VerificationKeyLifecycleEvent, "eventDigest">`. -/
structure PlannedLifecycleEvent where
  version : Int
  keyId : Str
  keyVersion : Int
  lifecycleRevision : Int
  eventKind : LifecycleEventKind
  canonicalEvent : Str
  committedAtMs : Int
  deriving DecidableEq

structure VerificationKeyLifecycleEvent extends PlannedLifecycleEvent where
  eventDigest : Str
  deriving DecidableEq

/-- `{ ...event, eventDigest }`. -/
def PlannedLifecycleEvent.withDigest (event : PlannedLifecycleEvent) (eventDigest : Str) : VerificationKeyLifecycleEvent :=
  { event with eventDigest }

@[simp] theorem PlannedLifecycleEvent.withDigest_planned (event : PlannedLifecycleEvent) (eventDigest : Str) :
    (event.withDigest eventDigest).toPlannedLifecycleEvent = event := rfl

structure VerificationKeyLifecycleImage where
  records : List VerificationKeyRecord
  events : List VerificationKeyLifecycleEvent

/-- `UnsignedVerificationKeyLifecycleCommand`. -/
inductive LifecycleCommand
  | provision (expectedRevision committedAtMs : Int) (record : VerificationKeyRecord)
  | rotate (expectedRevision committedAtMs : Int) (keyId : Str) (previousKeyVersion : Int)
      (nextRecord : VerificationKeyRecord) (cutoverMs : Int)
  | revoke (expectedRevision committedAtMs : Int) (keyId : Str) (keyVersion revokedAtMs : Int)

namespace LifecycleCommand

def expectedRevision : LifecycleCommand → Int
  | provision expectedRevision _ _ => expectedRevision
  | rotate expectedRevision _ _ _ _ _ => expectedRevision
  | revoke expectedRevision _ _ _ _ => expectedRevision

def committedAtMs : LifecycleCommand → Int
  | provision _ committedAtMs _ => committedAtMs
  | rotate _ committedAtMs _ _ _ _ => committedAtMs
  | revoke _ committedAtMs _ _ _ => committedAtMs

def kind : LifecycleCommand → LifecycleEventKind
  | provision .. => .provision
  | rotate .. => .rotate
  | revoke .. => .revoke

def keyId : LifecycleCommand → Str
  | provision _ _ record => record.keyId
  | rotate _ _ keyId _ _ _ => keyId
  | revoke _ _ keyId _ _ => keyId

end LifecycleCommand

section
variable (kind : LifecycleEventKind) (keyId : Str) (records : List VerificationKeyRecord)
  (events : List VerificationKeyLifecycleEvent) (image : VerificationKeyLifecycleImage)

inductive LifecycleRefusal
  | invalidTransition
  | staleRevision
  | keyAlreadyExists
  | unknownKey
  | corruptStore
  deriving DecidableEq

structure LifecyclePlan where
  records : List VerificationKeyRecord
  event : PlannedLifecycleEvent
  deriving DecidableEq

def lifecycleEventShaped (event : VerificationKeyLifecycleEvent) : Bool :=
  event.version == 1 && identifier event.keyId 256 && safePositiveInteger event.keyVersion &&
  safePositiveInteger event.lifecycleRevision && isDigest event.eventDigest &&
  decide (0 < event.canonicalEvent.length ∧ event.canonicalEvent.length ≤ 65536) &&
  safeNonNegativeInteger event.committedAtMs

/-- The checks of the events of one key. -/
def eventSlotValid : Bool :=
  let ordered := sortOn (·.lifecycleRevision) events
  (ordered.head?.any fun event => event.eventKind == .provision) &&
  numbered (·.lifecycleRevision) 1 ordered && ordered.all fun event => event.keyId == keyId

def eventsOfKind : List VerificationKeyLifecycleEvent :=
  events.filter fun event => event.eventKind = kind

def revokedVersions : List Int :=
  (records.filter fun record => record.revokedAtMs.isSome).map (·.keyVersion)

/-- The checks of one key, with its records and its events in order. -/
def keyLedgerValid : Bool :=
  (events.head?.any fun event => event.eventKind == .provision && event.keyVersion == 1) &&
  numbered (·.keyVersion) 1 records &&
  decide (events.IsChain fun earlier later => earlier.committedAtMs ≤ later.committedAtMs) &&
  decide (((eventsOfKind .rotate events).length : Int) = records.length - 1) &&
  numbered (·.keyVersion) 2 (eventsOfKind .rotate events) &&
  decide ((eventsOfKind .revoke events).map (·.keyVersion)).Nodup &&
  ((eventsOfKind .revoke events).all fun event => (revokedVersions records).contains event.keyVersion) &&
  (revokedVersions records).all fun keyVersion =>
    (eventsOfKind .revoke events).any fun event => event.keyVersion == keyVersion

def eventsOf : List VerificationKeyLifecycleEvent :=
  events.filter fun event => event.keyId = keyId

def lifecycleImageValid : Bool :=
  (image.records.isEmpty || decide (validateVerificationKeyHistory image.records = .ok ())) &&
  image.events.all lifecycleEventShaped &&
  let eventSlots := slotsOf (·.keyId) image.events
  (eventSlots.entries.all fun entry => eventSlotValid entry.1 entry.2) &&
  let recordKeyIds := unseen (image.records.map (·.keyId))
  recordKeyIds.length == eventSlots.length &&
  recordKeyIds.all fun keyId =>
    keyLedgerValid (sortOn (·.keyVersion) (recordsOf keyId image.records))
      (sortOn (·.lifecycleRevision) ((eventSlots.get keyId).getD []))

def recordTuple (record : VerificationKeyRecord) : Str :=
  jsonArray [jsonNumber record.version, jsonString record.keyId, jsonNumber record.keyVersion,
    jsonString record.subjectId, jsonString record.purpose, jsonString record.scopeId, jsonString record.scheme,
    jsonString record.publicKey, jsonNumber record.validFromMs, jsonNumber record.validUntilMs,
    jsonNullable record.revokedAtMs]

def canonicalVerificationKeyLifecycleEvent (command : LifecycleCommand) (lifecycleRevision : Int) : Str :=
  match command with
  | .provision expectedRevision committedAtMs record =>
    jsonArray [jsonString "converge-audit-verification-key-lifecycle-v1", jsonString "provision",
      jsonNumber lifecycleRevision, jsonNumber expectedRevision, recordTuple record, jsonNumber committedAtMs]
  | .rotate expectedRevision committedAtMs keyId previousKeyVersion nextRecord cutoverMs =>
    jsonArray [jsonString "converge-audit-verification-key-lifecycle-v1", jsonString "rotate",
      jsonNumber lifecycleRevision, jsonNumber expectedRevision, jsonString keyId, jsonNumber previousKeyVersion,
      jsonNumber cutoverMs, recordTuple nextRecord, jsonNumber committedAtMs]
  | .revoke expectedRevision committedAtMs keyId keyVersion revokedAtMs =>
    jsonArray [jsonString "converge-audit-verification-key-lifecycle-v1", jsonString "revoke",
      jsonNumber lifecycleRevision, jsonNumber expectedRevision, jsonString keyId, jsonNumber keyVersion,
      jsonNumber revokedAtMs, jsonNumber committedAtMs]

/-- `{ ...record, validUntilMs }` for the version that is rotated out. -/
def endVersion (keyVersion cutoverMs : Int) (record : VerificationKeyRecord) : VerificationKeyRecord :=
  if record.keyVersion = keyVersion then { record with validUntilMs := cutoverMs } else record

/-- `{ ...record, revokedAtMs }` for the version that is revoked. -/
def revokeVersion (keyVersion revokedAtMs : Int) (record : VerificationKeyRecord) : VerificationKeyRecord :=
  if record.keyVersion = keyVersion then { record with revokedAtMs := some revokedAtMs } else record

/-- The records of the key after a command, and the version that the event names. -/
def transition : LifecycleCommand → Except LifecycleRefusal (List VerificationKeyRecord × Int)
  | .provision expectedRevision _ record => do
    require (records = [] ∧ events = []) .keyAlreadyExists
    require (expectedRevision = 0 ∧ record.keyVersion = 1 ∧ record.revokedAtMs = none ∧
      validateVerificationKeyHistory [record] = .ok ()) .invalidTransition
    .ok ([record], record.keyVersion)
  | .rotate _ _ keyId previousKeyVersion nextRecord cutoverMs => do
    let ordered := sortOn (·.keyVersion) records
    let previous ← given ordered.getLast? .unknownKey
    require (previous.keyVersion = previousKeyVersion ∧ nextRecord.keyId = keyId ∧
      nextRecord.keyVersion = previous.keyVersion + 1 ∧ nextRecord.subjectId = previous.subjectId ∧
      nextRecord.purpose = previous.purpose ∧ nextRecord.scopeId = previous.scopeId ∧
      nextRecord.validFromMs = cutoverMs ∧ nextRecord.revokedAtMs = none ∧ safeNonNegativeInteger cutoverMs = true ∧
      previous.validFromMs < cutoverMs ∧ cutoverMs ≤ previous.validUntilMs) .invalidTransition
    let nextRecords := ordered.map (endVersion previous.keyVersion cutoverMs) ++ [nextRecord]
    require (validateVerificationKeyHistory nextRecords = .ok ()) .invalidTransition
    .ok (nextRecords, nextRecord.keyVersion)
  | .revoke _ _ _ keyVersion revokedAtMs => do
    let target ← given (records.find? fun record => record.keyVersion = keyVersion) .unknownKey
    require (target.revokedAtMs = none ∧ safeNonNegativeInteger revokedAtMs = true ∧ target.validFromMs ≤ revokedAtMs ∧
      revokedAtMs ≤ target.validUntilMs) .invalidTransition
    let nextRecords := records.map (revokeVersion keyVersion revokedAtMs)
    require (validateVerificationKeyHistory nextRecords = .ok ()) .invalidTransition
    .ok (nextRecords, keyVersion)

/-- `events.at(-1)?.lifecycleRevision ?? 0`. -/
def currentRevision : Int :=
  (events.getLast?.map (·.lifecycleRevision)).getD 0

def planVerificationKeyLifecycleMutation (command : LifecycleCommand) : Except LifecycleRefusal LifecyclePlan := do
  require (lifecycleImageValid image = true) .corruptStore
  require (safeNonNegativeInteger command.expectedRevision = true ∧ safeNonNegativeInteger command.committedAtMs = true)
    .invalidTransition
  let records := recordsOf command.keyId image.records
  let events := eventsOf command.keyId image.events
  require (command.expectedRevision = currentRevision events) .staleRevision
  let (nextRecords, eventKeyVersion) ← transition records events command
  let lifecycleRevision := currentRevision events + 1
  .ok
    { records := nextRecords
      event :=
        { version := 1, keyId := command.keyId, keyVersion := eventKeyVersion, lifecycleRevision
          eventKind := command.kind
          canonicalEvent := canonicalVerificationKeyLifecycleEvent command lifecycleRevision
          committedAtMs := command.committedAtMs } }

/-- The key's records are replaced by those of the plan, and the event is appended with its digest. -/
def VerificationKeyLifecycleImage.apply (plan : LifecyclePlan) (eventDigest : Str) : VerificationKeyLifecycleImage where
  records := (image.records.filter fun record => record.keyId ≠ plan.event.keyId) ++ plan.records
  events := image.events ++ [plan.event.withDigest eventDigest]

/-- The images that successful plans lead to, from the empty one. -/
inductive ReachedImage : VerificationKeyLifecycleImage → Prop
  | empty : ReachedImage ⟨[], []⟩
  | step {image : VerificationKeyLifecycleImage} {command : LifecycleCommand} {plan : LifecyclePlan} {eventDigest : Str}
      (reached : ReachedImage image) (planned : planVerificationKeyLifecycleMutation image command = .ok plan)
      (hashed : isDigest eventDigest = true) : ReachedImage (image.apply plan eventDigest)

end

end ConvergeAudit.Keys
