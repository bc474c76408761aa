import ConvergeAudit.Bft.Serialize
import ConvergeAudit.Lib.ReadyQueue

/-!
`AuditAdapter` validates signed events before they are exposed. Events that lack a dependency wait in a buffer and are
flushed when a delivery makes them ready.
-/

namespace ConvergeAudit.Bft
open Moon Lib

structure AuditAdapter where
  hasher : Hasher
  verifier : Verifier
  session : Str
  /-- Session roster: peer id to signing key. -/
  peerKeys : Map Str PublicKey
  /-- Accepted digests. -/
  digestStore : Map Str Bool
  /-- The event id under which a digest was accepted. -/
  digestIds : Map Str EventId
  /-- The digest that an event id is reserved for. -/
  eventDigests : Map Str Digest
  /-- Events whose dependencies have not all arrived. -/
  pendingBuffer : List SignedEvent
  flushedEvents : List AuthenticatedEvent
  flushedAlerts : List AuditAlert

structure Signer where
  sign : Digest → Signature
  publicKey : PublicKey

def eqKey (id : EventId) : Str := id.peer.text ++ lit ":" ++ Str.ofInt id.counter

def SignedEvent.pairs (signed : SignedEvent) : List (EventId × Digest) := signed.event.deps.zip signed.depHashes

def authenticatedEvent (signed : SignedEvent) : AuthenticatedEvent where
  sessionId := signed.sessionId
  digest := signed.digest
  authorKey := signed.authorKey
  event := signed.event

def dependencyMismatchAlert (signed : SignedEvent) : AuditAlert where
  kind := .dependencyMismatch
  peer := signed.event.id.peer
  digest := signed.digest
  detail := "event dependency ids do not match authenticated dependency digests"

namespace AuditAdapter

section
variable (self : AuditAdapter) (signed : SignedEvent)

def new (hasher : Hasher) (verifier : Verifier) (sessionId : Str) : AuditAdapter where
  hasher := hasher
  verifier := verifier
  session := sessionId
  peerKeys := Map.empty
  digestStore := Map.empty
  digestIds := Map.empty
  eventDigests := Map.empty
  pendingBuffer := []
  flushedEvents := []
  flushedAlerts := []

/-- Registration is idempotent; an existing peer cannot be rebound. -/
def registerPeer (peer : PeerId) (key : PublicKey) : AuditAdapter × Bool :=
  match self.peerKeys.get peer.text with
  | some existing => (self, existing = key)
  | none => ({ self with peerKeys := self.peerKeys.set peer.text key }, true)

def dependenciesMatch : Bool :=
  if signed.event.deps.length ≠ signed.depHashes.length then false
  else signed.pairs.all fun (dep, digest) =>
    match self.digestIds.get digest.text with
    | some id => id = dep
    | none => false

def record : AuditAdapter :=
  { self with
    digestStore := self.digestStore.set signed.digest.text true
    digestIds := self.digestIds.set signed.digest.text signed.event.id
    eventDigests := self.eventDigests.set (eqKey signed.event.id) signed.digest }

/-- The reservation of an event id, made before buffering so that a conflicting event cannot flush
later. -/
def reserve : AuditAdapter :=
  { self with eventDigests := self.eventDigests.set (eqKey signed.event.id) signed.digest }

/-- One event read from the flush queue: an alert, or acceptance and the digest it makes available. -/
def settleEvent : AuditAdapter × Option Str :=
  if !self.dependenciesMatch signed then
    ({ self with flushedAlerts := self.flushedAlerts ++ [dependencyMismatchAlert signed] }, none)
  else
    ({ self.record signed with flushedEvents := self.flushedEvents ++ [authenticatedEvent signed] },
      some signed.digest.text)

def settle (idx : Nat) : AuditAdapter × Option Str :=
  match self.pendingBuffer[idx]? with
  | some signed => self.settleEvent signed
  | none => (self, none)

def remaining (processed : List Bool) (pending : List SignedEvent) : List SignedEvent :=
  (pending.zip processed).filterMap fun (signed, done) => if !done then some signed else none

def needs : List (List Str) :=
  self.pendingBuffer.map fun signed => signed.depHashes.map Digest.text

/-- The queue loop of `try_flush`, run to its end: the index of waiting events, the seeded queue, and
one `settle` for each event read. -/
def flushQueue : ReadyQueue.State AuditAdapter :=
  let held := fun dep => self.digestStore.contains dep
  let waiters := (ReadyQueue.indexFrom held 0 self.needs Map.empty).1
  ReadyQueue.run settle waiters self.needs.length (ReadyQueue.start held self.needs self)

def tryFlush : AuditAdapter :=
  if self.pendingBuffer.length = 0 then self
  else { self.flushQueue.world with pendingBuffer := remaining self.flushQueue.processed self.pendingBuffer }

def accept : AuditAdapter := (self.record signed).tryFlush

def lacksDependency : Bool :=
  signed.depHashes.any fun dep => !self.digestStore.contains dep.text

end

section
variable [StrOrder] [DoubleFormat]

def sign (self : AuditAdapter) (signer : Signer) (event : Event) (depHashes : List Digest) : SignedEvent :=
  let digest := self.hasher.hashString (serializeForHash self.session event depHashes)
  { sessionId := self.session
    digest := digest
    signature := signer.sign digest
    authorKey := signer.publicKey
    depHashes := depHashes
    event := event }

/-- Steps 1 to 4 of `deliver` and the dependency count: the alert of the first check that fails. -/
def refusal (self : AuditAdapter) (signed : SignedEvent) : Option AuditAlert :=
  let alert := fun kind detail =>
    ({ kind := kind, peer := signed.event.id.peer, digest := signed.digest, detail := detail } : AuditAlert)
  if signed.sessionId ≠ self.session then
    some (alert .sessionMismatch (lit "expected=" ++ self.session ++ lit " received=" ++ signed.sessionId))
  else
    let recomputed := self.hasher.hashString (serializeForHash signed.sessionId signed.event signed.depHashes)
    if recomputed ≠ signed.digest then
      some (alert .hashMismatch (lit "recomputed=" ++ recomputed.text ++ lit " received=" ++ signed.digest.text))
    else
      match self.peerKeys.get signed.event.id.peer.text with
      | none => some (alert .unknownPeer "peer is not registered in the session roster")
      | some expectedKey =>
        if expectedKey ≠ signed.authorKey then
          some (alert .authorKeyMismatch
            (lit "expected=" ++ expectedKey.text ++ lit " received=" ++ signed.authorKey.text))
        else if !self.verifier.verify signed.authorKey signed.digest signed.signature then
          some (alert .invalidSignature (lit "signature verification failed for key=" ++ signed.authorKey.text))
        else if signed.event.deps.length ≠ signed.depHashes.length then
          some (dependencyMismatchAlert signed)
        else none

def deliver (self : AuditAdapter) (signed : SignedEvent) : AuditAdapter × DeliveryResult :=
  match self.refusal signed with
  | some alert => (self, .rejected alert)
  | none =>
    match self.eventDigests.get (eqKey signed.event.id) with
    | some existing =>
      if existing ≠ signed.digest then
        (self, .rejected
          { kind := .equivocation
            peer := signed.event.id.peer
            digest := signed.digest
            detail := lit "existing=" ++ existing.text ++ lit " new=" ++ signed.digest.text })
      else if self.digestStore.contains signed.digest.text then
        (self, .accepted (authenticatedEvent signed))
      else (self, .buffered)
    | none =>
      let self := self.reserve signed
      if self.lacksDependency signed then
        ({ self with pendingBuffer := self.pendingBuffer ++ [signed] }, .buffered)
      else if !self.dependenciesMatch signed then
        (self, .rejected (dependencyMismatchAlert signed))
      else (self.accept signed, .accepted (authenticatedEvent signed))

end

def takeFlushed (self : AuditAdapter) : AuditAdapter × List AuthenticatedEvent :=
  ({ self with flushedEvents := [] }, self.flushedEvents)

def takeFlushedAlerts (self : AuditAdapter) : AuditAdapter × List AuditAlert :=
  ({ self with flushedAlerts := [] }, self.flushedAlerts)

end AuditAdapter

end ConvergeAudit.Bft
