import ConvergeAudit.Peers.RouteStore

/-!
`peer-checkpoint-transport.ts`: a dispatch claims routes in one transaction and persists each attempt in another. In
between any other dispatch may take a step.
-/

namespace ConvergeAudit.Peers

open Moon Js ConvergeAudit.Runtime Lib.Table Lib.Fallible

structure PeerCheckpointDelivery where
  boundary : AuditBoundary
  epoch : ℤ
  checkpointDigest : Str
  canonicalEnvelope : Str
  deriving DecidableEq

/-- A decoded answer. Its `authentication` is read by the response verifier only. -/
structure RawPeerCheckpointResponse where
  peerId : Str
  checkpointDigest : Str
  canonicalResponse : Str

structure TransportConfiguration where
  maxInFlight : ℤ
  maxParallel : ℤ
  leaseDurationMs : ℤ
  baseBackoffMs : ℤ
  maxBackoffMs : ℤ
  deriving DecidableEq

def validConfiguration (value : TransportConfiguration) : Bool :=
  safePositiveInteger value.maxInFlight && safePositiveInteger value.maxParallel &&
  safePositiveInteger value.leaseDurationMs && safePositiveInteger value.baseBackoffMs &&
  safePositiveInteger value.maxBackoffMs && decide (value.baseBackoffMs ≤ value.maxBackoffMs)

section
variable (db : PeerRouteDatabase) (configuration : TransportConfiguration) (claim : PeerRouteClaim)
  (delivery : PeerCheckpointDelivery)

def deliveryValid : Bool :=
  safePositiveInteger delivery.boundary.protocolVersion && delivery.boundary.purpose ≠ Str.empty &&
  delivery.boundary.manifestDigest.text ≠ Str.empty && delivery.boundary.scopeId ≠ Str.empty &&
  delivery.boundary.unitId ≠ Str.empty && safeNonNegativeInteger delivery.epoch &&
  delivery.checkpointDigest ≠ Str.empty && delivery.canonicalEnvelope ≠ Str.empty

/-- The peers that a dispatch goes on to claim, from the routes that it read; `none` if it ends before. -/
def selectedPeers [StrOrder] (configuration : TransportConfiguration) (db : PeerRouteDatabase)
    (delivery : PeerCheckpointDelivery) (nowMs : ℤ) : Option (List Str) :=
  if validConfiguration configuration ∧ deliveryValid delivery ∧ safeNonNegativeInteger nowMs ∧
    nowMs ≤ 2147483647 - configuration.maxParallel then
    match selectPeerDeliveryBatch (routeStates db nowMs) nowMs (activeLeaseCount db nowMs) configuration.maxInFlight
        configuration.maxParallel with
    | .selected indices => indices.mapM fun index => (routeStates db nowMs)[index]?.map (·.peerId)
    | _ => none
  else none

/-- What came back for a claim: an answer and whether its verifier accepted it, or nothing. -/
structure Answer where
  response : RawPeerCheckpointResponse
  verified : Bool

def authenticated (answer : Option Answer) : Bool :=
  answer.any fun answer => decide (answer.response.peerId = claim.route.peerId) && answer.verified

/-- The authenticated answer for another digest, if the attempt found one. -/
def forkResponse (answer : Option Answer) : Option RawPeerCheckpointResponse :=
  if authenticated claim answer then
    (answer.map (·.response)).filter fun response => response.checkpointDigest ≠ delivery.checkpointDigest
  else none

def forkEvidence (response : RawPeerCheckpointResponse) (receivedAtMs : ℤ) : PeerForkEvidence where
  peerId := claim.route.peerId
  expectedDigest := delivery.checkpointDigest
  conflictingDigest := response.checkpointDigest
  receivedAtMs := receivedAtMs
  canonicalResponse := response.canonicalResponse

def routeUpdate (nowMs : ℤ) (answer : Option Answer) : Option PeerRouteState :=
  if authenticated claim answer then recordPeerDeliverySuccess claim.route claim.attemptOrder
  else recordPeerDeliveryFailure claim.route nowMs claim.attemptOrder configuration.baseBackoffMs configuration.maxBackoffMs

/-- The database after the attempt, and whether `persistAttempt` returned (rather than throw). -/
def persistAttempt (nowMs receivedAtMs : ℤ) (answer : Option Answer) : PeerRouteDatabase × Bool :=
  match routeUpdate configuration claim nowMs answer with
  | none => (db, false)
  | some nextRoute =>
    match forkResponse claim delivery answer with
    | some response =>
      let recorded := recordFork db claim nextRoute (forkEvidence claim delivery response receivedAtMs)
      (recorded.1, recorded.2 == some true)
    | none => completeClaim db claim nextRoute

/-- A dispatch that awaits answers, with the claims that it has not persisted. -/
structure Outstanding where
  configuration : TransportConfiguration
  delivery : PeerCheckpointDelivery
  nowMs : ℤ
  claims : List PeerRouteClaim
  deriving DecidableEq

structure System where
  db : PeerRouteDatabase
  outstanding : List Outstanding
  deriving DecidableEq

/-- One transaction. A dispatch may have selected its peers from routes that it read before other transactions; a dispatch
whose `persistAttempt` throws ends there. `plain` says which endpoints are configured, and `settled` in which states the
evidence of a fork answer is persisted. -/
inductive Step [StrOrder] (urlValid : Str → Bool) (plain : PeerRouteEndpoint → Prop)
    (settled : PeerRouteDatabase → PeerRouteClaim → PeerForkEvidence → Prop) : System → System → Prop
  | configure (system : System) (endpoints : List PeerRouteEndpoint) (kept : ∀ endpoint ∈ endpoints, plain endpoint) :
      Step urlValid plain settled system { system with db := (configureRoutes urlValid system.db endpoints).1 }
  | dispatch (system : System) (read : PeerRouteDatabase) (configuration : TransportConfiguration)
      (delivery : PeerCheckpointDelivery) (nowMs : ℤ) (peerIds : List Str)
      (selected : selectedPeers configuration read delivery nowMs = some peerIds) :
      Step urlValid plain settled system
        { db := (claimRoutes system.db peerIds nowMs configuration.leaseDurationMs).1
          outstanding := system.outstanding ++
            [⟨configuration, delivery, nowMs, (claimRoutes system.db peerIds nowMs configuration.leaseDurationMs).2⟩] }
  | persist (db : PeerRouteDatabase) (before after : List Outstanding) (dispatch : Outstanding) (claim : PeerRouteClaim)
      (rest : List PeerRouteClaim) (answer : Option Answer) (completionOrder : ℕ)
      (next : dispatch.claims = claim :: rest)
      (admitted : ∀ response, forkResponse claim dispatch.delivery answer = some response →
        settled db claim (forkEvidence claim dispatch.delivery response (dispatch.nowMs + completionOrder))) :
      Step urlValid plain settled ⟨db, before ++ dispatch :: after⟩
        { db := (persistAttempt db dispatch.configuration claim dispatch.delivery dispatch.nowMs
            (dispatch.nowMs + completionOrder) answer).1
          outstanding :=
            if (persistAttempt db dispatch.configuration claim dispatch.delivery dispatch.nowMs
              (dispatch.nowMs + completionOrder) answer).2 then before ++ { dispatch with claims := rest } :: after
            else before ++ after }

end

end ConvergeAudit.Peers
