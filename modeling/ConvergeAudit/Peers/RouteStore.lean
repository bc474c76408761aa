import ConvergeAudit.Runtime.PeerRoutes
import ConvergeAudit.Runtime.Outbox
import ConvergeAudit.Js.Values
import ConvergeAudit.Lib.Table

/-!
`peer-route-sqlite.ts`: the attempt clock, the routes with their leases, and the fork evidence. `urlValid` stands for
the parser of endpoint addresses, which the store only asks whether it accepts one. Texts are bound to a statement as
SQLite keeps them; what the code compares with a row that it has read is not converted.
-/

namespace ConvergeAudit.Peers

open Moon Js ConvergeAudit.Runtime Lib.Table Lib.Fallible

structure PeerRouteEndpoint where
  peerId : Str
  endpointUrl : Str
  deriving DecidableEq

/-- `lease_expires_at_ms` and `lease_attempt_order`, which a row has both or neither of. -/
structure Lease where
  expiresAtMs : ℤ
  attemptOrder : ℤ
  deriving DecidableEq

structure RouteRow where
  peerId : Str
  endpointUrl : Str
  available : Bool
  quarantined : Bool
  failures : ℤ
  nextRetryAtMs : ℤ
  lastAttemptOrder : ℤ
  lease : Option Lease
  deriving DecidableEq

structure PeerRouteClaim where
  route : PeerRouteState
  endpoint : PeerRouteEndpoint
  attemptOrder : ℤ
  leaseExpiresAtMs : ℤ
  deriving DecidableEq

structure PeerForkEvidence where
  peerId : Str
  expectedDigest : Str
  conflictingDigest : Str
  receivedAtMs : ℤ
  canonicalResponse : Str
  deriving DecidableEq

def PeerForkEvidence.stored (evidence : PeerForkEvidence) : PeerForkEvidence :=
  ⟨sqlText evidence.peerId, sqlText evidence.expectedDigest, sqlText evidence.conflictingDigest, evidence.receivedAtMs,
    sqlText evidence.canonicalResponse⟩

structure PeerRouteDatabase where
  boundary : AuditBoundary
  nextAttemptOrder : ℤ
  routes : List RouteRow
  evidence : List PeerForkEvidence
  deriving DecidableEq

namespace PeerRouteDatabase

def create (boundary : AuditBoundary) : PeerRouteDatabase := ⟨boundary, 1, [], []⟩

def routeAt (db : PeerRouteDatabase) (peerId : Str) : Option RouteRow :=
  db.routes.find? fun row => row.peerId = sqlText peerId

end PeerRouteDatabase

section
variable (urlValid : Str → Bool) (db : PeerRouteDatabase) (nowMs : ℤ) (claim : PeerRouteClaim)
  (nextRoute : PeerRouteState) (evidence : PeerForkEvidence)

def endpointValid (peerId endpointUrl : Str) : Bool := peerId ≠ Str.empty && urlValid endpointUrl

inductive ConfigureResult
  | configured (inserted : ℕ)
  | refused
  | conflict (peerId : Str)

/-- `INSERT OR IGNORE`: a peer that has a route keeps it. -/
def insertRoute (routes : List RouteRow) (endpoint : PeerRouteEndpoint) : List RouteRow :=
  if routes.any fun row => row.peerId = sqlText endpoint.peerId then routes
  else routes ++ [{ peerId := sqlText endpoint.peerId, endpointUrl := sqlText endpoint.endpointUrl, available := true
                    quarantined := false, failures := 0, nextRetryAtMs := 0, lastAttemptOrder := 0, lease := none }]

def configureRoutes (endpoints : List PeerRouteEndpoint) : PeerRouteDatabase × ConfigureResult :=
  if endpoints = [] ∨ ¬ (endpoints.map (·.peerId)).Nodup ∨
    ∃ endpoint ∈ endpoints, endpointValid urlValid endpoint.peerId endpoint.endpointUrl = false then (db, .refused)
  else match endpoints.find? fun endpoint =>
      (db.routeAt endpoint.peerId).any fun existing => existing.endpointUrl ≠ endpoint.endpointUrl with
    | some endpoint => (db, .conflict endpoint.peerId)
    | none =>
      let routes := endpoints.foldl insertRoute db.routes
      ({ db with routes }, .configured (routes.length - db.routes.length))

def routeState (row : RouteRow) : PeerRouteState where
  peerId := row.peerId
  available := row.available
  quarantined := row.quarantined
  failures := row.failures
  nextRetryAtMs := row.nextRetryAtMs
  lastAttemptOrder := row.lastAttemptOrder

/-- The lease, if there is one, has run out. -/
def leaseFree (lease : Option Lease) : Bool := lease.all fun held => decide (held.expiresAtMs ≤ nowMs)

def claimable (row : RouteRow) : Bool :=
  row.available && !row.quarantined && decide (row.nextRetryAtMs ≤ nowMs) && leaseFree nowMs row.lease

def routeStates : List PeerRouteState :=
  if safeNonNegativeInteger nowMs then
    db.routes.map fun row => { routeState row with available := row.available && leaseFree nowMs row.lease }
  else []

def activeLeaseCount : ℕ :=
  if safeNonNegativeInteger nowMs then db.routes.countP fun row => row.lease.any fun held => decide (nowMs < held.expiresAtMs)
  else 0

def grantLease (routes : List RouteRow) (peerId : Str) (nowMs : ℤ) (lease : Lease) : List RouteRow × ℕ :=
  updateWhere (fun row => decide (row.peerId = sqlText peerId) && claimable nowMs row)
    (fun row => { row with lease := some lease }) routes

structure ClaimLoop where
  nextAttemptOrder : ℤ
  routes : List RouteRow
  claims : List PeerRouteClaim

def claimRoute (leaseExpiresAt : ℤ) (loop : ClaimLoop) (peerId : Str) : ClaimLoop :=
  if loop.nextAttemptOrder > 2147483647 then loop
  else match loop.routes.find? fun row => row.peerId = sqlText peerId with
  | none => loop
  | some row =>
    if !claimable nowMs row then loop
    else
      let updated := grantLease loop.routes peerId nowMs ⟨leaseExpiresAt, loop.nextAttemptOrder⟩
      if updated.2 ≠ 1 then loop
      else
        { nextAttemptOrder := loop.nextAttemptOrder + 1
          routes := updated.1
          claims := loop.claims ++
            [{ route := routeState row, endpoint := ⟨row.peerId, row.endpointUrl⟩
               attemptOrder := loop.nextAttemptOrder, leaseExpiresAtMs := leaseExpiresAt }] }

def claimRoutes (peerIds : List Str) (nowMs leaseDurationMs : ℤ) : PeerRouteDatabase × List PeerRouteClaim :=
  if safeNonNegativeInteger nowMs ∧ safePositiveInteger leaseDurationMs ∧ peerIds.Nodup ∧
    nowMs + leaseDurationMs ≤ maxSafeInteger then
    let loop := peerIds.foldl (claimRoute nowMs (nowMs + leaseDurationMs)) ⟨db.nextAttemptOrder, db.routes, []⟩
    ({ db with nextAttemptOrder := loop.nextAttemptOrder, routes := loop.routes }, loop.claims)
  else (db, [])

def leased (row : RouteRow) : Bool :=
  decide (row.peerId = sqlText claim.route.peerId) &&
    decide (row.lease = some ⟨claim.leaseExpiresAtMs, claim.attemptOrder⟩)

def settleRow (quarantine : Bool) (row : RouteRow) : RouteRow :=
  { row with
    available := nextRoute.available, quarantined := quarantine || nextRoute.quarantined, failures := nextRoute.failures
    nextRetryAtMs := nextRoute.nextRetryAtMs, lastAttemptOrder := nextRoute.lastAttemptOrder, lease := none }

def updateClaimedRoute (quarantine : Bool) : PeerRouteDatabase × ℕ :=
  let updated := updateWhere (leased claim) (settleRow nextRoute quarantine) db.routes
  ({ db with routes := updated.1 }, updated.2)

def completeClaim : PeerRouteDatabase × Bool :=
  if claim.route.peerId ≠ nextRoute.peerId ∨ nextRoute.lastAttemptOrder ≠ claim.attemptOrder then (db, false)
  else
    let updated := updateClaimedRoute db claim nextRoute false
    (updated.1, updated.2 == 1)

def sameFork (other : PeerForkEvidence) : Bool :=
  decide (other.peerId = evidence.peerId ∧ other.expectedDigest = evidence.expectedDigest ∧
    other.conflictingDigest = evidence.conflictingDigest)

/-- The checks before the transaction of `recordFork`. -/
def forkShaped : Bool :=
  decide (evidence.peerId = claim.route.peerId) && evidence.expectedDigest ≠ Str.empty &&
  evidence.conflictingDigest ≠ Str.empty && evidence.expectedDigest ≠ evidence.conflictingDigest &&
  evidence.canonicalResponse ≠ Str.empty && safeNonNegativeInteger evidence.receivedAtMs &&
  decide (nextRoute.lastAttemptOrder = claim.attemptOrder)

/-- The outcome `none` is a thrown constraint: the evidence would name a peer that has no route. -/
def recordFork : PeerRouteDatabase × Option Bool :=
  if !forkShaped claim nextRoute evidence then (db, some false)
  else match db.evidence.find? (sameFork evidence.stored) with
  | some existing =>
    if existing.receivedAtMs ≠ evidence.receivedAtMs ∨ existing.canonicalResponse ≠ evidence.canonicalResponse then
      (db, some false)
    else
      let updated := updateClaimedRoute db claim nextRoute true
      (updated.1, some (updated.2 == 1))
  | none =>
    if db.routeAt evidence.peerId = none then (db, none)
    else
      let updated := updateClaimedRoute { db with evidence := db.evidence ++ [evidence.stored] } claim nextRoute true
      (updated.1, some (updated.2 == 1))

inductive OpenFailure
  | boundaryMismatch
  | invalidAttemptClock
  | invalidForkEvidence
  | invalidRouteImage
  deriving DecidableEq

def evidenceShaped : Bool :=
  evidence.expectedDigest ≠ Str.empty && evidence.conflictingDigest ≠ Str.empty &&
  evidence.expectedDigest ≠ evidence.conflictingDigest

def rowValid (nextAttemptOrder : ℤ) (forkPeers : List Str) (row : RouteRow) : Bool :=
  endpointValid urlValid row.peerId row.endpointUrl && safeNonNegativeInteger row.failures &&
  safeNonNegativeInteger row.nextRetryAtMs && safeNonNegativeInteger row.lastAttemptOrder &&
  decide (row.lastAttemptOrder < nextAttemptOrder) &&
  (row.lease.all fun held => decide (row.lastAttemptOrder < held.attemptOrder ∧ held.attemptOrder < nextAttemptOrder)) &&
  row.quarantined == forkPeers.contains row.peerId

def assertValidImage : Except OpenFailure Unit := do
  require (1 ≤ db.nextAttemptOrder ∧ db.nextAttemptOrder ≤ 2147483648) .invalidAttemptClock
  require (∀ evidence ∈ db.evidence, evidenceShaped evidence = true) .invalidForkEvidence
  require (∀ row ∈ db.routes, rowValid urlValid db.nextAttemptOrder (db.evidence.map (·.peerId)) row = true)
    .invalidRouteImage

/-- `PeerRouteSqliteStore.open`. -/
def openStore (expectedBoundary : AuditBoundary) : Except OpenFailure Unit := do
  require (db.boundary = expectedBoundary) .boundaryMismatch
  assertValidImage urlValid db

end

end ConvergeAudit.Peers
