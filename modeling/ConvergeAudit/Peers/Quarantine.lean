import ConvergeAudit.Peers.Dispatcher

/-!
Every transaction keeps the durable routes well formed. Fork evidence and quarantine stay together as long as a fork
answer is recorded under the lease of its claim, or of a route that is quarantined already, and SQLite keeps its texts.
-/

namespace ConvergeAudit.Peers

open Moon Js ConvergeAudit.Runtime Lib.Table Lib.Fallible List

structure RowSound (urlValid : Str → Bool) (clock : ℤ) (row : RouteRow) : Prop where
  kept : sqlText row.peerId = row.peerId
  endpoint : endpointValid urlValid row.peerId row.endpointUrl = true
  failures : 0 ≤ row.failures ∧ row.failures < 2 ^ 31
  retry : 0 ≤ row.nextRetryAtMs ∧ row.nextRetryAtMs < 2 ^ 31
  order : 0 ≤ row.lastAttemptOrder ∧ row.lastAttemptOrder < clock
  lease : ∀ held, row.lease = some held →
    row.lastAttemptOrder < held.attemptOrder ∧ held.attemptOrder < clock ∧ row.quarantined = false

structure RoutesSound (urlValid : Str → Bool) (clock : ℤ) (routes : List RouteRow) : Prop where
  started : 1 ≤ clock ∧ clock ≤ 2147483648
  distinct : (routes.map (·.peerId)).Nodup
  rows : ∀ row ∈ routes, RowSound urlValid clock row

/-- A peer with a route is quarantined exactly if there is evidence of it. -/
structure Paired (routes : List RouteRow) (evidence : List PeerForkEvidence) : Prop where
  known : ∀ fork ∈ evidence, ∃ row ∈ routes, row.peerId = fork.peerId
  quarantine : ∀ row ∈ routes, row.quarantined = true ↔ ∃ fork ∈ evidence, fork.peerId = row.peerId

structure DatabaseSound (urlValid : Str → Bool) (db : PeerRouteDatabase) : Prop where
  routes : RoutesSound urlValid db.nextAttemptOrder db.routes
  shaped : ∀ fork ∈ db.evidence, evidenceShaped fork = true
  paired : Paired db.routes db.evidence

/-- What a claim that is not persisted yet is known to be. -/
structure ClaimSound (db : PeerRouteDatabase) (claim : PeerRouteClaim) : Prop where
  order : claim.attemptOrder < db.nextAttemptOrder
  failures : claim.route.failures < 2 ^ 31
  known : ∃ row ∈ db.routes, row.peerId = claim.route.peerId

def SystemSound (urlValid : Str → Bool) (system : System) : Prop :=
  DatabaseSound urlValid system.db ∧ ∀ dispatch ∈ system.outstanding, ∀ claim ∈ dispatch.claims, ClaimSound system.db claim

theorem RowSound.later {later : ℤ} (sound : RowSound urlValid clock row) (le : clock ≤ later) :
    RowSound urlValid later row := by
  refine ⟨sound.kept, sound.endpoint, sound.failures, sound.retry, ⟨sound.order.1, by have := sound.order.2; omega⟩, ?_⟩
  intro held same
  obtain ⟨above, below, free⟩ := sound.lease held same
  exact ⟨above, by omega, free⟩

variable {routes : List RouteRow}

theorem RoutesSound.sole (sound : RoutesSound urlValid clock routes) (memberA : a ∈ routes) (memberB : b ∈ routes)
    (same : a.peerId = b.peerId) : a = b :=
  inj_on_of_nodup_map sound.distinct memberA memberB same

/-- How a transaction may change the routes and the clock: every peer keeps a route. -/
structure Grows (db next : PeerRouteDatabase) : Prop where
  clock : db.nextAttemptOrder ≤ next.nextAttemptOrder
  peers : ∀ row ∈ db.routes, ∃ kept ∈ next.routes, kept.peerId = row.peerId
  boundary : next.boundary = db.boundary

theorem grows_of_routes {next : PeerRouteDatabase} (clock : next.nextAttemptOrder = db.nextAttemptOrder)
    (boundary : next.boundary = db.boundary) (ids : next.routes.map (·.peerId) = db.routes.map (·.peerId)) : Grows db next :=
  ⟨clock.ge, fun _ member => exists_of_map_eq ids member, boundary⟩

theorem ClaimSound.grows {next : PeerRouteDatabase} (sound : ClaimSound db claim) (grows : Grows db next) :
    ClaimSound next claim := by
  obtain ⟨row, member, same⟩ := sound.known
  obtain ⟨kept, found, peer⟩ := grows.peers row member
  exact ⟨sound.order.trans_le grows.clock, sound.failures, kept, found, peer.trans same⟩

def PeerRouteEndpoint.Plain (endpoint : PeerRouteEndpoint) : Prop :=
  PlainText endpoint.peerId ∧ PlainText endpoint.endpointUrl

theorem insertRoute_sound (sound : RoutesSound urlValid clock routes) (paired : Paired routes evidence)
    (plain : endpoint.Plain) (valid : endpointValid urlValid endpoint.peerId endpoint.endpointUrl = true) :
    RoutesSound urlValid clock (insertRoute routes endpoint) ∧ Paired (insertRoute routes endpoint) evidence ∧
      ∀ row ∈ routes, row ∈ insertRoute routes endpoint := by
  obtain ⟨⟨kept, _⟩, url, _⟩ := plain
  rw [insertRoute, kept, url]
  split
  · exact ⟨sound, paired, fun _ member => member⟩
  · rename_i absent
    have fresh : ∀ row ∈ routes, row.peerId ≠ endpoint.peerId := fun row member same =>
      absent (any_eq_true.mpr ⟨row, member, decide_eq_true same⟩)
    refine ⟨⟨sound.started, ?_, ?_⟩, ⟨?_, ?_⟩, fun row member => mem_append_left _ member⟩
    · exact Lib.nodup_map_concat sound.distinct fresh
    · refine Lib.forall_mem_concat sound.rows ?_
      have := sound.started.1
      exact ⟨kept, valid, by norm_num, by norm_num, ⟨le_refl _, by dsimp only; omega⟩, by simp⟩
    · intro fork member
      obtain ⟨row, found, same⟩ := paired.known fork member
      exact ⟨row, mem_append_left _ found, same⟩
    · refine Lib.forall_mem_concat paired.quarantine ?_
      refine ⟨fun quarantined => absurd quarantined (by simp), ?_⟩
      rintro ⟨fork, member, same⟩
      obtain ⟨row, found, known⟩ := paired.known fork member
      exact absurd (known.trans same) (fresh row found)

theorem configureRoutes_sound {db : PeerRouteDatabase} {endpoints : List PeerRouteEndpoint}
    (plain : ∀ endpoint ∈ endpoints, endpoint.Plain) (sound : DatabaseSound urlValid db) :
    DatabaseSound urlValid (configureRoutes urlValid db endpoints).1 ∧ Grows db (configureRoutes urlValid db endpoints).1 := by
  have kept : Grows db db := grows_of_routes rfl rfl rfl
  unfold configureRoutes
  split
  · exact ⟨sound, kept⟩
  · rename_i allowed
    simp only [not_or, not_exists, not_and, Bool.not_eq_false] at allowed
    split
    · exact ⟨sound, kept⟩
    · -- the loop over the endpoints keeps the rows that it starts with
      have loop : ∀ (rest : List PeerRouteEndpoint) (routes : List RouteRow),
          (∀ endpoint ∈ rest, endpoint.Plain ∧ endpointValid urlValid endpoint.peerId endpoint.endpointUrl = true) →
          RoutesSound urlValid db.nextAttemptOrder routes → Paired routes db.evidence →
          RoutesSound urlValid db.nextAttemptOrder (rest.foldl insertRoute routes) ∧
            Paired (rest.foldl insertRoute routes) db.evidence ∧ ∀ row ∈ routes, row ∈ rest.foldl insertRoute routes := by
        intro rest
        induction rest with
        | nil => exact fun routes _ rows paired => ⟨rows, paired, fun _ member => member⟩
        | cons endpoint rest ih =>
          intro routes valid rows paired
          obtain ⟨here, later⟩ := forall_mem_cons.mp valid
          obtain ⟨rows', paired', kept'⟩ := insertRoute_sound rows paired here.1 here.2
          obtain ⟨rows'', paired'', kept''⟩ := ih _ later rows' paired'
          exact ⟨rows'', paired'', fun row member => kept'' row (kept' row member)⟩
      obtain ⟨rows, paired, grown⟩ := loop endpoints db.routes
        (fun endpoint member => ⟨plain endpoint member, allowed.2.2 endpoint member⟩) sound.routes sound.paired
      exact ⟨⟨rows, sound.shaped, paired⟩, le_refl _, fun row member => ⟨row, grown row member, rfl⟩, rfl⟩

/-- What a claim leaves alone of a route. -/
def standing (row : RouteRow) : Str × Bool := (row.peerId, row.quarantined)

theorem exists_standing {others : List RouteRow} (same : others.map standing = routes.map standing)
    (member : row ∈ routes) : ∃ kept ∈ others, kept.peerId = row.peerId ∧ kept.quarantined = row.quarantined := by
  obtain ⟨kept, found, equal⟩ := exists_of_map_eq same member
  exact ⟨kept, found, Prod.mk.inj equal⟩

theorem Paired.congr {others : List RouteRow} (paired : Paired routes evidence)
    (same : others.map standing = routes.map standing) : Paired others evidence := by
  refine ⟨fun fork member => ?_, fun row member => ?_⟩
  · obtain ⟨row, found, peer⟩ := paired.known fork member
    obtain ⟨kept, present, id, _⟩ := exists_standing same found
    exact ⟨kept, present, id.trans peer⟩
  · obtain ⟨old, found, peer, flag⟩ := exists_standing same.symm member
    rw [← flag, ← peer]
    exact paired.quarantine old found

theorem claimable_unquarantined (free : claimable nowMs row = true) : row.quarantined = false := by
  simp only [claimable, Bool.and_eq_true, Bool.not_eq_true'] at free
  exact free.1.1.2

theorem grantLease_standing : (grantLease routes peerId nowMs lease).1.map standing = routes.map standing :=
  updateWhere_map fun _ _ _ => rfl

theorem grantLease_sound (sound : RoutesSound urlValid clock routes) (bounded : clock ≤ 2147483647) :
    RoutesSound urlValid (clock + 1) (grantLease routes peerId nowMs ⟨leaseExpiresAt, clock⟩).1 := by
  have started := sound.started
  refine ⟨⟨by omega, by omega⟩, ?_, fun changed present => ?_⟩
  · have ids : (grantLease routes peerId nowMs ⟨leaseExpiresAt, clock⟩).1.map (·.peerId) = routes.map (·.peerId) :=
      updateWhere_map fun _ _ _ => rfl
    rw [ids]
    exact sound.distinct
  · rcases mem_updateWhere.mp present with ⟨old, _⟩ | ⟨old, member, selected, rfl⟩
    · exact (sound.rows changed old).later (by omega)
    · have rowSound := sound.rows old member
      have free := claimable_unquarantined (Bool.and_eq_true_iff.mp selected).2
      have order := rowSound.order
      refine ⟨rowSound.kept, rowSound.endpoint, rowSound.failures, rowSound.retry, ⟨order.1, by dsimp only; omega⟩, ?_⟩
      intro held equal
      cases equal
      exact ⟨order.2, by dsimp only; omega, free⟩

/-- The state of the claim loop, relative to the database that it started from. -/
structure ClaimLoopSound (urlValid : Str → Bool) (db : PeerRouteDatabase) (loop : ClaimLoop) : Prop where
  routes : RoutesSound urlValid loop.nextAttemptOrder loop.routes
  clock : db.nextAttemptOrder ≤ loop.nextAttemptOrder
  rows : loop.routes.map standing = db.routes.map standing
  claims : ∀ claim ∈ loop.claims, claim.attemptOrder < loop.nextAttemptOrder ∧ claim.route.failures < 2 ^ 31 ∧
    ∃ row ∈ db.routes, row.peerId = claim.route.peerId ∧ row.quarantined = false

theorem claimRoute_sound {loop : ClaimLoop} {leaseExpiresAt : ℤ} {peerId : Str}
    (sound : ClaimLoopSound urlValid db loop) :
    ClaimLoopSound urlValid db (claimRoute nowMs leaseExpiresAt loop peerId) := by
  unfold claimRoute
  split
  · exact sound
  split
  · exact sound
  rename_i row found
  split
  · exact sound
  rename_i free
  dsimp only
  split
  · exact sound
  have member := mem_of_find?_eq_some found
  have free : claimable nowMs row = true := by simpa using free
  have clock := sound.clock
  refine ⟨grantLease_sound sound.routes (by omega), by dsimp only; omega, (grantLease_standing ..).trans sound.rows, ?_⟩
  intro claim present
  rcases mem_append.mp present with old | new
  · obtain ⟨below, failures, known⟩ := sound.claims claim old
    exact ⟨by dsimp only; omega, failures, known⟩
  · obtain rfl := mem_singleton.mp new
    obtain ⟨kept, there, id, flag⟩ := exists_standing sound.rows.symm member
    exact ⟨by dsimp only; omega, (sound.routes.rows row member).failures.2, kept, there, id,
      flag.trans (claimable_unquarantined free)⟩

theorem claimRoutes_sound {nowMs leaseDurationMs : ℤ} (sound : DatabaseSound urlValid db) :
    DatabaseSound urlValid (claimRoutes db peerIds nowMs leaseDurationMs).1 ∧
      Grows db (claimRoutes db peerIds nowMs leaseDurationMs).1 ∧
      ∀ claim ∈ (claimRoutes db peerIds nowMs leaseDurationMs).2,
        ClaimSound (claimRoutes db peerIds nowMs leaseDurationMs).1 claim ∧
          ∀ fork ∈ db.evidence, fork.peerId ≠ claim.route.peerId := by
  unfold claimRoutes
  split
  · have start : ClaimLoopSound urlValid db ⟨db.nextAttemptOrder, db.routes, []⟩ :=
      ⟨sound.routes, le_refl _, rfl, by simp⟩
    have loop := foldlRecOn peerIds (claimRoute nowMs (nowMs + leaseDurationMs)) start
      fun _ sound _ _ => claimRoute_sound sound
    refine ⟨⟨loop.routes, sound.shaped, sound.paired.congr loop.rows⟩, ⟨loop.clock, fun row member => ?_, rfl⟩,
      fun claim member => ?_⟩
    · obtain ⟨kept, found, id, _⟩ := exists_standing loop.rows member
      exact ⟨kept, found, id⟩
    · obtain ⟨below, failures, row, found, peer, free⟩ := loop.claims claim member
      refine ⟨⟨below, failures, ?_⟩, fun fork present same => ?_⟩
      · obtain ⟨kept, there, id, _⟩ := exists_standing loop.rows found
        exact ⟨kept, there, id.trans peer⟩
      · have quarantined := (sound.paired.quarantine row found).mpr ⟨fork, present, same.trans peer.symm⟩
        exact absurd (free.symm.trans quarantined) (by decide)
  · exact ⟨sound, grows_of_routes rfl rfl rfl, fun _ member => absurd member not_mem_nil⟩

/-- The lease of the claim is still on its route, or the route is quarantined. -/
def Held (db : PeerRouteDatabase) (claim : PeerRouteClaim) : Prop :=
  ∃ row ∈ db.routes, leased claim row = true ∨ row.peerId = claim.route.peerId ∧ row.quarantined = true

def Settled (db : PeerRouteDatabase) (claim : PeerRouteClaim) (evidence : PeerForkEvidence) : Prop :=
  Held db claim ∧ PlainText evidence.expectedDigest ∧ PlainText evidence.conflictingDigest ∧
    PlainText evidence.canonicalResponse

theorem leased_iff : leased claim row = true ↔
    row.peerId = sqlText claim.route.peerId ∧ row.lease = some ⟨claim.leaseExpiresAtMs, claim.attemptOrder⟩ := by
  simp [leased]

theorem settle_sound {clock : ℤ} {routes : List RouteRow} {claim : PeerRouteClaim} {nextRoute : PeerRouteState}
    {quarantine : Bool} (sound : RoutesSound urlValid clock routes) (order : claim.attemptOrder < clock)
    (failures : claim.route.failures < 2 ^ 31) (updated : RouteUpdated claim.route nextRoute claim.attemptOrder) :
    RoutesSound urlValid clock (updateWhere (leased claim) (settleRow nextRoute quarantine) routes).1 := by
  refine ⟨sound.started, ?_, fun changed present => ?_⟩
  · have ids : (updateWhere (leased claim) (settleRow nextRoute quarantine) routes).1.map (·.peerId) =
        routes.map (·.peerId) := updateWhere_map fun _ _ _ => rfl
    rw [ids]
    exact sound.distinct
  · rcases mem_updateWhere.mp present with ⟨old, _⟩ | ⟨old, member, _, rfl⟩
    · exact sound.rows changed old
    · obtain ⟨last, nonneg, later⟩ := updated.order
      have rowSound := sound.rows old member
      refine ⟨rowSound.kept, rowSound.endpoint, ⟨updated.failures.1, updated.failures.2 failures⟩, updated.retry, ?_, ?_⟩
      · exact ⟨by simp only [settleRow]; omega, by simp only [settleRow]; omega⟩
      · exact fun held same => absurd same (by simp [settleRow])

theorem settle_standing (sound : RoutesSound urlValid clock routes) (free : nextRoute.quarantined = false) :
    (updateWhere (leased claim) (settleRow nextRoute false) routes).1.map standing = routes.map standing := by
  refine updateWhere_map fun row member held => ?_
  obtain ⟨_, _, unquarantined⟩ := (sound.rows row member).lease _ (leased_iff.mp held).2
  simp [standing, settleRow, free, unquarantined]

theorem ClaimSound.kept (claimSound : ClaimSound db claim) (sound : RoutesSound urlValid db.nextAttemptOrder db.routes) :
    sqlText claim.route.peerId = claim.route.peerId := by
  obtain ⟨row, member, same⟩ := claimSound.known
  exact same ▸ (sound.rows row member).kept

theorem fork_paired (sound : DatabaseSound urlValid db) (claimSound : ClaimSound db claim) (held : Held db claim)
    (stored : ∀ peer, (∃ fork ∈ evidence, fork.peerId = peer) ↔
      (∃ fork ∈ db.evidence, fork.peerId = peer) ∨ peer = claim.route.peerId) :
    Paired (updateWhere (leased claim) (settleRow nextRoute true) db.routes).1 evidence := by
  have ids : (updateWhere (leased claim) (settleRow nextRoute true) db.routes).1.map (·.peerId) =
      db.routes.map (·.peerId) := updateWhere_map fun _ _ _ => rfl
  have kept := claimSound.kept sound.routes
  obtain ⟨claimed, present, standing⟩ := held
  have peer := standing.elim (fun held => (leased_iff.mp held).1.trans kept) And.left
  refine ⟨fun fork member => ?_, fun row member => ?_⟩
  · rcases (stored fork.peerId).mp ⟨fork, member, rfl⟩ with ⟨old, known, same⟩ | own
    · obtain ⟨row, found, id⟩ := sound.paired.known old known
      obtain ⟨new, there, same'⟩ := exists_of_map_eq ids found
      exact ⟨new, there, same'.trans (id.trans same)⟩
    · obtain ⟨new, there, same⟩ := exists_of_map_eq ids present
      exact ⟨new, there, same.trans (peer.trans own.symm)⟩
  · rw [stored]
    rcases mem_updateWhere.mp member with ⟨old, free⟩ | ⟨old, found, held, rfl⟩
    · rw [sound.paired.quarantine row old, or_iff_left_of_imp]
      -- the row of the claim's own peer is not leased, so it is quarantined already
      intro own
      obtain rfl := sound.routes.sole old present (own.trans peer.symm)
      rcases standing with held | ⟨_, quarantined⟩
      · exact absurd (free.symm.trans held) (by decide)
      · exact (sound.paired.quarantine row old).mp quarantined
    · exact ⟨fun _ => Or.inr ((leased_iff.mp held).1.trans kept), fun _ => rfl⟩

theorem recordFork_sound {evidence : PeerForkEvidence} (sound : DatabaseSound urlValid db)
    (claimSound : ClaimSound db claim) (updated : RouteUpdated claim.route nextRoute claim.attemptOrder)
    (settled : Settled db claim evidence) :
    DatabaseSound urlValid (recordFork db claim nextRoute evidence).1 ∧
      Grows db (recordFork db claim nextRoute evidence).1 := by
  have unchanged : DatabaseSound urlValid db ∧ Grows db db := ⟨sound, grows_of_routes rfl rfl rfl⟩
  unfold recordFork
  split
  · exact unchanged
  rename_i shaped
  simp only [forkShaped, Bool.not_not_eq, Bool.and_eq_true, decide_eq_true_eq] at shaped
  obtain ⟨⟨⟨⟨⟨⟨own, expected⟩, conflicting⟩, different⟩, _⟩, _⟩, _⟩ := shaped
  obtain ⟨held, ⟨keptExpected, _⟩, ⟨keptConflicting, _⟩, keptResponse, _⟩ := settled
  have stored : evidence.stored = evidence := by
    rw [PeerForkEvidence.stored, own, claimSound.kept sound.routes, keptExpected, keptConflicting, keptResponse, ← own]
  rw [stored]
  have rows := @settle_sound _ _ _ _ _ true sound.routes claimSound.order claimSound.failures updated
  split
  · rename_i existing found
    split
    · exact unchanged
    · refine ⟨⟨rows, sound.shaped, fork_paired sound claimSound held fun peer => ?_⟩,
        grows_of_routes rfl rfl (updateWhere_map fun _ _ _ => rfl)⟩
      refine ⟨Or.inl, fun either => either.elim id ?_⟩
      rintro rfl
      have same := find?_some found
      simp only [sameFork, decide_eq_true_eq] at same
      exact ⟨existing, mem_of_find?_eq_some found, same.1.trans own⟩
  · split
    · exact unchanged
    · have paired : Paired (updateWhere (leased claim) (settleRow nextRoute true) db.routes).1 (db.evidence ++ [evidence]) :=
        fork_paired sound claimSound held fun peer => by
          simp only [mem_append, mem_singleton, or_and_right, exists_or, exists_eq_left, own,
            @eq_comm _ peer]
      refine ⟨⟨rows, Lib.forall_mem_concat sound.shaped ?_, paired⟩,
        grows_of_routes rfl rfl (updateWhere_map fun _ _ _ => rfl)⟩
      simp only [evidenceShaped, Bool.and_eq_true, decide_eq_true_eq]
      exact ⟨⟨expected, conflicting⟩, different⟩

theorem routeUpdate_updated (updated : routeUpdate configuration claim nowMs answer = some nextRoute) :
    RouteUpdated claim.route nextRoute claim.attemptOrder := by
  unfold routeUpdate at updated
  split at updated
  · exact recordPeerDeliverySuccess_updated updated
  · exact recordPeerDeliveryFailure_updated updated

theorem persistAttempt_sound {db : PeerRouteDatabase} {configuration : TransportConfiguration} {claim : PeerRouteClaim}
    {delivery : PeerCheckpointDelivery} {nowMs receivedAtMs : ℤ} {answer : Option Answer}
    (sound : DatabaseSound urlValid db) (claimSound : ClaimSound db claim)
    (settled : ∀ response, forkResponse claim delivery answer = some response →
      Settled db claim (forkEvidence claim delivery response receivedAtMs)) :
    DatabaseSound urlValid (persistAttempt db configuration claim delivery nowMs receivedAtMs answer).1 ∧
      Grows db (persistAttempt db configuration claim delivery nowMs receivedAtMs answer).1 := by
  unfold persistAttempt
  split
  · exact ⟨sound, grows_of_routes rfl rfl rfl⟩
  · rename_i nextRoute update
    have updated := routeUpdate_updated update
    split
    · rename_i response fork
      exact recordFork_sound sound claimSound updated (settled response fork)
    · unfold completeClaim
      split
      · exact ⟨sound, grows_of_routes rfl rfl rfl⟩
      · refine ⟨⟨settle_sound sound.routes claimSound.order claimSound.failures updated, sound.shaped, ?_⟩,
          grows_of_routes rfl rfl (updateWhere_map fun _ _ _ => rfl)⟩
        exact sound.paired.congr (settle_standing sound.routes updated.quarantined.2)

section
variable [StrOrder]

theorem Step.sound {next : System} (step : Step urlValid PeerRouteEndpoint.Plain Settled system next)
    (sound : SystemSound urlValid system) :
    SystemSound urlValid next ∧ next.db.boundary = system.db.boundary := by
  obtain ⟨dbSound, claimsSound⟩ := sound
  cases step with
  | configure _ endpoints plain =>
    obtain ⟨after, grows⟩ := configureRoutes_sound plain dbSound
    exact ⟨⟨after, fun dispatch member claim found => (claimsSound dispatch member claim found).grows grows⟩, grows.boundary⟩
  | dispatch _ read configuration delivery nowMs peerIds _ =>
    obtain ⟨after, grows, fresh⟩ := @claimRoutes_sound _ _ peerIds nowMs configuration.leaseDurationMs dbSound
    refine ⟨⟨after, fun dispatch member claim found => ?_⟩, grows.boundary⟩
    rcases mem_append.mp member with old | new
    · exact (claimsSound dispatch old claim found).grows grows
    · obtain rfl := mem_singleton.mp new
      exact (fresh claim found).1
  | persist db before after dispatch claim rest answer completionOrder next admitted =>
    have claimSound := claimsSound dispatch (by simp) claim (by rw [next]; exact mem_cons_self)
    obtain ⟨sound, grows⟩ := @persistAttempt_sound _ _ dispatch.configuration _ dispatch.delivery dispatch.nowMs
      (dispatch.nowMs + completionOrder) answer dbSound claimSound admitted
    refine ⟨⟨sound, fun other member claim' found => ?_⟩, grows.boundary⟩
    -- the claims that are left were outstanding before
    have was : ∃ old ∈ before ++ dispatch :: after, claim' ∈ old.claims := by
      split at member
      · rcases mem_append.mp member with early | late
        · exact ⟨other, mem_append_left _ early, found⟩
        · rcases mem_cons.mp late with rfl | late
          · exact ⟨dispatch, by simp, by rw [next]; exact mem_cons_of_mem _ found⟩
          · exact ⟨other, mem_append_right _ (mem_cons_of_mem _ late), found⟩
      · rcases mem_append.mp member with early | late
        · exact ⟨other, mem_append_left _ early, found⟩
        · exact ⟨other, mem_append_right _ (mem_cons_of_mem _ late), found⟩
    obtain ⟨old, present, found⟩ := was
    exact (claimsSound old present claim' found).grows grows

def System.create (boundary : AuditBoundary) : System := ⟨.create boundary, []⟩

theorem run_sound
    (run : Relation.ReflTransGen (Step urlValid PeerRouteEndpoint.Plain Settled) (.create boundary) system) :
    SystemSound urlValid system ∧ system.db.boundary = boundary := by
  induction run with
  | refl =>
    have started : (1 : ℤ) ≤ 1 ∧ (1 : ℤ) ≤ 2147483648 := by decide
    refine ⟨⟨⟨⟨started, nodup_nil, ?_⟩, ?_, ?_, ?_⟩, ?_⟩, rfl⟩ <;>
      exact fun _ member => absurd member not_mem_nil
  | tail _ step ih =>
    obtain ⟨sound, same⟩ := step.sound ih.1
    exact ⟨sound, same.trans ih.2⟩

end

theorem openStore_of_sound (sound : DatabaseSound urlValid db) : openStore urlValid db db.boundary = .ok () := by
  refine require_bind.mpr ⟨rfl, require_bind.mpr ⟨sound.routes.started,
    require_bind.mpr ⟨sound.shaped, require_ok.mpr fun row member => ?_⟩⟩⟩
  have rowSound := sound.routes.rows row member
  have started := sound.routes.started
  obtain ⟨⟨failures, failuresBelow⟩, ⟨retry, retryBelow⟩, order, orderBelow⟩ :=
    And.intro rowSound.failures (And.intro rowSound.retry rowSound.order)
  have room : (2147483648 : ℤ) ≤ maxSafeInteger := by decide
  unfold rowValid
  simp only [Bool.and_eq_true, decide_eq_true_eq]
  refine ⟨⟨⟨⟨⟨⟨rowSound.endpoint, ?_⟩, ?_⟩, ?_⟩, orderBelow⟩, ?_⟩, ?_⟩
  · exact safeNonNegativeInteger_iff.mpr ⟨failures, by omega⟩
  · exact safeNonNegativeInteger_iff.mpr ⟨retry, by omega⟩
  · exact safeNonNegativeInteger_iff.mpr ⟨order, by omega⟩
  · cases held : row.lease with
    | none => rfl
    | some lease =>
      obtain ⟨above, below, _⟩ := rowSound.lease lease held
      exact decide_eq_true ⟨above, below⟩
  · rw [beq_iff_eq, Bool.eq_iff_iff, sound.paired.quarantine row member, contains_iff_mem, mem_map]

/-- As long as fork answers are recorded for settled claims and the texts are plain, a route is quarantined exactly if fork
evidence of its peer is stored, the attempt orders stay below the clock, the database can be opened again, and a peer with
evidence is not claimed. -/
theorem fork_evidence_and_quarantine_go_together [StrOrder] {boundary : AuditBoundary} {system : System}
    (run : Relation.ReflTransGen (Step urlValid PeerRouteEndpoint.Plain Settled) (.create boundary) system) :
    (∀ row ∈ system.db.routes, row.quarantined = true ↔ ∃ fork ∈ system.db.evidence, fork.peerId = row.peerId) ∧
    (∀ fork ∈ system.db.evidence, ∃ row ∈ system.db.routes, row.peerId = fork.peerId) ∧
    (∀ row ∈ system.db.routes, row.lastAttemptOrder < system.db.nextAttemptOrder ∧
      ∀ held, row.lease = some held → held.attemptOrder < system.db.nextAttemptOrder) ∧
    openStore urlValid system.db boundary = .ok () ∧
    ∀ peerIds nowMs leaseDurationMs, ∀ claim ∈ (claimRoutes system.db peerIds nowMs leaseDurationMs).2,
      ∀ fork ∈ system.db.evidence, fork.peerId ≠ claim.route.peerId := by
  obtain ⟨⟨sound, _⟩, same⟩ := run_sound run
  refine ⟨sound.paired.quarantine, sound.paired.known, fun row member => ?_, ?_, ?_⟩
  · have rowSound := sound.routes.rows row member
    exact ⟨rowSound.order.2, fun held leased => (rowSound.lease held leased).2.1⟩
  · rw [← same]
    exact openStore_of_sound sound
  · intro peerIds nowMs leaseDurationMs claim member
    obtain ⟨_, _, fresh⟩ := @claimRoutes_sound _ _ peerIds nowMs leaseDurationMs sound
    exact (fresh claim member).2

section
open Shortlex

def sampleBoundary : AuditBoundary := ⟨1, "p", ⟨"m"⟩, "s", "u"⟩

def sampleConfiguration : TransportConfiguration := ⟨2, 1, 10, 1, 1⟩

def sampleDelivery : PeerCheckpointDelivery := ⟨sampleBoundary, 0, "d", "e"⟩

def sampleAnswer (checkpointDigest : Str) : Option Answer := some ⟨⟨"a", checkpointDigest, "r"⟩, true⟩

def configuredSystem : System where
  db := (configureRoutes (fun _ => true) (System.create sampleBoundary).db [⟨"a", "h"⟩]).1
  outstanding := []

def dispatched (system : System) (nowMs : ℤ) : System where
  db := (claimRoutes system.db ["a"] nowMs 10).1
  outstanding := system.outstanding ++
    [⟨sampleConfiguration, sampleDelivery, nowMs, (claimRoutes system.db ["a"] nowMs 10).2⟩]

theorem dispatched_step (selected : selectedPeers sampleConfiguration system.db sampleDelivery nowMs = some [lit "a"]) :
    Step (fun _ => true) PeerRouteEndpoint.Plain settled system (dispatched system nowMs) :=
  .dispatch _ system.db sampleConfiguration sampleDelivery nowMs _ selected

def sampleClaim (attemptOrder leaseExpiresAtMs : ℤ) : PeerRouteClaim :=
  ⟨⟨"a", true, false, 0, 0, 0⟩, ⟨"a", "h"⟩, attemptOrder, leaseExpiresAtMs⟩

def sampleDispatch (nowMs attemptOrder : ℤ) : Outstanding :=
  ⟨sampleConfiguration, sampleDelivery, nowMs, [sampleClaim attemptOrder (nowMs + 10)]⟩

def answered (db : PeerRouteDatabase) (nowMs attemptOrder : ℤ) (checkpointDigest : Str) : PeerRouteDatabase × Bool :=
  persistAttempt db sampleConfiguration (sampleClaim attemptOrder (nowMs + 10)) sampleDelivery nowMs (nowMs + (0 : ℕ))
    (sampleAnswer checkpointDigest)

theorem answered_step {settled : PeerRouteDatabase → PeerRouteClaim → PeerForkEvidence → Prop} {db : PeerRouteDatabase}
    {nowMs attemptOrder : ℤ} (checkpointDigest : Str) (after : List Outstanding)
    (admitted : settled db (sampleClaim attemptOrder (nowMs + 10)) ⟨"a", "d", checkpointDigest, nowMs + (0 : ℕ), "r"⟩) :
    Step (fun _ => true) PeerRouteEndpoint.Plain settled ⟨db, sampleDispatch nowMs attemptOrder :: after⟩
      ⟨(answered db nowMs attemptOrder checkpointDigest).1,
        if (answered db nowMs attemptOrder checkpointDigest).2 then
          ⟨sampleConfiguration, sampleDelivery, nowMs, []⟩ :: after else after⟩ :=
  .persist db [] after (sampleDispatch nowMs attemptOrder) _ [] (sampleAnswer checkpointDigest) 0 rfl fun response fork => by
    have known : authenticated (sampleClaim attemptOrder (nowMs + 10)) (sampleAnswer checkpointDigest) = true := rfl
    rw [forkResponse, if_pos known, Option.filter_eq_some_iff] at fork
    obtain rfl := Option.some.inj fork.1
    exact admitted

theorem configured_step :
    Step (fun _ => true) PeerRouteEndpoint.Plain settled (System.create sampleBoundary) configuredSystem :=
  .configure _ _ fun endpoint member => by
    obtain rfl := mem_singleton.mp member
    exact ⟨by decide, by decide⟩

/-- The first dispatch claims the route; the second one takes over its lease, which has run out. -/
def claimedOnce : System := dispatched configuredSystem 0

def takenOver : System := dispatched claimedOnce 10

theorem fork_evidence_and_quarantine_go_together_sample :
    openStore (fun _ => true) (answered claimedOnce.db 0 1 "x").1 sampleBoundary = .ok () ∧
      ∃ row ∈ (answered claimedOnce.db 0 1 "x").1.routes, row.quarantined = true := by
  have held : Held claimedOnce.db (sampleClaim 1 (0 + 10)) :=
    ⟨⟨"a", "h", true, false, 0, 0, 0, some ⟨10, 1⟩⟩, by decide +kernel, Or.inl (by decide +kernel)⟩
  have claimed : Step (fun _ => true) PeerRouteEndpoint.Plain Settled configuredSystem claimedOnce :=
    dispatched_step (by decide +kernel)
  have start : claimedOnce = ⟨claimedOnce.db, [sampleDispatch 0 1]⟩ := by decide +kernel
  obtain ⟨_, _, _, opened, _⟩ := fork_evidence_and_quarantine_go_together
    (((Relation.ReflTransGen.single configured_step).tail claimed).tail
      (answered_step "x" [] ⟨held, by decide, by decide, by decide⟩))
  exact ⟨opened, by decide +kernel⟩

/-- The answer of the first dispatch proves a fork after the second one took over the lease: the evidence is stored, the
route is not quarantined, the database cannot be opened again, and the peer is claimed once more. -/
theorem late_fork_answer_is_not_quarantined :
    ∃ system, Relation.ReflTransGen (Step (fun _ => true) PeerRouteEndpoint.Plain fun _ _ _ => True)
        (.create sampleBoundary) system ∧
      (∃ row ∈ system.db.routes, row.quarantined = false ∧ ∃ fork ∈ system.db.evidence, fork.peerId = row.peerId) ∧
      openStore (fun _ => true) system.db sampleBoundary = .error .invalidRouteImage ∧
      ∃ claim ∈ (claimRoutes system.db ["a"] 20 10).2, ∃ fork ∈ system.db.evidence, fork.peerId = claim.route.peerId := by
  have first := @dispatched_step 0 (fun _ _ _ => True) configuredSystem (by decide +kernel)
  have second := @dispatched_step 10 (fun _ _ _ => True) claimedOnce (by decide +kernel)
  have start : takenOver = ⟨takenOver.db, [sampleDispatch 0 1, sampleDispatch 10 2]⟩ := by decide +kernel
  have forked := @answered_step (fun _ _ _ => True) takenOver.db 0 1 "x" [sampleDispatch 10 2] trivial
  have thrown : (answered takenOver.db 0 1 "x").2 = false := by decide +kernel
  have confirmed := @answered_step (fun _ _ _ => True) (answered takenOver.db 0 1 "x").1 10 2 "d" [] trivial
  refine ⟨_, ((((Relation.ReflTransGen.single configured_step).tail first).tail second).tail forked).tail confirmed,
    by decide +kernel, by decide +kernel, by decide +kernel⟩

end

end ConvergeAudit.Peers
