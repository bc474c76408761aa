import ConvergeAudit.Moon.Text
import ConvergeAudit.Moon.Scan
import ConvergeAudit.Moon.Sort
import ConvergeAudit.Moon.Arithmetic
import ConvergeAudit.Lib.Fallible

/-!
The scheduler of `audit/runtime/peer_transport.mbt`: which peers an attempt is made at next, and the row that is kept
after an attempt.
-/

namespace ConvergeAudit.Runtime

open Moon Lib List

structure PeerRouteState where
  peerId : Str
  available : Bool
  quarantined : Bool
  failures : ℤ
  nextRetryAtMs : ℤ
  lastAttemptOrder : ℤ
  deriving DecidableEq

inductive PeerDeliveryRefusal
  | invalidPeerDeliveryWindow
  | invalidPeerRoute (index : ℕ)
  | duplicatePeerRoute

inductive PeerDeliverySelection
  | selected (indices : List ℕ)
  | unavailable
  | backpressured
  | refused (reason : PeerDeliveryRefusal)

def peerRouteValid (route : PeerRouteState) : Bool :=
  route.peerId ≠ Str.empty && decide (0 ≤ route.failures) && decide (0 ≤ route.nextRetryAtMs) &&
  decide (0 ≤ route.lastAttemptOrder)

section
variable [StrOrder]

/-- Least recently attempted first, then the fewest failures, then the name. -/
def peerRoutePrecedes (left right : PeerRouteState) : Bool :=
  if left.lastAttemptOrder ≠ right.lastAttemptOrder then decide (left.lastAttemptOrder < right.lastAttemptOrder)
  else if left.failures ≠ right.failures then decide (left.failures < right.failures)
  else decide (compare left.peerId right.peerId = .lt)

/-- The loop over the routes: the eligible ones with their index, or the refusal. -/
def eligibleRoutes (nowMs : ℤ) (index : ℕ) (seen : Map Str Bool) :
    List PeerRouteState → Except PeerDeliveryRefusal (List (ℕ × PeerRouteState))
  | [] => .ok []
  | route :: rest =>
    if !peerRouteValid route then .error (.invalidPeerRoute index)
    else if seen.contains route.peerId then .error .duplicatePeerRoute
    else do
      let eligible ← eligibleRoutes nowMs (index + 1) (seen.set route.peerId true) rest
      if route.available && !route.quarantined && decide (route.nextRetryAtMs ≤ nowMs) then .ok ((index, route) :: eligible)
      else .ok eligible

def selectPeerDeliveryBatch (routes : List PeerRouteState) (nowMs inFlightCount maxInFlight maxParallel : ℤ) :
    PeerDeliverySelection :=
  if nowMs < 0 ∨ inFlightCount < 0 ∨ maxInFlight ≤ 0 ∨ maxParallel ≤ 0 ∨ maxInFlight < inFlightCount then
    .refused .invalidPeerDeliveryWindow
  else match eligibleRoutes nowMs 0 Map.empty routes with
  | .error reason => .refused reason
  | .ok eligible =>
    let capacity := maxInFlight - inFlightCount
    if capacity = 0 then .backpressured
    else if eligible = [] then .unavailable
    else
      let ordered := sortBy (fun left right =>
        if peerRoutePrecedes left.2 right.2 then .lt else if peerRoutePrecedes right.2 left.2 then .gt else .eq) eligible
      .selected ((ordered.take (min capacity maxParallel).toNat).map Prod.fst)

end

/-- The loop of the doubling delay. -/
def backoffLoop (maxBackoffMs : ℤ) : ℕ → ℤ → ℤ
  | 0, delay => delay
  | remaining + 1, delay =>
    if delay < maxBackoffMs then
      backoffLoop maxBackoffMs remaining (if delay > maxBackoffMs / 2 then maxBackoffMs else delay * 2)
    else delay

def boundedExponentialBackoff (previousFailures baseBackoffMs maxBackoffMs : ℤ) : ℤ :=
  min (backoffLoop maxBackoffMs previousFailures.toNat baseBackoffMs) maxBackoffMs

/-- `none` stands for `PeerRouteUpdateRefused`. -/
def recordPeerDeliveryFailure (route : PeerRouteState) (nowMs attemptOrder baseBackoffMs maxBackoffMs : ℤ) :
    Option PeerRouteState :=
  if !peerRouteValid route ∨ route.quarantined ∨ nowMs < 0 ∨ attemptOrder ≤ route.lastAttemptOrder ∨
    baseBackoffMs ≤ 0 ∨ maxBackoffMs < baseBackoffMs then none
  else
    let delay := boundedExponentialBackoff route.failures baseBackoffMs maxBackoffMs
    let retryAt := Arithmetic.int32.add nowMs delay
    if retryAt < nowMs ∨ route.failures = 2147483647 then none
    else some { route with
      failures := route.failures + 1, nextRetryAtMs := retryAt, lastAttemptOrder := attemptOrder }

def recordPeerDeliverySuccess (route : PeerRouteState) (attemptOrder : ℤ) : Option PeerRouteState :=
  if !peerRouteValid route ∨ route.quarantined ∨ attemptOrder ≤ route.lastAttemptOrder then none
  else some { route with available := true, failures := 0, nextRetryAtMs := 0, lastAttemptOrder := attemptOrder }

/-- What the row after an attempt is, whichever way the attempt went. -/
structure RouteUpdated (route next : PeerRouteState) (attemptOrder : ℤ) : Prop where
  peerId : next.peerId = route.peerId
  quarantined : route.quarantined = false ∧ next.quarantined = false
  failures : 0 ≤ next.failures ∧ (route.failures < 2 ^ 31 → next.failures < 2 ^ 31)
  retry : 0 ≤ next.nextRetryAtMs ∧ next.nextRetryAtMs < 2 ^ 31
  order : next.lastAttemptOrder = attemptOrder ∧ 0 ≤ route.lastAttemptOrder ∧ route.lastAttemptOrder < attemptOrder

theorem int32_wrap_lt : Arithmetic.int32.wrap n < 2 ^ 31 := by
  have := @Int.bmod_lt n (2 ^ 32) (by norm_num)
  unfold Arithmetic.int32
  dsimp only
  omega

theorem recordPeerDeliveryFailure_updated {next : PeerRouteState}
    (updated : recordPeerDeliveryFailure route nowMs attemptOrder baseBackoffMs maxBackoffMs = some next) :
    RouteUpdated route next attemptOrder := by
  unfold recordPeerDeliveryFailure at updated
  split at updated
  · exact absurd updated (by simp)
  · rename_i allowed
    simp only [peerRouteValid, not_or, Bool.not_eq_true, Bool.not_eq_true', Bool.not_eq_false, Bool.and_eq_true,
      decide_eq_true_eq, not_lt, not_le] at allowed
    obtain ⟨⟨⟨⟨_, failures⟩, _⟩, ordered⟩, free, clock, later, _⟩ := allowed
    dsimp only at updated
    split at updated
    · exact absurd updated (by simp)
    · rename_i fits
      cases updated
      refine ⟨rfl, ⟨free, free⟩, ⟨by dsimp only; omega, fun below => by dsimp only; omega⟩,
        ⟨by dsimp only; omega, int32_wrap_lt⟩, rfl, ordered, later⟩

theorem recordPeerDeliverySuccess_updated {next : PeerRouteState}
    (updated : recordPeerDeliverySuccess route attemptOrder = some next) : RouteUpdated route next attemptOrder := by
  unfold recordPeerDeliverySuccess at updated
  split at updated
  · exact absurd updated (by simp)
  · rename_i allowed
    simp only [peerRouteValid, not_or, Bool.not_eq_true, Bool.not_eq_true', Bool.not_eq_false, Bool.and_eq_true,
      decide_eq_true_eq, not_le] at allowed
    obtain ⟨⟨_, ordered⟩, free, later⟩ := allowed
    cases updated
    exact ⟨rfl, ⟨free, free⟩, ⟨le_refl _, fun _ => by norm_num⟩, ⟨le_refl _, by norm_num⟩, rfl, ordered, later⟩

/-- What a selection is asked for besides the routes. -/
structure DeliveryWindow where
  nowMs : ℤ
  inFlightCount : ℤ
  maxInFlight : ℤ
  maxParallel : ℤ

def PeerRouteState.eligible (nowMs : ℤ) (route : PeerRouteState) : Bool :=
  route.available && !route.quarantined && decide (route.nextRetryAtMs ≤ nowMs)

/-- Every selected route is replaced by the row after an attempt, with a larger order than any in the table. -/
structure Attempted (routes next : List PeerRouteState) (chosen : List ℕ) : Prop where
  kept : ∀ index ∉ chosen, next[index]? = routes[index]?
  replaced : ∀ index ∈ chosen, ∃ route updated attemptOrder, routes[index]? = some route ∧ next[index]? = some updated ∧
    (recordPeerDeliverySuccess route attemptOrder = some updated ∨ ∃ nowMs baseBackoffMs maxBackoffMs,
      recordPeerDeliveryFailure route nowMs attemptOrder baseBackoffMs maxBackoffMs = some updated) ∧
    ∀ other ∈ routes, other.lastAttemptOrder < attemptOrder

/-- The route at `front` was attempted before the one at `back`. -/
def Precedes (front back : ℕ) (routes : List PeerRouteState) : Prop :=
  ∀ first, routes[front]? = some first → ∃ second, routes[back]? = some second ∧
    first.lastAttemptOrder < second.lastAttemptOrder

theorem Attempted.precedes {next : List PeerRouteState} (attempted : Attempted routes next chosen) (waits : front ∉ chosen)
    (before : back ∈ chosen ∨ Precedes front back routes) : Precedes front back next := by
  intro first found
  rw [attempted.kept front waits] at found
  by_cases served : back ∈ chosen
  · obtain ⟨route, updated, attemptOrder, _, now, recorded, latest⟩ := attempted.replaced back served
    have order : updated.lastAttemptOrder = attemptOrder := by
      rcases recorded with success | ⟨_, _, _, failure⟩
      · exact (recordPeerDeliverySuccess_updated success).order.1
      · exact (recordPeerDeliveryFailure_updated failure).order.1
    exact ⟨updated, now, order ▸ latest first (mem_of_getElem? found)⟩
  · rw [attempted.kept back served]
    exact before.resolve_left served first found

theorem eligibleRoutes_ok_iff :
    eligibleRoutes nowMs index seen routes = .ok eligible ↔
      (collectDistinct PeerRouteState.peerId (fun _ => true) peerRouteValid seen routes).isSome = true ∧
        eligible = ((routes.zipIdx index).filter fun entry => entry.1.eligible nowMs).map Prod.swap := by
  induction routes generalizing index seen eligible with
  | nil =>
    rw [eligibleRoutes, Except.ok.injEq, eq_comm]
    simp [collectDistinct]
  | cons route rest ih =>
    unfold eligibleRoutes collectDistinct
    have ready : (route.available && !route.quarantined && decide (route.nextRetryAtMs ≤ nowMs)) =
      route.eligible nowMs := rfl
    simp (disch := simp) only [passes, apply_ite Option.isSome, Fallible.bind_ok, ih, ready]
    cases chosen : route.eligible nowMs <;> simp [chosen, and_assoc, @eq_comm _ eligible]

def routeOrder [StrOrder] : PeerRouteState → PeerRouteState → Ordering :=
  compareLex (compareOn (·.lastAttemptOrder)) (compareLex (compareOn (·.failures)) (compareOn (·.peerId)))

instance [StrOrder] : Std.TransCmp routeOrder := inferInstanceAs (Std.TransCmp (compareLex _ _))

theorem ite_peerRoutePrecedes [StrOrder] (left right : PeerRouteState) :
    (if peerRoutePrecedes left right then Ordering.lt else if peerRoutePrecedes right left then .gt else .eq) =
      routeOrder left right := by
  have precedes : ∀ a b : PeerRouteState, peerRoutePrecedes a b = true ↔ routeOrder a b = .lt := by
    intro a b
    unfold peerRoutePrecedes routeOrder
    simp only [compareLex, compareOn, ← ite_compare_eq_then]
    split_ifs <;> simp [compare_lt_iff_lt]
  simp only [precedes]
  rw [@Std.OrientedCmp.eq_swap _ routeOrder _ right left]
  cases routeOrder left right <;> rfl

namespace DeliveryWindow

section
variable (window : DeliveryWindow) (routes : List PeerRouteState)

/-- The window is in order, every row is valid and no two rows have one peer. -/
def Accepts : Prop :=
  (0 ≤ window.nowMs ∧ 0 ≤ window.inFlightCount ∧ 0 < window.maxInFlight ∧ 0 < window.maxParallel ∧
    window.inFlightCount ≤ window.maxInFlight) ∧
  (∀ route ∈ routes, peerRouteValid route = true) ∧ (routes.map PeerRouteState.peerId).Nodup
  deriving Decidable

def limit : ℤ := min (window.maxInFlight - window.inFlightCount) window.maxParallel

variable [StrOrder]

def answer : PeerDeliverySelection :=
  selectPeerDeliveryBatch routes window.nowMs window.inFlightCount window.maxInFlight window.maxParallel

def selected : List ℕ :=
  match window.answer routes with
  | .selected indices => indices
  | _ => []

def selectedPeers : List Str := ((window.selected routes).filterMap (routes[·]?)).map (·.peerId)

/-- The selected routes, in their order of precedence. -/
def served : List PeerRouteState :=
  if window.Accepts routes then (sortBy routeOrder (routes.filter (·.eligible window.nowMs))).take window.limit.toNat else []

theorem map_selected : (window.selected routes).map (routes[·]?) = (window.served routes).map some := by
  have scanned eligible := @eligibleRoutes_ok_iff window.nowMs 0 Map.empty routes eligible
  simp only [collectDistinct_isSome_iff, Map.contains, Map.get_empty, Option.isSome_none, implies_true, and_true] at scanned
  unfold selected served
  generalize answered : window.answer routes = answer
  unfold DeliveryWindow.answer selectPeerDeliveryBatch at answered
  split at answered
  · rename_i invalid
    rw [if_neg fun accepts => by have := accepts.1; omega, ← answered]
    rfl
  rename_i valid
  cases read : eligibleRoutes window.nowMs 0 Map.empty routes with
  | error reason =>
    rw [if_neg, ← answered, read]
    · rfl
    · intro accepts
      cases read.symm.trans ((scanned _).mpr ⟨accepts.2, rfl⟩)
  | ok eligible =>
    obtain ⟨distinct, numbered⟩ := (scanned _).mp read
    have rows : eligible.map Prod.snd = routes.filter (·.eligible window.nowMs) := by
      conv_rhs => rw [← zipIdx_map_fst 0 routes, filter_map]
      rw [numbered, map_map]
      rfl
    have sorted : sortBy routeOrder (eligible.map Prod.snd) =
        (sortBy (fun left right => routeOrder left.2 right.2) eligible).map Prod.snd :=
      (map_insertionSort _ _ Prod.snd eligible fun _ _ _ _ => Iff.rfl).symm
    rw [← answered, read, if_pos ⟨by omega, distinct⟩, limit, ← rows, sorted]
    by_cases full : window.maxInFlight - window.inFlightCount = 0
    · simp [full]
    by_cases nobody : eligible = []
    · simp [full, nobody, sortBy]
    simp only [ite_peerRoutePrecedes, if_neg full, if_neg nobody]
    rw [← map_take, map_map, map_map]
    refine map_congr_left fun entry member => ?_
    have present := mem_sortBy.mp (mem_of_mem_take member)
    rw [numbered] at present
    obtain ⟨⟨route, index⟩, chosen, rfl⟩ := mem_map.mp present
    exact mem_zipIdx_iff_getElem?.mp (mem_filter.mp chosen).1

theorem selectedPeers_eq : window.selectedPeers routes = (window.served routes).map (·.peerId) := by
  have same := congrArg (filterMap id) (window.map_selected routes)
  simp only [filterMap_map, Function.id_comp, filterMap_some] at same
  rw [selectedPeers, ← same]

end

theorem accepts_perm (perm : routes.Perm others) : Accepts window routes ↔ Accepts window others := by
  unfold Accepts
  simp only [perm.mem_iff, (perm.map PeerRouteState.peerId).nodup_iff]

variable [StrOrder]

theorem mem_served : route ∈ served window routes ↔ window.Accepts routes ∧
    route ∈ (sortBy routeOrder (routes.filter (·.eligible window.nowMs))).take window.limit.toNat := by
  unfold served
  split <;> simp [*]

theorem mem_selected {index : ℕ} (found : routes[index]? = some route) :
    index ∈ selected window routes ↔ route ∈ window.served routes := by
  have turn : some route ∈ (window.selected routes).map (routes[·]?) ↔ route ∈ window.served routes := by
    rw [window.map_selected routes]
    simp
  rw [← turn, mem_map]
  refine ⟨fun chosen => ⟨index, chosen, found⟩, ?_⟩
  rintro ⟨other, chosen, same⟩
  have distinct := (mem_served.mp (turn.mp (mem_map.mpr ⟨other, chosen, same⟩))).1.2.2
  have inside := (List.getElem?_eq_some_iff.mp found).1
  rwa [(getElem?_inj inside distinct.of_map).mp (found.trans same.symm)]

/-- While a route is served twice, no eligible one is left out. The order of the table does not matter, and as many peers
are selected as the window has room for. -/
theorem selection_is_fair_and_order_free :
    (∀ (tables : ℕ → List PeerRouteState) (windows : ℕ → DeliveryWindow) (i j q r : ℕ) (route : PeerRouteState), i < j →
      (∀ k, i ≤ k → k < j → Attempted (tables k) (tables (k + 1)) ((windows k).selected (tables k))) →
      q ∈ (windows i).selected (tables i) → q ∈ (windows j).selected (tables j) →
      (tables j)[r]? = some route → route.eligible (windows j).nowMs = true →
      ∃ k, i ≤ k ∧ k ≤ j ∧ r ∈ (windows k).selected (tables k)) ∧
    (∀ (window : DeliveryWindow) routes others, routes.Perm others →
      window.selectedPeers routes = window.selectedPeers others) ∧
    ∀ (window : DeliveryWindow) routes,
      let room := min (routes.countP (·.eligible window.nowMs) : ℤ)
        (min window.maxParallel (window.maxInFlight - window.inFlightCount))
      window.Accepts routes → 0 < room → window.answer routes = .selected (window.selected routes) ∧
        (window.selectedPeers routes).Nodup ∧ (window.selectedPeers routes).length = room := by
  refine ⟨?_, ?_, ?_⟩
  · intro tables windows i j q r route later run first again found ready
    by_contra waits
    have passed : ∀ k, i ≤ k → k ≤ j → r ∉ (windows k).selected (tables k) :=
      fun k low high chosen => waits ⟨k, low, high, chosen⟩
    have precedes : Precedes r q (tables j) := by
      clear again found ready waits
      induction j, later using Nat.le_induction with
      | base => exact (run i le_rfl (by omega)).precedes (passed i le_rfl (by omega)) (Or.inl first)
      | succ j later ih =>
        have before := ih (fun k low high => run k low (by omega)) fun k low high => passed k low (by omega)
        exact (run j (by omega) (by omega)).precedes (passed j (by omega) (by omega)) (Or.inr before)
    obtain ⟨other, present, order⟩ := precedes route found
    obtain ⟨accepts, served⟩ := mem_served.mp ((mem_selected present).mp again)
    refine passed j (by omega) le_rfl ((mem_selected found).mpr (mem_served.mpr ⟨accepts, ?_⟩))
    refine mem_take_sortBy served (mem_filter.mpr ⟨mem_of_getElem? found, ready⟩) ?_
    simp [routeOrder, compareLex, compareOn, compare_lt_iff_lt.mpr order]
  · intro window routes others perm
    rw [selectedPeers_eq, selectedPeers_eq, served, served]
    simp only [← accepts_perm perm]
    split
    · rename_i accepts
      rw [sortBy_eq_of_perm_of_separates (perm.filter _)]
      intro x memberX y memberY same
      have ids := compareLex_eq_eq.mp (compareLex_eq_eq.mp same).2
      exact inj_on_of_nodup_map accepts.2.2 (mem_filter.mp memberX).1 (mem_filter.mp memberY).1
        (compare_eq_iff_eq.mp ids.2)
    · rfl
  · intro window routes room accepts positive
    have count : ((window.selectedPeers routes).length : ℤ) = room := by
      rw [selectedPeers_eq, served, if_pos accepts, length_map, length_take, (sortBy_perm _ _).length_eq,
        ← countP_eq_length_filter, limit]
      omega
    refine ⟨?_, ?_, count⟩
    · -- every other answer selects nobody
      revert count
      unfold selectedPeers selected
      cases window.answer routes with
      | selected indices => exact fun _ => rfl
      | _ => exact fun count => absurd positive (by simp [← count])
    · rw [selectedPeers_eq, served, if_pos accepts]
      refine ((take_sublist _ _).map _).nodup (((sortBy_perm _ _).map _).nodup_iff.mpr ?_)
      exact (filter_sublist.map _).nodup accepts.2.2

end DeliveryWindow

section Sample

attribute [local instance] StrOrder.shortlex

def sampleWindow : DeliveryWindow := ⟨0, 0, 1, 1⟩

def sampleRoute (peerId : Str) (lastAttemptOrder : ℤ) : PeerRouteState := ⟨peerId, true, false, 0, 0, lastAttemptOrder⟩

/-- Two peers in turn. -/
def sampleTable : ℕ → List PeerRouteState
  | 0 => [sampleRoute "a" 0, sampleRoute "b" 0]
  | 1 => [sampleRoute "a" 1, sampleRoute "b" 0]
  | _ => [sampleRoute "a" 1, sampleRoute "b" 2]

theorem attempted_set (found : routes[index]? = some route)
    (recorded : recordPeerDeliverySuccess route attemptOrder = some updated)
    (latest : ∀ other ∈ routes, other.lastAttemptOrder < attemptOrder) :
    Attempted routes (routes.set index updated) [index] := by
  refine ⟨fun other absent => getElem?_set_ne (Ne.symm (by simpa using absent)), fun other chosen => ?_⟩
  obtain rfl := mem_singleton.mp chosen
  have inside := (List.getElem?_eq_some_iff.mp found).1
  exact ⟨route, updated, attemptOrder, found, getElem?_set_self inside, Or.inl recorded, latest⟩

theorem selection_is_fair_and_order_free_two_peers :
    (∃ k, 0 ≤ k ∧ k ≤ 2 ∧ 1 ∈ sampleWindow.selected (sampleTable k)) ∧
      (sampleWindow.selectedPeers (sampleTable 1)).length = 1 := by
  obtain ⟨fair, _, sized⟩ := DeliveryWindow.selection_is_fair_and_order_free
  refine ⟨fair sampleTable (fun _ => sampleWindow) 0 2 0 1 (sampleRoute "b" 2) (by decide) ?_ (by decide) (by decide) rfl rfl,
    Int.ofNat_inj.mp (sized sampleWindow (sampleTable 1) (by decide) (by decide)).2.2⟩
  have first : sampleWindow.selected (sampleTable 0) = [0] := by decide
  have second : sampleWindow.selected (sampleTable 1) = [1] := by decide
  rintro (_ | _ | k) _ below
  · exact first ▸ @attempted_set (sampleTable 0) 0 _ 1 _ rfl rfl (by decide)
  · exact second ▸ @attempted_set (sampleTable 1) 1 _ 2 _ rfl rfl (by decide)
  · omega

end Sample

end ConvergeAudit.Runtime
