import ConvergeAudit.Bft.Runs
import ConvergeAudit.Lib.Fallible

/-!
What `central_replay/pve_replay.mbt` and `pvp_replay.mbt` share: a fresh adapter has to authenticate every event.
-/

namespace ConvergeAudit.Central
open Moon Bft Lib.Fallible List

/-- The refusals of an event graph, as one of the verifiers names them. -/
structure GraphRefusals (ε : Type) where
  invalidRosterBoundary : ε
  duplicateEventDigest : Str → ε
  eventAuthenticationRefused : Str → ε
  incompleteEventGraph : ε

def registerPlayers (adapter : AuditAdapter) (authorityPeerId : Str) (authorityKey : PublicKey) :
    List (Str × PublicKey) → Option AuditAdapter
  | [] => some adapter
  | (playerId, publicKey) :: rest =>
    if playerId = Str.empty ∨ playerId = authorityPeerId ∨ publicKey = authorityKey then none
    else
      let (adapter, registered) := adapter.registerPeer ⟨playerId⟩ publicKey
      if registered then registerPlayers adapter authorityPeerId authorityKey rest else none

/-- The adapter with the roster of a bundle, if the roster is valid. -/
def rosterBoundary (adapter : AuditAdapter) (authorityPeerId : Str) (authorityKey : PublicKey)
    (players : List (Str × PublicKey)) : Option AuditAdapter :=
  if authorityPeerId = Str.empty then none
  else
    let (adapter, registered) := adapter.registerPeer ⟨authorityPeerId⟩ authorityKey
    if registered then registerPlayers adapter authorityPeerId authorityKey players else none

def rememberAuthenticatedEvent (authenticated : Map Str AuthenticatedEvent) (source : AuthenticatedEvent) :
    Map Str AuthenticatedEvent :=
  authenticated.set source.digest.text source

def rememberDelivered (authenticated : Map Str AuthenticatedEvent) : DeliveryResult → Option (Map Str AuthenticatedEvent)
  | .accepted source => some (rememberAuthenticatedEvent authenticated source)
  | .buffered => some authenticated
  | .rejected _ => none

structure GraphState where
  adapter : AuditAdapter
  seen : Map Str Bool
  authenticated : Map Str AuthenticatedEvent

section
variable [StrOrder] [DoubleFormat] {ε : Type} (refusals : GraphRefusals ε)

def authenticateEvent (state : GraphState) (signed : SignedEvent) : Except ε GraphState := do
  require (!state.seen.contains signed.digest.text) (refusals.duplicateEventDigest signed.digest.text)
  let (adapter, result) := state.adapter.deliver signed
  let authenticated ← given (rememberDelivered state.authenticated result)
    (refusals.eventAuthenticationRefused signed.digest.text)
  let (adapter, flushed) := adapter.takeFlushed
  let (adapter, alerts) := adapter.takeFlushedAlerts
  match alerts with
  | alert :: _ => throw (refusals.eventAuthenticationRefused alert.digest.text)
  | [] =>
    return {
      adapter
      seen := state.seen.set signed.digest.text true
      authenticated := flushed.foldl rememberAuthenticatedEvent authenticated }

def authenticateEventGraph (hasher : Hasher) (verifier : Verifier) (sessionId authorityPeerId : Str)
    (authorityKey : PublicKey) (players : List (Str × PublicKey)) (events : List SignedEvent) :
    Except ε (Map Str AuthenticatedEvent) := do
  let adapter ← given (rosterBoundary (.new hasher verifier sessionId) authorityPeerId authorityKey players)
    refusals.invalidRosterBoundary
  let state ← events.foldlM (authenticateEvent refusals) ⟨adapter, Map.empty, Map.empty⟩
  require (state.authenticated.length = events.length) refusals.incompleteEventGraph
  return state.authenticated

omit [StrOrder] [DoubleFormat] in
theorem registerPeer_lists (adapter : AuditAdapter) (peer : PeerId) (key : PublicKey) :
    (adapter.registerPeer peer key).1.pendingBuffer = adapter.pendingBuffer ∧
      (adapter.registerPeer peer key).1.flushedEvents = adapter.flushedEvents := by
  unfold AuditAdapter.registerPeer
  split <;> exact ⟨rfl, rfl⟩

omit [StrOrder] [DoubleFormat] in
theorem registerPlayers_lists {next : AuditAdapter}
    (valid : registerPlayers adapter authorityPeerId authorityKey players = some next) :
    next.pendingBuffer = adapter.pendingBuffer ∧ next.flushedEvents = adapter.flushedEvents := by
  induction players generalizing adapter with
  | nil =>
    cases valid
    exact ⟨rfl, rfl⟩
  | cons player rest ih =>
    obtain ⟨samePending, sameFlushed⟩ := registerPeer_lists adapter ⟨player.1⟩ player.2
    unfold registerPlayers at valid
    dsimp only at valid
    split at valid
    · cases valid
    split at valid
    · obtain ⟨pending, flushed⟩ := ih valid
      exact ⟨pending.trans samePending, flushed.trans sameFlushed⟩
    · cases valid

omit [StrOrder] [DoubleFormat] in
theorem rosterBoundary_lists {next : AuditAdapter}
    (valid : rosterBoundary adapter authorityPeerId authorityKey players = some next) :
    next.pendingBuffer = adapter.pendingBuffer ∧ next.flushedEvents = adapter.flushedEvents := by
  obtain ⟨samePending, sameFlushed⟩ := registerPeer_lists adapter ⟨authorityPeerId⟩ authorityKey
  unfold rosterBoundary at valid
  dsimp only at valid
  split at valid
  · cases valid
  split at valid
  · obtain ⟨pending, flushed⟩ := registerPlayers_lists valid
    exact ⟨pending.trans samePending, flushed.trans sameFlushed⟩
  · cases valid

/-- What the loop has kept after the events it has read. -/
structure Authenticates (events : List SignedEvent) (state : GraphState) : Prop where
  seen : ∀ key, state.seen.contains key = true ↔ key ∈ events.map fun signed => signed.digest.text
  distinct : (events.map fun signed => signed.digest.text).Nodup
  held : ∀ signed ∈ state.adapter.pendingBuffer, signed ∈ events
  taken : state.adapter.flushedEvents = []
  known : ∀ key event, state.authenticated.get key = some event →
    ∃ signed ∈ events, key = signed.digest.text ∧ event = authenticatedEvent signed
  keys : state.authenticated.Distinct

theorem authenticateEvent_ok {next : GraphState} {refusals : GraphRefusals ε}
    (passed : authenticateEvent refusals state signed = .ok next) :
    state.seen.contains signed.digest.text = false ∧ next.seen = state.seen.set signed.digest.text true ∧
      next.adapter.pendingBuffer = (state.adapter.deliver signed).1.pendingBuffer ∧ next.adapter.flushedEvents = [] ∧
      ∃ authenticated, rememberDelivered state.authenticated (state.adapter.deliver signed).2 = some authenticated ∧
        next.authenticated =
          (state.adapter.deliver signed).1.flushedEvents.foldl rememberAuthenticatedEvent authenticated := by
  obtain ⟨_, fresh, passed⟩ := bind_ok.mp passed
  obtain ⟨authenticated, answered, passed⟩ := given_bind.mp passed
  dsimp only at passed
  split at passed
  · cases passed
  · cases passed
    exact ⟨by simpa using fresh, rfl, rfl, rfl, authenticated, answered, rfl⟩

omit [StrOrder] [DoubleFormat] in
theorem foldl_remember {P : Str → AuthenticatedEvent → Prop} {flushed : List AuthenticatedEvent}
    {authenticated : Map Str AuthenticatedEvent} (known : ∀ key event, authenticated.get key = some event → P key event)
    (distinct : authenticated.Distinct) (each : ∀ event ∈ flushed, P event.digest.text event) :
    (∀ key event, (flushed.foldl rememberAuthenticatedEvent authenticated).get key = some event → P key event) ∧
      (flushed.foldl rememberAuthenticatedEvent authenticated).Distinct := by
  induction flushed generalizing authenticated with
  | nil => exact ⟨known, distinct⟩
  | cons first rest ih =>
    refine ih ?_ (distinct.set _ _) fun event member => each event (mem_cons_of_mem _ member)
    intro key event found
    rw [rememberAuthenticatedEvent, Map.get_set] at found
    split at found
    · rename_i here
      cases found
      rw [here]
      exact each _ mem_cons_self
    · exact known key event found

theorem Authenticates.step {next : GraphState} {refusals : GraphRefusals ε} (authenticates : Authenticates events state)
    (passed : authenticateEvent refusals state signed = .ok next) : Authenticates (events ++ [signed]) next := by
  obtain ⟨fresh, seen, pending, taken, authenticated, answered, remembered⟩ := authenticateEvent_ok passed
  obtain ⟨buffered, flushed, accepted⟩ := (state.adapter.deliver_delivery signed).sources
  let Known (key : Str) (event : AuthenticatedEvent) : Prop :=
    ∃ other ∈ events ++ [signed], key = other.digest.text ∧ event = authenticatedEvent other
  have before : ∀ key event, state.authenticated.get key = some event → Known key event := by
    intro key event found
    obtain ⟨other, member, same⟩ := authenticates.known key event found
    exact ⟨other, mem_append_left _ member, same⟩
  have afterDelivery : (∀ key event, authenticated.get key = some event → Known key event) ∧ authenticated.Distinct := by
    cases result : (state.adapter.deliver signed).2 with
    | rejected alert => simp [rememberDelivered, result] at answered
    | buffered =>
      rw [result, rememberDelivered, Option.some.injEq] at answered
      exact answered ▸ ⟨before, authenticates.keys⟩
    | accepted source =>
      rw [result, rememberDelivered, Option.some.injEq] at answered
      have own : Known source.digest.text source := by
        obtain rfl := accepted source result
        exact ⟨signed, by simp, rfl, rfl⟩
      rw [← answered]
      exact @foldl_remember Known [source] state.authenticated before authenticates.keys (by simpa using own)
  have settled : ∀ event ∈ (state.adapter.deliver signed).1.flushedEvents, Known event.digest.text event := by
    intro event member
    rcases flushed event member with early | ⟨other, held, rfl⟩
    · rw [authenticates.taken] at early
      cases early
    · exact ⟨other, mem_append_left _ (authenticates.held other held), rfl, rfl⟩
  obtain ⟨known, keys⟩ := foldl_remember afterDelivery.1 afterDelivery.2 settled
  rw [← remembered] at known keys
  have unread : signed.digest.text ∉ events.map fun signed => signed.digest.text := by
    rw [← authenticates.seen, fresh]
    exact Bool.false_ne_true
  refine ⟨?_, ?_, ?_, taken, known, keys⟩
  · intro key
    rw [seen, Map.contains_set, Bool.or_eq_true, authenticates.seen]
    simp [or_comm, eq_comm]
  · rw [map_append]
    exact nodup_append.mpr ⟨authenticates.distinct, by simp, by simpa using unread⟩
  · intro other member
    rw [pending] at member
    rcases buffered other member with held | rfl
    · exact mem_append_left _ (authenticates.held other held)
    · simp

theorem authenticateEventGraph_ok {refusals : GraphRefusals ε} {authenticated : Map Str AuthenticatedEvent}
    (passed : authenticateEventGraph refusals hasher verifier sessionId authorityPeerId authorityKey players events =
      .ok authenticated) :
    ∀ signed ∈ events, authenticated.get signed.digest.text = some (authenticatedEvent signed) := by
  obtain ⟨adapter, boundary, passed⟩ := given_bind.mp passed
  obtain ⟨state, read, passed⟩ := bind_ok.mp passed
  obtain ⟨lengths, passed⟩ := require_bind.mp passed
  obtain rfl := Except.ok.inj passed
  have start : Authenticates [] ⟨adapter, Map.empty, Map.empty⟩ := by
    obtain ⟨pending, flushed⟩ := rosterBoundary_lists boundary
    refine ⟨by simp [Map.contains], nodup_nil, ?_, flushed, by simp, Map.distinct_empty⟩
    intro signed held
    rw [pending] at held
    cases held
  have authenticates := foldlM_prefix Authenticates (fun _ _ _ _ before next => before.step next) start read
  -- as many keys as events, and every key is the digest of an event
  have keys : (state.authenticated.entries.map Prod.fst).Perm (events.map fun signed => signed.digest.text) := by
    refine (subperm_of_subset authenticates.keys ?_).perm_of_length_le ?_
    · intro key member
      obtain ⟨event, found⟩ := Option.isSome_iff_exists.mp ((Map.mem_keys_iff _ _).mp member)
      obtain ⟨signed, inEvents, rfl, _⟩ := authenticates.known key event found
      exact mem_map.mpr ⟨signed, inEvents, rfl⟩
    · rw [length_map, length_map, ← lengths]
      exact le_rfl
  intro signed member
  have listed := keys.symm.subset (mem_map.mpr ⟨signed, member, rfl⟩)
  obtain ⟨event, found⟩ := Option.isSome_iff_exists.mp ((Map.mem_keys_iff _ _).mp listed)
  obtain ⟨other, inEvents, sameDigest, rfl⟩ := authenticates.known _ event found
  rw [found, inj_on_of_nodup_map authenticates.distinct member inEvents sameDigest]

end

end ConvergeAudit.Central
