import ConvergeAudit.Bft.Ledger

/-!
Every event that the adapter exposes was delivered, passed every check, and was accepted after the
dependencies it declares.
-/

namespace ConvergeAudit.Bft.AuditAdapter
open Moon Lib

section
variable [StrOrder] [DoubleFormat]

/-- Safety of whole runs. Every exposed event was delivered before, by a peer whose key was registered
before, in the session of the adapter, with a digest that is its hash and a signature that verifies,
and it was accepted after its dependencies; for a duplicate the last needs a collision-free hasher.
One event id has one digest. A collision-free hasher flushes no digest twice. -/
theorem run_exposes_only_authentic_events (hasher : Hasher) (verifier : Verifier) (sessionId : Str)
    (calls : List Call) :
    let final := ((new hasher verifier sessionId).run calls).1
    let trace := ((new hasher verifier sessionId).run calls).2
    (∀ before item after event, trace = before ++ item :: after → item.exposes = some event →
      ∃ signed, event = authenticatedEvent signed ∧ .delivered signed ∈ before ∧
        signed.sessionId = sessionId ∧
        signed.digest = hasher.hashString (serializeForHash signed.sessionId signed.event signed.depHashes) ∧
        .registered signed.event.id.peer signed.authorKey ∈ before ∧
        final.peerKeys.get signed.event.id.peer.text = some signed.authorKey ∧
        verifier.verify signed.authorKey signed.digest signed.signature = true ∧
        signed.event.deps.length = signed.depHashes.length ∧
        ((item = .returned true event → hasher.CollisionFree) → AcceptedAfterDependencies before signed)) ∧
    (∀ first ∈ trace, ∀ second ∈ trace, ∀ one other, first.exposes = some one → second.exposes = some other →
      one.event.id = other.event.id → one.digest = other.digest) ∧
    (hasher.CollisionFree → ((flushedIn trace).map AuthenticatedEvent.digest).Nodup) := by
  intro final trace
  obtain ⟨consistent, accounted, progress, parameters⟩ : Reached hasher verifier sessionId final trace :=
    run_reached hasher verifier sessionId calls
  have sameHasher : final.hasher = hasher := parameters.hasher
  have sameVerifier : final.verifier = verifier := parameters.verifier
  have sameSession : final.session = sessionId := parameters.session
  refine ⟨?_, ?_, ?_⟩
  · intro before item after event split exposes
    obtain ⟨signed, ⟨delivered, registered, authentic⟩, same, accepted⟩ :=
      (consistent.sound before item after split).exposes exposes
    rw [sameHasher] at accepted
    exact ⟨signed, same, delivered, sameSession ▸ authentic.session, sameHasher ▸ authentic.hash, registered,
      authentic.roster, sameVerifier ▸ authentic.signature, authentic.counts, accepted⟩
  · intro first occurs second also one other left right same
    have here := consistent.exposed first occurs one left
    have there := consistent.exposed second also other right
    rw [same, there] at here
    exact (Option.some.inj here).symm
  · intro injective
    have distinct := accounted.distinct (sameHasher ▸ injective)
    exact progress.flushed.nodup (List.nodup_append.mp distinct).1

end

/-! ### A colliding hasher

With a hasher that sees only the length of a text, two buffered events that wait for a third are both
flushed under one digest. -/

section
open Shortlex DoubleBits

def lengthHasher : Hasher := ⟨fun text => ⟨Str.ofInt text.length⟩⟩

def trustingVerifier : Verifier := ⟨fun _ _ _ => true⟩

def sampleEvent (hasher : Hasher) (peer : Str) (counter : Int) (deps : List (EventId × Digest)) : SignedEvent :=
  (new hasher trustingVerifier "game").sign ⟨fun digest => ⟨digest.text⟩, ⟨"key"⟩⟩
    { id := ⟨⟨peer⟩, counter⟩, deps := deps.map Prod.fst, lamport := counter, op := .delete "units" "row" }
    (deps.map Prod.snd)

def collidingCalls : List Call :=
  let first := sampleEvent lengthHasher "carol" 0 []
  let deps := [(first.event.id, first.digest)]
  [.registerPeer ⟨"alice"⟩ ⟨"key"⟩, .registerPeer ⟨"bobby"⟩ ⟨"key"⟩, .registerPeer ⟨"carol"⟩ ⟨"key"⟩,
    .deliver (sampleEvent lengthHasher "alice" 0 deps), .deliver (sampleEvent lengthHasher "bobby" 0 deps),
    .deliver first]

theorem length_hasher_flushes_a_digest_twice :
    ¬ ((flushedIn ((new lengthHasher trustingVerifier "game").run collidingCalls).2).map
      AuthenticatedEvent.digest).Nodup := by
  decide +kernel

end

end ConvergeAudit.Bft.AuditAdapter
