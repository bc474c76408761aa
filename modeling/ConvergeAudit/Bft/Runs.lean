import ConvergeAudit.Bft.Flush

/-!
A run is a sequence of calls; its trace lists, in order of time, what the calls make visible.
-/

namespace ConvergeAudit.Bft
open Moon List

inductive Call where
  | registerPeer (peer : PeerId) (key : PublicKey)
  | deliver (signed : SignedEvent)
  | takeFlushed
  | takeFlushedAlerts

inductive Observation where
  | registered (peer : PeerId) (key : PublicKey)
  | delivered (signed : SignedEvent)
  | accepted (digest : Digest) (id : EventId)
  | flushed (event : AuthenticatedEvent)
  | alerted (alert : AuditAlert)
  | returned (duplicate : Bool) (event : AuthenticatedEvent)
  | refused (signed : SignedEvent) (alert : AuditAlert)
  deriving DecidableEq

def Observation.exposes : Observation → Option AuthenticatedEvent
  | .flushed event => some event
  | .returned _ event => some event
  | _ => none

def flushTrace (events : List AuthenticatedEvent) : List Observation :=
  events.flatMap fun event => [.accepted event.digest event.event.id, .flushed event]

theorem flushTrace_append :
    flushTrace (front ++ back) = flushTrace front ++ flushTrace back := flatMap_append

/-- The digest for which an observation reports mismatched dependencies. A refusal counts only if it came
after the dependency count was checked. -/
def Observation.reports : Observation → Option Digest
  | .refused signed alert =>
    if alert.kind = .dependencyMismatch ∧ signed.event.deps.length = signed.depHashes.length then some signed.digest
    else none
  | .alerted alert => if alert.kind = .dependencyMismatch then some alert.digest else none
  | _ => none

def Observation.settles : Observation → Option Digest
  | .accepted digest _ => some digest
  | item => item.reports

def settledIn (trace : List Observation) : List Digest := trace.filterMap Observation.settles

theorem flushTrace_reports (member : item ∈ flushTrace events) : item.reports = none := by
  obtain ⟨event, -, here⟩ := mem_flatMap.mp member
  simp only [mem_cons, not_mem_nil, or_false] at here
  rcases here with rfl | rfl <;> rfl

def flushedIn (trace : List Observation) : List AuthenticatedEvent := trace.filterMap fun
  | .flushed event => some event
  | _ => none

theorem settledIn_append (front back : List Observation) :
    settledIn (front ++ back) = settledIn front ++ settledIn back := filterMap_append

theorem flushedIn_append :
    flushedIn (front ++ back) = flushedIn front ++ flushedIn back := filterMap_append

theorem settledIn_flushTrace (events : List AuthenticatedEvent) :
    settledIn (flushTrace events) = events.map AuthenticatedEvent.digest := by
  induction events with
  | nil => rfl
  | cons event rest ih => exact congrArg (event.digest :: ·) ih

theorem settledIn_refused (alert : AuditAlert) :
    settledIn [.delivered signed, .refused signed alert] = (Observation.refused signed alert).reports.toList := by
  have settles : (Observation.refused signed alert).settles = (Observation.refused signed alert).reports := rfl
  have silent : (Observation.delivered signed).settles = none := rfl
  cases reports : (Observation.refused signed alert).reports <;> simp [settledIn, silent, settles, reports]

theorem flushedIn_flushTrace : flushedIn (flushTrace events) = events := by
  induction events with
  | nil => rfl
  | cons event rest ih => exact congrArg (event :: ·) ih

variable {self next : AuditAdapter}

namespace AuditAdapter

def flushedBy (self : AuditAdapter) : List SignedEvent → List AuthenticatedEvent
  | [] => []
  | signed :: rest =>
    (if self.dependenciesMatch signed then [authenticatedEvent signed] else []) ++
      (self.settleEvent signed).1.flushedBy rest

def alertedBy (self : AuditAdapter) : List SignedEvent → List AuditAlert
  | [] => []
  | signed :: rest =>
    (if self.dependenciesMatch signed then [] else [dependencyMismatchAlert signed]) ++
      (self.settleEvent signed).1.alertedBy rest

theorem settleEvents_flushed (self : AuditAdapter) :
    (self.settleEvents batch).flushedEvents = self.flushedEvents ++ self.flushedBy batch ∧
    (self.settleEvents batch).flushedAlerts = self.flushedAlerts ++ self.alertedBy batch := by
  induction batch generalizing self with
  | nil => simp [flushedBy, alertedBy]
  | cons signed rest ih =>
    obtain ⟨flushed, alerted⟩ := ih (self.settleEvent signed).1
    rw [settleEvents_cons, flushed, alerted]
    cases matched : self.dependenciesMatch signed with
    | true => simp [flushedBy, alertedBy, matched, settleEvent_of_match matched, record]
    | false => simp [flushedBy, alertedBy, matched, settleEvent_of_mismatch matched]

theorem flushedBy_append :
    self.flushedBy (front ++ back) = self.flushedBy front ++ (self.settleEvents front).flushedBy back := by
  induction front generalizing self with
  | nil => rfl
  | cons signed rest ih => rw [cons_append, flushedBy, ih, flushedBy, settleEvents_cons, append_assoc]

theorem settledBy_perm (self : AuditAdapter) (batch : List SignedEvent) :
    ((self.flushedBy batch).map AuthenticatedEvent.digest ++ (self.alertedBy batch).map AuditAlert.digest).Perm
      (batch.map SignedEvent.digest) := by
  induction batch generalizing self with
  | nil => exact List.Perm.refl _
  | cons signed rest ih =>
    have later := ih (self.settleEvent signed).1
    rw [flushedBy, alertedBy, map_cons]
    split
    · exact later.cons _
    · exact perm_middle.trans (later.cons _)

theorem mem_alertedBy (member : alert ∈ self.alertedBy batch) :
    ∃ before signed after, batch = before ++ signed :: after ∧
      alert = dependencyMismatchAlert signed ∧ (self.settleEvents before).dependenciesMatch signed = false := by
  induction batch generalizing self with
  | nil => cases member
  | cons signed rest ih =>
    rcases mem_append.mp member with here | later
    · split at here
      · cases here
      · rename_i mismatched
        exact ⟨[], signed, rest, rfl, mem_singleton.mp here, eq_false_of_ne_true mismatched⟩
    · obtain ⟨before, other, after, rfl, same, mismatched⟩ := ih later
      exact ⟨signed :: before, other, after, rfl, same, mismatched⟩

theorem mem_flushedBy (member : event ∈ self.flushedBy batch) :
    ∃ signed ∈ batch, event = authenticatedEvent signed := by
  induction batch generalizing self with
  | nil => cases member
  | cons signed rest ih =>
    rcases mem_append.mp member with here | later
    · split at here
      · exact ⟨signed, mem_cons_self, mem_singleton.mp here⟩
      · cases here
    · obtain ⟨other, inRest, same⟩ := ih later
      exact ⟨other, mem_cons_of_mem _ inRest, same⟩

theorem settledIn_alerts (batch : List SignedEvent) :
    settledIn ((self.alertedBy batch).map .alerted) = (self.alertedBy batch).map AuditAlert.digest := by
  have kinds : ∀ alert ∈ self.alertedBy batch, alert.kind = .dependencyMismatch := by
    intro alert member
    obtain ⟨-, signed, -, -, rfl, -⟩ := mem_alertedBy member
    rfl
  generalize self.alertedBy batch = alerts at kinds
  induction alerts with
  | nil => rfl
  | cons alert rest ih =>
    have kind := kinds alert mem_cons_self
    have tail := ih fun other member => kinds other (mem_cons_of_mem _ member)
    simpa [settledIn, Observation.settles, Observation.reports, kind] using tail

/-- What a delivery makes visible, given the adapter after it and its answer. A first delivery that is
accepted records its digest before the flush; a duplicate records nothing. -/
def observe (self : AuditAdapter) (signed : SignedEvent) (next : AuditAdapter) (result : DeliveryResult) :
    List Observation :=
  let duplicate := (self.eventDigests.get (eqKey signed.event.id)).isSome
  let flushed := flushTrace (next.flushedEvents.drop self.flushedEvents.length)
  let alerts := (next.flushedAlerts.drop self.flushedAlerts.length).map Observation.alerted
  match result with
  | .accepted event =>
    let own := if duplicate then [] else [Observation.accepted signed.digest signed.event.id]
    .delivered signed :: own ++ flushed ++ alerts ++ [.returned duplicate event]
  | .buffered => .delivered signed :: flushed ++ alerts
  | .rejected alert => .delivered signed :: flushed ++ alerts ++ [.refused signed alert]

variable [StrOrder] [DoubleFormat]

def apply (self : AuditAdapter) : Call → AuditAdapter × List Observation
  | .registerPeer peer key =>
    let (next, bound) := self.registerPeer peer key
    (next, if bound then [.registered peer key] else [])
  | .deliver signed =>
    let (next, result) := self.deliver signed
    (next, self.observe signed next result)
  | .takeFlushed => (self.takeFlushed.1, [])
  | .takeFlushedAlerts => (self.takeFlushedAlerts.1, [])

def run (self : AuditAdapter) : List Call → AuditAdapter × List Observation
  | [] => (self, [])
  | call :: rest =>
    let (next, now) := self.apply call
    let (last, later) := next.run rest
    (last, now ++ later)

theorem run_invariant {P : AuditAdapter → List Observation → Prop}
    (step : ∀ adapter trace, ∀ call ∈ calls, P adapter trace →
      P (adapter.apply call).1 (trace ++ (adapter.apply call).2)) (start : P self trace) :
    P (self.run calls).1 (trace ++ (self.run calls).2) := by
  induction calls generalizing self trace with
  | nil => simpa [run] using start
  | cons call rest ih =>
    have next := ih (fun adapter trace other member => step adapter trace other (mem_cons_of_mem _ member))
      (step self trace call mem_cons_self start)
    rw [append_assoc] at next
    exact next

/-- The outcomes of `deliver`: the adapter after the call, the answer, and what becomes visible. -/
inductive Delivery (self : AuditAdapter) (signed : SignedEvent) :
    AuditAdapter → DeliveryResult → List Observation → Prop where
  | refused (alert : AuditAlert) (failed : self.refusal signed = some alert) :
      Delivery self signed self (.rejected alert) [.delivered signed, .refused signed alert]
  | equivocation (existing : Digest) (alert : AuditAlert) (passed : self.refusal signed = none)
      (found : self.eventDigests.get (eqKey signed.event.id) = some existing) (different : existing ≠ signed.digest)
      (kind : alert.kind = .equivocation) :
      Delivery self signed self (.rejected alert) [.delivered signed, .refused signed alert]
  | repeated (passed : self.refusal signed = none)
      (found : self.eventDigests.get (eqKey signed.event.id) = some signed.digest)
      (stored : self.digestStore.contains signed.digest.text = true) :
      Delivery self signed self (.accepted (authenticatedEvent signed))
        [.delivered signed, .returned true (authenticatedEvent signed)]
  | waiting (passed : self.refusal signed = none)
      (found : self.eventDigests.get (eqKey signed.event.id) = some signed.digest)
      (absent : self.digestStore.contains signed.digest.text = false) :
      Delivery self signed self .buffered [.delivered signed]
  | buffered (passed : self.refusal signed = none) (fresh : self.eventDigests.get (eqKey signed.event.id) = none)
      (lacking : self.lacksDependency signed = true) :
      Delivery self signed { self.reserve signed with pendingBuffer := self.pendingBuffer ++ [signed] } .buffered
        [.delivered signed]
  | mismatched (passed : self.refusal signed = none) (fresh : self.eventDigests.get (eqKey signed.event.id) = none)
      (complete : self.lacksDependency signed = false) (mismatch : self.dependenciesMatch signed = false) :
      Delivery self signed (self.reserve signed) (.rejected (dependencyMismatchAlert signed))
        [.delivered signed, .refused signed (dependencyMismatchAlert signed)]
  | accepted (recorded : AuditAdapter) (batch rest : List SignedEvent) (passed : self.refusal signed = none)
      (fresh : self.eventDigests.get (eqKey signed.event.id) = none)
      (complete : self.lacksDependency signed = false) (matched : self.dependenciesMatch signed = true)
      (own : recorded = (self.reserve signed).record signed) (perm : (batch ++ rest).Perm self.pendingBuffer)
      (stuck : ∀ other ∈ rest, (recorded.settleEvents batch).lacksDependency other = true)
      (ready : (self.pendingBuffer.map SignedEvent.digest).Nodup → ∀ before other after,
        batch = before ++ other :: after → (recorded.settleEvents before).lacksDependency other = false) :
      Delivery self signed { recorded.settleEvents batch with pendingBuffer := rest }
        (.accepted (authenticatedEvent signed))
        ([.delivered signed, .accepted signed.digest signed.event.id] ++ flushTrace (recorded.flushedBy batch) ++
          (recorded.alertedBy batch).map .alerted ++ [.returned false (authenticatedEvent signed)])

section
variable (delivery : Delivery self signed next result seen)
include delivery

theorem delivered_mem : .delivered signed ∈ seen := by
  cases delivery <;> simp

theorem delivered_eq (member : .delivered other ∈ seen) : other = signed := by
  cases delivery with
  | accepted recorded batch rest passed fresh complete matched own perm stuck ready =>
    simpa [flushTrace] using member
  | _ => simpa using member

theorem Delivery.sources :
    (∀ other ∈ next.pendingBuffer, other ∈ self.pendingBuffer ∨ other = signed) ∧
      (∀ event ∈ next.flushedEvents, event ∈ self.flushedEvents ∨
        ∃ other ∈ self.pendingBuffer, event = authenticatedEvent other) ∧
      ∀ event, result = .accepted event → event = authenticatedEvent signed := by
  cases delivery with
  | buffered passed fresh lacking =>
    refine ⟨?_, fun event member => Or.inl member, ?_⟩
    · intro other member
      simpa using member
    · intro event accepted
      cases accepted
  | accepted recorded batch rest passed fresh complete matched own perm stuck ready =>
    refine ⟨?_, ?_, ?_⟩
    · intro other member
      exact Or.inl (perm.subset (mem_append_right batch member))
    · intro event member
      have flushed := member
      have before : recorded.flushedEvents = self.flushedEvents := by rw [own]; rfl
      rw [recorded.settleEvents_flushed.1, before] at flushed
      rcases mem_append.mp flushed with before | now
      · exact Or.inl before
      · obtain ⟨other, inBatch, same⟩ := mem_flushedBy now
        exact Or.inr ⟨other, perm.subset (mem_append_left rest inBatch), same⟩
    · intro event accepted
      exact (DeliveryResult.accepted.inj accepted).symm
  | repeated passed found stored =>
    refine ⟨fun other member => Or.inl member, fun event member => Or.inl member, ?_⟩
    intro event accepted
    exact (DeliveryResult.accepted.inj accepted).symm
  | _ =>
    refine ⟨fun other member => Or.inl member, fun event member => Or.inl member, ?_⟩
    intro event accepted
    cases accepted

end

theorem deliver_delivery (self : AuditAdapter) (signed : SignedEvent) :
    Delivery self signed (self.deliver signed).1 (self.deliver signed).2
      (self.observe signed (self.deliver signed).1 (self.deliver signed).2) := by
  -- A call that leaves both lists alone shows the delivery and its answer only.
  have quiet : ∀ next : AuditAdapter, next.flushedEvents = self.flushedEvents →
      next.flushedAlerts = self.flushedAlerts → ∀ result, self.observe signed next result =
        .delivered signed :: match result with
          | .accepted event =>
            let duplicate := (self.eventDigests.get (eqKey signed.event.id)).isSome
            (if duplicate then [] else [.accepted signed.digest signed.event.id]) ++ [.returned duplicate event]
          | .buffered => []
          | .rejected alert => [.refused signed alert] := by
    intro next flushed alerts result
    cases result <;> simp [observe, flushed, alerts, flushTrace]
  unfold deliver
  cases passed : self.refusal signed with
  | some alert =>
    rw [quiet self rfl rfl]
    exact .refused alert passed
  | none =>
    cases found : self.eventDigests.get (eqKey signed.event.id) with
    | some existing =>
      dsimp only
      split
      · rename_i different
        rw [quiet self rfl rfl]
        exact .equivocation existing _ passed found different rfl
      · rename_i same
        have same := not_not.mp same
        subst same
        split
        · rename_i stored
          rw [quiet self rfl rfl, found]
          exact .repeated passed found stored
        · rename_i absent
          rw [quiet self rfl rfl]
          exact .waiting passed found (by simpa using absent)
    | none =>
      dsimp only
      split
      · rename_i lacking
        rw [quiet _ ?flushed ?alerts]
        · exact .buffered passed found lacking
        all_goals rfl
      · rename_i complete
        -- The reservation does not touch the tables that the causal checks read.
        have complete := eq_false_of_ne_true complete
        split
        · rename_i mismatch
          have mismatch : (self.reserve signed).dependenciesMatch signed = false := by simpa using mismatch
          rw [quiet (self.reserve signed) rfl rfl]
          exact .mismatched passed found complete mismatch
        · rename_i matched
          have matched : (self.reserve signed).dependenciesMatch signed = true := by simpa using matched
          obtain ⟨batch, rest, perm, flushed, stuck, ready⟩ := ((self.reserve signed).record signed).tryFlush_spec
          obtain ⟨events, alerts⟩ := ((self.reserve signed).record signed).settleEvents_flushed
          have visible : self.observe signed
              { ((self.reserve signed).record signed).settleEvents batch with pendingBuffer := rest }
              (.accepted (authenticatedEvent signed)) =
              [.delivered signed, .accepted signed.digest signed.event.id] ++
                flushTrace (((self.reserve signed).record signed).flushedBy batch) ++
                (((self.reserve signed).record signed).alertedBy batch).map .alerted ++
                [.returned false (authenticatedEvent signed)] := by
            rw [observe, events, alerts, found]
            simp [record, reserve]
          rw [accept, flushed, visible]
          exact .accepted _ batch rest passed found complete matched rfl perm stuck ready

end AuditAdapter

end ConvergeAudit.Bft
