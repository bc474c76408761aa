import ConvergeAudit.Runtime.Outbox
import ConvergeAudit.Moon.Scan
import Mathlib.Data.List.MinMax
import Mathlib.Data.Prod.Lex

/-!
The response selection of `audit/runtime/peer_transport.mbt`. One response that is malformed or repeats a
peer refuses all.
-/

namespace ConvergeAudit.Runtime
open Moon List

/-- Response metadata as decoded from the transport. -/
structure PeerCheckpointResponse where
  peerId : Str
  checkpointDigest : AuditDigest
  authenticated : Bool
  receivedAtMs : ℤ
  deriving DecidableEq

inductive PeerCheckpointResponseSelection where
  | peerCheckpointResponseAccepted (index : ℕ)
  | peerCheckpointResponseUnavailable
  | peerCheckpointForkDetected (count : ℤ)
  | peerCheckpointResponseRefused
  deriving DecidableEq

section
variable [StrOrder]

/-- The response takes the place of the one selected before; `none` stands for the index `-1`. -/
def takesPlace (responses : List PeerCheckpointResponse) (response : PeerCheckpointResponse) : Option ℕ → Bool
  | none => true
  | some selected =>
    match responses[selected]? with
    | none => false
    | some best =>
      response.receivedAtMs < best.receivedAtMs ||
        (response.receivedAtMs = best.receivedAtMs && compare response.peerId best.peerId = .lt)

/-- The loop from `index` on, `none` when it refuses. -/
def selectLoop (responses : List PeerCheckpointResponse) (expectedDigest : AuditDigest) (index : ℕ)
    (seen : Map Str Bool) (selected : Option ℕ) (forkCount : ℤ) :
    List PeerCheckpointResponse → Option (Option ℕ × ℤ)
  | [] => some (selected, forkCount)
  | response :: rest =>
    if response.peerId = Str.empty || response.receivedAtMs < 0 then none
    else if seen.contains response.peerId then none
    else
      let seen := seen.set response.peerId true
      if response.authenticated then
        if response.checkpointDigest ≠ expectedDigest then
          selectLoop responses expectedDigest (index + 1) seen selected (forkCount + 1) rest
        else if takesPlace responses response selected then
          selectLoop responses expectedDigest (index + 1) seen (some index) forkCount rest
        else selectLoop responses expectedDigest (index + 1) seen selected forkCount rest
      else selectLoop responses expectedDigest (index + 1) seen selected forkCount rest

def selectPeerCheckpointResponse (responses : List PeerCheckpointResponse) (expectedDigest : AuditDigest) :
    PeerCheckpointResponseSelection :=
  if expectedDigest.text = Str.empty then .peerCheckpointResponseRefused
  else match selectLoop responses expectedDigest 0 Map.empty none 0 responses with
  | none => .peerCheckpointResponseRefused
  | some (selected, forkCount) =>
    if forkCount > 0 then .peerCheckpointForkDetected forkCount
    else match selected with
    | some index => .peerCheckpointResponseAccepted index
    | none => .peerCheckpointResponseUnavailable

end

section
variable (expectedDigest : AuditDigest) (response : PeerCheckpointResponse)

/-- The answer with the response that it names instead of its index. -/
inductive PeerOutcome where
  | accepted (response : Option PeerCheckpointResponse)
  | unavailable
  | forkDetected (count : ℤ)
  | refused

def PeerCheckpointResponseSelection.outcome (responses : List PeerCheckpointResponse) :
    PeerCheckpointResponseSelection → PeerOutcome
  | .peerCheckpointResponseAccepted index => .accepted responses[index]?
  | .peerCheckpointResponseUnavailable => .unavailable
  | .peerCheckpointForkDetected count => .forkDetected count
  | .peerCheckpointResponseRefused => .refused

/-- Named peers, each at most once, and no negative times. -/
@[mk_iff]
structure WellFormedResponses (responses : List PeerCheckpointResponse) : Prop where
  named : ∀ response ∈ responses, response.peerId ≠ Str.empty
  timed : ∀ response ∈ responses, 0 ≤ response.receivedAtMs
  distinct : (responses.map PeerCheckpointResponse.peerId).Nodup

def conflicts : Bool :=
  response.authenticated && response.checkpointDigest ≠ expectedDigest

def confirms : Bool :=
  response.authenticated && response.checkpointDigest = expectedDigest

structure Arrival where
  receivedAtMs : ℤ
  peerId : Str

def arrival : Arrival := ⟨response.receivedAtMs, response.peerId⟩

/-- Earlier arrivals first, those of one time by their peer. -/
instance [StrOrder] : LinearOrder Arrival :=
  @LinearOrder.lift' Arrival (ℤ ×ₗ Str) (@Prod.Lex.instLinearOrder ℤ Str Int.instLinearOrder _)
    (fun arrived => toLex (arrived.receivedAtMs, arrived.peerId)) fun first second same => by
      cases first
      cases second
      obtain ⟨times, peers⟩ := Prod.mk.inj (toLex.injective same)
      dsimp only at times peers
      rw [times, peers]

end

theorem argmin_eq_of_perm [LinearOrder κ] {key : α → κ} {left right : List α} (perm : left.Perm right)
    (injective : ∀ a ∈ left, ∀ b ∈ left, key a = key b → a = b) : left.argmin key = right.argmin key := by
  classical
  cases smallest : left.argmin key with
  | none =>
    rw [argmin_eq_none] at smallest
    rw [smallest, nil_perm] at perm
    rw [perm]
    rfl
  | some best =>
    obtain ⟨member, least, _⟩ := argmin_eq_some_iff.mp smallest
    refine (argmin_eq_some_iff.mpr ⟨perm.subset member, ?_, ?_⟩).symm
    · intro other present
      exact least other (perm.symm.subset present)
    · intro other present below
      have inLeft := perm.symm.subset present
      rw [injective other inLeft best member (le_antisymm below (least other inLeft))]

theorem WellFormedResponses.of_perm (perm : left.Perm right) (wellFormed : WellFormedResponses left) :
    WellFormedResponses right :=
  ⟨fun response member => wellFormed.named response (perm.symm.subset member),
    fun response member => wellFormed.timed response (perm.symm.subset member),
    (perm.map _).nodup_iff.mp wellFormed.distinct⟩

section
variable [StrOrder] (expectedDigest : AuditDigest)

/-- The answer as authenticated responses determine it. -/
def verdict (responses : List PeerCheckpointResponse) : PeerOutcome :=
  if 0 < responses.countP (conflicts expectedDigest) then .forkDetected (responses.countP (conflicts expectedDigest))
  else match (responses.filter (confirms expectedDigest)).argmin arrival with
  | some response => .accepted (some response)
  | none => .unavailable

/-- What the loop counts and selects, its refusals aside. -/
def tally (responses : List PeerCheckpointResponse) (index : ℕ) (selected : Option ℕ) (forkCount : ℤ) :
    List PeerCheckpointResponse → Option ℕ × ℤ
  | [] => (selected, forkCount)
  | response :: rest =>
    tally responses (index + 1)
      (if confirms expectedDigest response && takesPlace responses response selected then some index else selected)
      (if conflicts expectedDigest response then forkCount + 1 else forkCount) rest

theorem selectLoop_eq (selected : Option ℕ) (forkCount : ℤ) (rest : List PeerCheckpointResponse) :
    selectLoop responses expectedDigest index seen selected forkCount rest =
      (collectDistinct (·.peerId) (fun _ => true)
        (fun response => !(response.peerId = Str.empty || response.receivedAtMs < 0)) seen rest).map fun _ =>
          tally expectedDigest responses index selected forkCount rest := by
  induction rest generalizing index seen selected forkCount with
  | nil => rfl
  | cons response rest ih =>
    unfold selectLoop collectDistinct tally
    by_cases malformed : (response.peerId = Str.empty || response.receivedAtMs < 0 : Bool) = true
    · simp [malformed]
    by_cases repeated : seen.contains response.peerId = true
    · simp [malformed, repeated]
    simp only [malformed, repeated, Bool.not_false, Bool.not_true, Bool.or_false, Bool.false_eq_true, if_false, ih]
    unfold confirms conflicts
    cases response.authenticated
    · simp
    · by_cases same : response.checkpointDigest = expectedDigest <;>
        cases takesPlace responses response selected <;> simp [same]

omit [StrOrder] in
theorem collectDistinct_responses_iff (responses : List PeerCheckpointResponse) :
    (collectDistinct (·.peerId) (fun _ => true)
      (fun response => !(response.peerId = Str.empty || response.receivedAtMs < 0)) (Map.empty : Map Str Bool)
        responses).isSome = true ↔ WellFormedResponses responses := by
  rw [collectDistinct_isSome_iff]
  simp [wellFormedResponses_iff, imp_and, forall_and, and_assoc, Map.contains]

theorem takesPlace_iff (found : responses[selected]? = some best) (response : PeerCheckpointResponse) :
    takesPlace responses response (some selected) = true ↔ arrival response < arrival best := by
  unfold takesPlace
  dsimp only
  rw [found]
  simp only [Bool.or_eq_true, Bool.and_eq_true, decide_eq_true_eq]
  exact Iff.symm Prod.Lex.toLex_lt_toLex

/-- One response more: the selection stays the earliest confirming response. -/
theorem selection_step (located : responses[before.length]? = some response)
    (selection : selected.map (responses[·]?) = ((before.filter (confirms expectedDigest)).argmin arrival).map some) :
    (if confirms expectedDigest response && takesPlace responses response selected then some before.length
        else selected).map (responses[·]?) =
      (((before ++ [response]).filter (confirms expectedDigest)).argmin arrival).map some := by
  rw [filter_append]
  by_cases confirming : confirms expectedDigest response = true
  · rw [filter_cons_of_pos confirming, filter_nil, argmin_concat]
    cases earliest : (before.filter (confirms expectedDigest)).argmin arrival with
    | none =>
      rw [earliest, Option.map_none, Option.map_eq_none_iff] at selection
      simp [confirming, takesPlace, selection, located]
    | some best =>
      rw [earliest, Option.map_some] at selection
      obtain ⟨index, rfl, found⟩ := Option.map_eq_some_iff.mp selection
      have replaced := takesPlace_iff found response
      by_cases earlier : arrival response < arrival best
      · simp [confirming, replaced.mpr earlier, earlier, located]
      · have kept : takesPlace responses response (some index) = false := by
          rw [Bool.eq_false_iff]
          exact fun better => earlier (replaced.mp better)
        simp [confirming, kept, earlier, found]
  · rw [filter_cons_of_neg confirming, filter_nil, append_nil, ← selection]
    simp [confirming]

/-- The response selected in the end is the earliest confirming one, and the forks are counted. -/
theorem tally_eq (before rest : List PeerCheckpointResponse) (selected : Option ℕ) (forkCount : ℤ)
    (selection : selected.map ((before ++ rest)[·]?) =
      ((before.filter (confirms expectedDigest)).argmin arrival).map some)
    (counted : forkCount = before.countP (conflicts expectedDigest)) :
    (tally expectedDigest (before ++ rest) before.length selected forkCount rest).1.map ((before ++ rest)[·]?) =
        (((before ++ rest).filter (confirms expectedDigest)).argmin arrival).map some ∧
      (tally expectedDigest (before ++ rest) before.length selected forkCount rest).2 =
        (before ++ rest).countP (conflicts expectedDigest) := by
  induction rest generalizing before selected forkCount with
  | nil =>
    rw [append_nil] at selection ⊢
    exact ⟨selection, counted⟩
  | cons response rest ih =>
    have whole : before ++ response :: rest = (before ++ [response]) ++ rest := by simp
    have located : (before ++ response :: rest)[before.length]? = some response := by simp
    have next := selection_step expectedDigest located selection
    have count : (if conflicts expectedDigest response then forkCount + 1 else forkCount) =
        ((before ++ [response]).countP (conflicts expectedDigest) : ℕ) := by
      rw [countP_append, countP_singleton, counted]
      split <;> simp
    have position : before.length + 1 = (before ++ [response]).length := by simp
    unfold tally
    rw [whole] at next ⊢
    rw [position]
    exact ih (before ++ [response]) _ _ next count

variable {expectedDigest}

theorem outcome_of_malformed (malformed : ¬ WellFormedResponses responses) :
    (selectPeerCheckpointResponse responses expectedDigest).outcome responses = .refused := by
  unfold selectPeerCheckpointResponse
  split
  · rfl
  · rw [selectLoop_eq]
    rw [← collectDistinct_responses_iff, Bool.not_eq_true, Option.isSome_eq_false_iff, Option.isNone_iff_eq_none]
      at malformed
    rw [malformed]
    rfl

theorem outcome_of_wellFormed (present : expectedDigest.text ≠ Str.empty) (wellFormed : WellFormedResponses responses) :
    (selectPeerCheckpointResponse responses expectedDigest).outcome responses = verdict expectedDigest responses := by
  obtain ⟨seen, collected⟩ := Option.isSome_iff_exists.mp ((collectDistinct_responses_iff responses).mpr wellFormed)
  obtain ⟨selection, counted⟩ := tally_eq expectedDigest [] responses none 0 rfl rfl
  rw [nil_append, length_nil] at selection counted
  unfold selectPeerCheckpointResponse verdict
  rw [if_neg present, selectLoop_eq, collected, Option.map_some]
  dsimp only
  rw [counted]
  by_cases forked : 0 < responses.countP (conflicts expectedDigest)
  · rw [if_pos (by omega), if_pos forked]
    rfl
  · rw [if_neg (by omega), if_neg forked]
    cases earliest : (responses.filter (confirms expectedDigest)).argmin arrival with
    | none =>
      rw [earliest, Option.map_none, Option.map_eq_none_iff] at selection
      rw [selection]
      rfl
    | some best =>
      rw [earliest, Option.map_some] at selection
      obtain ⟨index, chosen, found⟩ := Option.map_eq_some_iff.mp selection
      rw [chosen]
      exact congrArg PeerOutcome.accepted found

theorem verdict_ne_refused : verdict expectedDigest responses ≠ .refused := by
  unfold verdict
  split
  · exact nofun
  · split <;> exact nofun

/-- Only authenticated responses bear on the verdict. -/
theorem verdict_congr (same : left.filter (·.authenticated) = right.filter (·.authenticated)) :
    verdict expectedDigest left = verdict expectedDigest right := by
  have filtered : ∀ test : PeerCheckpointResponse → Bool, (∀ response, test response = true → response.authenticated = true) →
      left.filter test = right.filter test := by
    intro test signed
    have both : (fun response => test response && response.authenticated) = test :=
      funext fun response => Bool.and_eq_left_iff_imp.mpr (signed response)
    rw [← both, ← filter_filter, same, filter_filter]
  unfold verdict
  rw [countP_eq_length_filter, countP_eq_length_filter, filtered (conflicts _), filtered (confirms _)]
  all_goals simp +contextual [conflicts, confirms]

theorem verdict_of_perm (perm : left.Perm right) (wellFormed : WellFormedResponses left) :
    verdict expectedDigest left = verdict expectedDigest right := by
  have earliest : (left.filter (confirms expectedDigest)).argmin arrival =
      (right.filter (confirms expectedDigest)).argmin arrival := by
    refine argmin_eq_of_perm (perm.filter _) ?_
    intro first firstMember second secondMember same
    have peers := congrArg Arrival.peerId same
    exact inj_on_of_nodup_map wellFormed.distinct (mem_of_mem_filter firstMember)
      (mem_of_mem_filter secondMember) peers
  unfold verdict
  rw [perm.countP_eq, earliest]

/-- Unauthenticated responses change the answer exactly by being malformed. The order never matters, and a signed fork is
reported exactly if no response is malformed. -/
theorem selection_ignores_unauthenticated_iff (present : expectedDigest.text ≠ Str.empty) :
    (∀ left right : List PeerCheckpointResponse,
      left.filter (·.authenticated) = right.filter (·.authenticated) →
        ((selectPeerCheckpointResponse left expectedDigest).outcome left =
            (selectPeerCheckpointResponse right expectedDigest).outcome right ↔
          (WellFormedResponses left ↔ WellFormedResponses right))) ∧
    (∀ left right : List PeerCheckpointResponse, left.Perm right →
      (selectPeerCheckpointResponse left expectedDigest).outcome left =
        (selectPeerCheckpointResponse right expectedDigest).outcome right) ∧
    (∀ responses : List PeerCheckpointResponse, ∀ response ∈ responses, response.authenticated = true →
      response.checkpointDigest ≠ expectedDigest →
        ((∃ count, selectPeerCheckpointResponse responses expectedDigest = .peerCheckpointForkDetected count) ↔
          WellFormedResponses responses)) := by
  refine ⟨?_, ?_, ?_⟩
  · intro left right same
    by_cases leftFormed : WellFormedResponses left <;> by_cases rightFormed : WellFormedResponses right <;>
      simp [outcome_of_wellFormed present, outcome_of_malformed, leftFormed, rightFormed, verdict_congr same,
        verdict_ne_refused, verdict_ne_refused.symm]
  · intro left right perm
    by_cases leftFormed : WellFormedResponses left
    · rw [outcome_of_wellFormed present leftFormed, outcome_of_wellFormed present (leftFormed.of_perm perm),
        verdict_of_perm perm leftFormed]
    · have rightMalformed : ¬ WellFormedResponses right := fun formed => leftFormed (formed.of_perm perm.symm)
      rw [outcome_of_malformed leftFormed, outcome_of_malformed rightMalformed]
  · intro responses response member authenticated conflicting
    constructor
    · rintro ⟨count, forked⟩
      by_contra malformed
      have refused : (selectPeerCheckpointResponse responses expectedDigest).outcome responses = .refused :=
        outcome_of_malformed malformed
      rw [forked] at refused
      cases refused
    · intro wellFormed
      have answer := outcome_of_wellFormed present wellFormed
      have counted : 0 < responses.countP (conflicts expectedDigest) :=
        countP_pos_iff.mpr ⟨response, member, by simp [conflicts, authenticated, conflicting]⟩
      rw [verdict, if_pos counted] at answer
      cases selected : selectPeerCheckpointResponse responses expectedDigest with
      | peerCheckpointForkDetected count => exact ⟨count, rfl⟩
      | peerCheckpointResponseAccepted | peerCheckpointResponseUnavailable | peerCheckpointResponseRefused =>
        rw [selected] at answer
        cases answer

end

section
open Shortlex

/-- The copy under the peer's name is not authenticated, and the fork that the peer signed is no longer reported. -/
theorem unauthenticated_copy_hides_fork :
    selectPeerCheckpointResponse [⟨lit "peer", ⟨lit "fork"⟩, true, 1⟩] ⟨lit "expected"⟩ = .peerCheckpointForkDetected 1 ∧
      selectPeerCheckpointResponse [⟨lit "peer", ⟨lit "fork"⟩, true, 1⟩, ⟨lit "peer", ⟨lit "forged"⟩, false, 2⟩]
        ⟨lit "expected"⟩ = .peerCheckpointResponseRefused := by
  decide +kernel

theorem selection_ignores_unauthenticated_named :
    (selectPeerCheckpointResponse [⟨lit "peer", ⟨lit "fork"⟩, true, 1⟩, ⟨lit "other", ⟨lit "forged"⟩, false, 2⟩]
        ⟨lit "expected"⟩).outcome [⟨lit "peer", ⟨lit "fork"⟩, true, 1⟩, ⟨lit "other", ⟨lit "forged"⟩, false, 2⟩] =
      (selectPeerCheckpointResponse [⟨lit "peer", ⟨lit "fork"⟩, true, 1⟩] ⟨lit "expected"⟩).outcome
        [⟨lit "peer", ⟨lit "fork"⟩, true, 1⟩] := by
  have present : (AuditDigest.mk (lit "expected")).text ≠ Str.empty := by decide +kernel
  have ignores := selection_ignores_unauthenticated_iff present
  refine (ignores.1 _ _ (by decide +kernel)).mpr ⟨fun _ => ?_, fun _ => ?_⟩
  · exact ⟨by decide +kernel, by decide +kernel, by decide +kernel⟩
  · exact ⟨by decide +kernel, by decide +kernel, by decide +kernel⟩

end

end ConvergeAudit.Runtime
