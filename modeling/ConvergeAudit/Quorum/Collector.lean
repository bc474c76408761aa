import ConvergeAudit.Quorum.Roster
import ConvergeAudit.Bft.Adapter
import ConvergeAudit.Lib.JoinTable

/-!
`audit/quorum`: a collector merges authenticated votes into one state per roster member. The states form a
join-semilattice, so what it has seen is a set.
-/

namespace ConvergeAudit.Quorum
open Moon Bft Lib List JoinTable

/-- Evidence of one participant for one subject. -/
inductive ParticipantVote where
  | noVote
  | approveVote
  | challengeVote
  | equivocatedVote
  deriving DecidableEq

def mergeParticipantVotes : ParticipantVote → ParticipantVote → ParticipantVote
  | .equivocatedVote, _ => .equivocatedVote
  | _, .equivocatedVote => .equivocatedVote
  | .noVote, state => state
  | state, .noVote => state
  | .approveVote, .approveVote => .approveVote
  | .challengeVote, .challengeVote => .challengeVote
  | .approveVote, .challengeVote => .equivocatedVote
  | .challengeVote, .approveVote => .equivocatedVote

def ParticipantVote.isApproval : ParticipantVote → Bool
  | .approveVote => true
  | _ => false

def ParticipantVote.isChallenge : ParticipantVote → Bool
  | .challengeVote | .equivocatedVote => true
  | _ => false

theorem merge_comm (a b : ParticipantVote) : mergeParticipantVotes a b = mergeParticipantVotes b a := by
  cases a <;> cases b <;> rfl

theorem merge_assoc (a b c : ParticipantVote) :
    mergeParticipantVotes (mergeParticipantVotes a b) c = mergeParticipantVotes a (mergeParticipantVotes b c) := by
  cases a <;> cases b <;> cases c <;> rfl

theorem merge_self (a : ParticipantVote) : mergeParticipantVotes a a = a := by
  cases a <;> rfl

instance : Max ParticipantVote := ⟨mergeParticipantVotes⟩

/-- `a ≤ b` if `a` is contained in `b`: merging it in changes nothing. -/
instance : SemilatticeSup ParticipantVote := SemilatticeSup.mk' merge_comm merge_assoc merge_self

instance : OrderBot ParticipantVote where
  bot := .noVote
  bot_le vote := by cases vote <;> rfl

theorem sup_eq_merge (a b : ParticipantVote) : a ⊔ b = mergeParticipantVotes a b := rfl

theorem le_iff_merge (a b : ParticipantVote) : a ≤ b ↔ mergeParticipantVotes a b = b := sup_eq_right.symm

inductive VoteChoice where
  | approveChoice
  | challengeChoice
  deriving DecidableEq

def VoteChoice.vote : VoteChoice → ParticipantVote
  | .approveChoice => .approveVote
  | .challengeChoice => .challengeVote

/-- A choice is in a merge exactly if it is in one of the parts. -/
theorem VoteChoice.vote_supPrime (choice : VoteChoice) : SupPrime choice.vote := by
  refine ⟨fun least => ?_, fun a b => ?_⟩
  · have below := least (bot_le : ⊥ ≤ choice.vote)
    rw [le_iff_merge] at below
    revert below
    cases choice <;> decide
  · rw [le_iff_merge, le_iff_merge, le_iff_merge, sup_eq_merge]
    cases choice <;> cases a <;> cases b <;> decide

theorem VoteChoice.vote_le_iff (choice other : VoteChoice) : choice.vote ≤ other.vote ↔ choice = other := by
  rw [le_iff_merge]
  cases choice <;> cases other <;> decide

theorem isApproval_iff (vote : ParticipantVote) :
    vote.isApproval = true ↔ VoteChoice.vote .approveChoice ≤ vote ∧ ¬ VoteChoice.vote .challengeChoice ≤ vote := by
  rw [le_iff_merge, le_iff_merge]
  cases vote <;> decide

theorem isChallenge_iff (vote : ParticipantVote) :
    vote.isChallenge = true ↔ VoteChoice.vote .challengeChoice ≤ vote := by
  rw [le_iff_merge]
  cases vote <;> decide

structure VoteStatement where
  subjectDigest : Digest
  memberId : Str
  domain : Str
  choice : VoteChoice

structure SignedVote where
  statement : VoteStatement
  digest : Digest
  signature : Signature
  signerKey : PublicKey

structure QuorumMember where
  memberId : Str
  memberKey : PublicKey

inductive VoteAlertKind where
  | voteInvalidRoster
  | voteHashMismatch
  | voteUnknownMember
  | voteSignerKeyMismatch
  | voteInvalidSignature
  | voteWrongSubject
  | voteWrongDomain
  | voteEquivocation

structure VoteAlert where
  kind : VoteAlertKind
  memberId : Str
  digest : Digest
  detail : Str

inductive VoteDeliveryResult where
  | voteAccepted
  | voteDuplicate
  | voteRejected (alert : VoteAlert)

structure QuorumEvidence where
  approvals : List Bool
  challenged : Bool

def VoteChoice.mark : VoteChoice → Str
  | .approveChoice => "A"
  | .challengeChoice => "C"

def serializeVoteStatement (statement : VoteStatement) : Str :=
  appendField (appendField (appendField (appendField Str.empty "attestation-v2") statement.subjectDigest.text)
    statement.memberId) statement.domain ++ statement.choice.mark

def signVote (hasher : Hasher) (signer : Signer) (subjectDigest : Digest) (memberId domain : Str)
    (choice : VoteChoice) : SignedVote :=
  let statement : VoteStatement := ⟨subjectDigest, memberId, domain, choice⟩
  let digest := hasher.hashString (serializeVoteStatement statement)
  { statement := statement, digest := digest, signature := signer.sign digest, signerKey := signer.publicKey }

structure VoteCollector where
  hasher : Hasher
  verifier : Verifier
  subjectDigestValue : Digest
  domainValue : Str
  memberKeys : Map Str PublicKey
  memberIndices : Map Str Nat
  votes : List ParticipantVote
  rosterValidValue : Bool

def rosterEntries (members : List QuorumMember) : List (Str × PublicKey) :=
  members.map fun member => (member.memberId, member.memberKey)

def voteRejection (kind : VoteAlertKind) (signed : SignedVote) (detail : Str) : VoteDeliveryResult :=
  .voteRejected ⟨kind, signed.statement.memberId, signed.digest, detail⟩

namespace VoteCollector

def new (hasher : Hasher) (verifier : Verifier) (subjectDigest : Digest) (domain : Str)
    (members : List QuorumMember) : VoteCollector :=
  let roster := enrol (subjectDigest.text != Str.empty && domain != Str.empty) (rosterEntries members)
  { hasher := hasher
    verifier := verifier
    subjectDigestValue := subjectDigest
    domainValue := domain
    memberKeys := roster.keys
    memberIndices := roster.indices
    votes := List.replicate members.length .noVote
    rosterValidValue := roster.valid }

variable (collector : VoteCollector)

def deliver (signed : SignedVote) : VoteCollector × VoteDeliveryResult :=
  if !collector.rosterValidValue then
    (collector, voteRejection .voteInvalidRoster signed "quorum roster or collector subject is invalid")
  else if collector.hasher.hashString (serializeVoteStatement signed.statement) ≠ signed.digest then
    (collector, voteRejection .voteHashMismatch signed "vote digest mismatch")
  else if signed.statement.domain ≠ collector.domainValue then
    (collector, voteRejection .voteWrongDomain signed "vote belongs to a different protocol domain")
  else match collector.memberIndices.get signed.statement.memberId with
  | none => (collector, voteRejection .voteUnknownMember signed "member is absent from the configured roster")
  | some index =>
    match collector.memberKeys.get signed.statement.memberId with
    | none => (collector, voteRejection .voteInvalidRoster signed "member index has no signing key")
    | some expectedKey =>
      if expectedKey ≠ signed.signerKey then
        (collector, voteRejection .voteSignerKeyMismatch signed "vote signer does not own the member id")
      else if !collector.verifier.verify signed.signerKey signed.digest signed.signature then
        (collector, voteRejection .voteInvalidSignature signed "vote signature verification failed")
      else if signed.statement.subjectDigest ≠ collector.subjectDigestValue then
        (collector, voteRejection .voteWrongSubject signed "vote targets a different subject")
      else
        let current := collector.votes.getD index .noVote
        let merged := mergeParticipantVotes current signed.statement.choice.vote
        if merged = current then (collector, .voteDuplicate)
        else
          let updated := { collector with votes := collector.votes.set index merged }
          if merged = .equivocatedVote then
            (updated, voteRejection .voteEquivocation signed "member signed conflicting choices")
          else (updated, .voteAccepted)

def deliverAll (votes : List SignedVote) : VoteCollector :=
  votes.foldl (fun collector signed => (collector.deliver signed).1) collector

def evidence : QuorumEvidence where
  approvals := collector.votes.map fun vote => collector.rosterValidValue && vote.isApproval
  challenged := collector.votes.foldl (fun challenged vote => if vote.isChallenge then true else challenged)
    (!collector.rosterValidValue)

end VoteCollector

structure Poll where
  hasher : Hasher
  verifier : Verifier
  subject : Digest
  domain : Str
  members : List QuorumMember

/-- The subject and the domain are named, and the roster is unambiguous. -/
@[mk_iff]
structure Poll.Valid (poll : Poll) : Prop where
  subject_named : poll.subject.text ≠ Str.empty
  domain_named : poll.domain ≠ Str.empty
  sound : SoundRoster (rosterEntries poll.members)

/-- A signed vote that passes every check of the poll's collector, as the choice of the member at `index`. -/
structure Poll.Authentic (poll : Poll) (signed : SignedVote) (index : Nat) (choice : VoteChoice) : Prop where
  digest : poll.hasher.hashString (serializeVoteStatement signed.statement) = signed.digest
  domain : signed.statement.domain = poll.domain
  member : poll.members[index]? = some ⟨signed.statement.memberId, signed.signerKey⟩
  signature : poll.verifier.verify signed.signerKey signed.digest signed.signature = true
  subject : signed.statement.subjectDigest = poll.subject
  choice : signed.statement.choice = choice

namespace Poll

def collector (poll : Poll) : VoteCollector :=
  VoteCollector.new poll.hasher poll.verifier poll.subject poll.domain poll.members

def evidence (poll : Poll) (votes : List SignedVote) : QuorumEvidence := (poll.collector.deliverAll votes).evidence

/-- Some vote of the run was authenticated as `choice` of the member at `index`. -/
def Authenticated (poll : Poll) (votes : List SignedVote) (index : Nat) (choice : VoteChoice) : Prop :=
  ∃ signed ∈ votes, poll.Authentic signed index choice

end Poll

/-- What one delivery joins into the table of votes: nothing, or the choice of one member. -/
def VoteCollector.update (collector : VoteCollector) (signed : SignedVote) : Option (Nat × ParticipantVote) :=
  if collector.rosterValidValue ∧ collector.hasher.hashString (serializeVoteStatement signed.statement) = signed.digest ∧
      signed.statement.domain = collector.domainValue ∧
      collector.memberKeys.get signed.statement.memberId = some signed.signerKey ∧
      collector.verifier.verify signed.signerKey signed.digest signed.signature ∧
      signed.statement.subjectDigest = collector.subjectDigestValue then
    (collector.memberIndices.get signed.statement.memberId).map fun index => (index, signed.statement.choice.vote)
  else none

namespace VoteCollector

variable (collector : VoteCollector)

/-- Every delivery is an update of the table, and touches nothing else. -/
theorem deliver_eq (signed : SignedVote) :
    (collector.deliver signed).1 =
      { collector with votes := absorbAll collector.votes (collector.update signed).toList } := by
  unfold update
  split
  · rename_i passed
    obtain ⟨valid, hashed, inDomain, keyFound, signature, sameSubject⟩ := passed
    unfold deliver
    rw [if_neg (by simp [valid]), if_neg (not_not.mpr hashed), if_neg (not_not.mpr inDomain)]
    cases collector.memberIndices.get signed.statement.memberId with
    | none => rfl
    | some index =>
      have written : collector.votes.set index
          (mergeParticipantVotes (collector.votes.getD index .noVote) signed.statement.choice.vote) =
            absorb collector.votes (index, signed.statement.choice.vote) :=
        set_sup_eq_absorb _ _ _
      simp only [keyFound, signature, sameSubject, not_true_eq_false, ne_eq, Bool.not_true, Bool.false_eq_true, if_false,
        Option.map_some, Option.toList_some, absorbAll, foldl_cons, foldl_nil]
      split
      · rename_i unchanged
        rw [absorb_of_le (sup_eq_left.mp unchanged)]
      · split <;> rw [written]
  · rename_i refused
    unfold deliver
    iterate 8 (split; · rfl)
    rename_i valid hashed inDomain _ _ _ _ _ keyFound sameKey signature sameSubject
    rw [Bool.not_not_eq] at valid signature
    rw [ne_eq, not_not] at hashed inDomain sameKey sameSubject
    exact absurd ⟨valid, hashed, inDomain, sameKey ▸ keyFound, signature, sameSubject⟩ refused

theorem update_deliver (signed other : SignedVote) :
    (collector.deliver signed).1.update other = collector.update other := by
  rw [deliver_eq]
  rfl

theorem deliverAll_eq (votes : List SignedVote) :
    collector.deliverAll votes =
      { collector with votes := absorbAll collector.votes (votes.filterMap collector.update) } := by
  induction votes generalizing collector with
  | nil => rfl
  | cons signed rest ih =>
    have same : (collector.deliver signed).1.update = collector.update := funext (update_deliver collector signed)
    rw [deliverAll, foldl_cons]
    refine (ih _).trans ?_
    rw [same, deliver_eq]
    cases found : collector.update signed <;> simp [found, absorbAll]

end VoteCollector

theorem getElem?_rosterEntries (index : Nat) (id : Str) (key : PublicKey) :
    (rosterEntries members)[index]? = some (id, key) ↔ members[index]? = some ⟨id, key⟩ := by
  simp only [rosterEntries, getElem?_map, Option.map_eq_some_iff, Prod.mk.injEq]
  constructor
  · rintro ⟨⟨memberId, memberKey⟩, found, rfl, rfl⟩
    exact found
  · intro found
    exact ⟨_, found, rfl, rfl⟩

theorem challenged_eq (votes : List ParticipantVote) (challenged : Bool) :
    votes.foldl (fun challenged vote => if vote.isChallenge then true else challenged) challenged =
      (challenged || votes.any ParticipantVote.isChallenge) := by
  induction votes generalizing challenged with
  | nil => simp
  | cons vote rest ih =>
    rw [foldl_cons, ih, any_cons]
    cases vote.isChallenge <;> simp

namespace Poll

def vote (poll : Poll) (votes : List SignedVote) (index : Nat) : ParticipantVote :=
  joined (votes.filterMap poll.collector.update) index

variable {poll : Poll}

theorem Authentic.inside {choice : VoteChoice} (authentic : poll.Authentic signed index choice) :
    index < poll.members.length :=
  (List.getElem?_eq_some_iff.mp authentic.member).1

theorem rosterValid_iff : poll.collector.rosterValidValue = true ↔ poll.Valid := by
  have reads := enrol_reads (poll.subject.text != Str.empty && poll.domain != Str.empty) (rosterEntries poll.members)
  refine reads.valid_iff.trans ?_
  rw [Bool.and_eq_true, bne_iff_ne, bne_iff_ne, and_assoc, valid_iff]

theorem rosterValid_deliverAll :
    (poll.collector.deliverAll votes).rosterValidValue = poll.collector.rosterValidValue := by
  rw [VoteCollector.deliverAll_eq]

theorem Valid.update_iff (valid : poll.Valid) (vote : ParticipantVote) :
    poll.collector.update signed = some (index, vote) ↔
      ∃ choice, vote = choice.vote ∧ poll.Authentic signed index choice := by
  have reads := enrol_reads (poll.subject.text != Str.empty && poll.domain != Str.empty) (rosterEntries poll.members)
  have lookup := (reads.lists valid.sound).lookup_iff valid.sound signed.statement.memberId index signed.signerKey
  rw [getElem?_rosterEntries] at lookup
  unfold VoteCollector.update
  constructor
  · intro updated
    split at updated
    · rename_i passed
      obtain ⟨_, hashed, inDomain, keyFound, signature, sameSubject⟩ := passed
      obtain ⟨position, found, same⟩ := Option.map_eq_some_iff.mp updated
      cases same
      exact ⟨_, rfl, hashed, inDomain, lookup.mp ⟨found, keyFound⟩, signature, sameSubject, rfl⟩
    · cases updated
  · rintro ⟨choice, rfl, hashed, inDomain, member, signature, sameSubject, rfl⟩
    obtain ⟨found, keyFound⟩ := lookup.mpr member
    rw [if_pos ⟨rosterValid_iff.mpr valid, hashed, inDomain, keyFound, signature, sameSubject⟩]
    exact Option.map_eq_some_iff.mpr ⟨index, found, rfl⟩

/-- A vote state contains a choice exactly if that choice of that member was authenticated. -/
theorem Valid.le_vote_iff (valid : poll.Valid) :
    choice.vote ≤ poll.vote votes index ↔ poll.Authenticated votes index choice := by
  rw [Poll.vote, le_joined_iff choice.vote_supPrime]
  constructor
  · rintro ⟨vote, member, below⟩
    obtain ⟨signed, delivered, updated⟩ := mem_filterMap.mp member
    obtain ⟨other, rfl, authentic⟩ := (valid.update_iff vote).mp updated
    rw [VoteChoice.vote_le_iff] at below
    subst below
    exact ⟨signed, delivered, authentic⟩
  · rintro ⟨signed, delivered, authentic⟩
    refine ⟨choice.vote, mem_filterMap.mpr ⟨signed, delivered, ?_⟩, le_refl _⟩
    exact (valid.update_iff _).mpr ⟨choice, rfl, authentic⟩

theorem Valid.isApproval_iff (valid : poll.Valid) (votes : List SignedVote) (index : Nat) :
    (poll.vote votes index).isApproval = true ↔
      poll.Authenticated votes index .approveChoice ∧ ¬ poll.Authenticated votes index .challengeChoice := by
  rw [Quorum.isApproval_iff, valid.le_vote_iff, valid.le_vote_iff]

theorem Valid.isChallenge_iff (valid : poll.Valid) (votes : List SignedVote) (index : Nat) :
    (poll.vote votes index).isChallenge = true ↔ poll.Authenticated votes index .challengeChoice := by
  rw [Quorum.isChallenge_iff, valid.le_vote_iff]

theorem getElem?_votes (inside : index < poll.members.length) :
    (poll.collector.deliverAll votes).votes[index]? = some (poll.vote votes index) := by
  rw [VoteCollector.deliverAll_eq]
  exact getElem?_absorbAll_blank poll.members.length _ index inside

theorem length_votes : (poll.collector.deliverAll votes).votes.length = poll.members.length := by
  rw [VoteCollector.deliverAll_eq]
  simp [collector, VoteCollector.new]

theorem length_approvals (votes : List SignedVote) :
    (poll.evidence votes).approvals.length = poll.members.length := by
  simp [evidence, VoteCollector.evidence, length_votes]

theorem evidence_of_invalid (invalid : ¬ poll.Valid) (votes : List SignedVote) :
    poll.evidence votes = ⟨List.replicate poll.members.length false, true⟩ := by
  have spoiled : poll.collector.rosterValidValue = false := by
    rw [Bool.eq_false_iff, ne_eq, rosterValid_iff]
    exact invalid
  unfold evidence VoteCollector.evidence
  rw [rosterValid_deliverAll, spoiled, challenged_eq]
  simp [length_votes]

theorem Valid.getElem?_approvals (valid : poll.Valid) (index : Nat) (inside : index < poll.members.length) :
    (poll.evidence votes).approvals[index]? = some (poll.vote votes index).isApproval := by
  unfold evidence VoteCollector.evidence
  rw [getElem?_map, getElem?_votes inside, rosterValid_deliverAll, rosterValid_iff.mpr valid]
  simp

theorem Valid.challenged_iff (valid : poll.Valid) (votes : List SignedVote) :
    (poll.evidence votes).challenged = true ↔ ∃ index, poll.Authenticated votes index .challengeChoice := by
  unfold evidence VoteCollector.evidence
  rw [challenged_eq, rosterValid_deliverAll, rosterValid_iff.mpr valid, Bool.not_true, Bool.false_or,
    any_eq_true]
  constructor
  · rintro ⟨vote, member, challenges⟩
    obtain ⟨index, found⟩ := getElem?_of_mem member
    obtain ⟨bound, _⟩ := List.getElem?_eq_some_iff.mp found
    rw [length_votes] at bound
    rw [getElem?_votes bound, Option.some_inj] at found
    subst found
    exact ⟨index, (valid.isChallenge_iff votes index).mp challenges⟩
  · rintro ⟨index, authenticated⟩
    have bound : index < poll.members.length := by
      obtain ⟨signed, _, authentic⟩ := authenticated
      exact authentic.inside
    exact ⟨_, mem_of_getElem? (getElem?_votes bound),
      (valid.isChallenge_iff votes index).mpr authenticated⟩

theorem evidence_congr
    (same : ∀ index choice, poll.Authenticated votes index choice ↔ poll.Authenticated others index choice) :
    poll.evidence votes = poll.evidence others := by
  by_cases valid : poll.Valid
  · have approvals : (poll.evidence votes).approvals = (poll.evidence others).approvals := by
      apply ext_getElem?
      intro index
      by_cases inside : index < poll.members.length
      · rw [valid.getElem?_approvals index inside, valid.getElem?_approvals index inside,
          Option.some_inj, Bool.eq_iff_iff, valid.isApproval_iff, valid.isApproval_iff, same, same]
      · rw [getElem?_eq_none, getElem?_eq_none] <;> rw [length_approvals] <;> omega
    have challenged : (poll.evidence votes).challenged = (poll.evidence others).challenged := by
      rw [Bool.eq_iff_iff, valid.challenged_iff, valid.challenged_iff]
      exact exists_congr fun index => same index _
    calc poll.evidence votes = ⟨(poll.evidence votes).approvals, (poll.evidence votes).challenged⟩ := rfl
      _ = poll.evidence others := by rw [approvals, challenged]
  · rw [evidence_of_invalid valid, evidence_of_invalid valid]

variable (poll)

/-- Evidence is a function of the set of authenticated choices, and a spoiled roster fails closed. -/
theorem evidence_converges_and_fails_closed :
    (∀ votes, (poll.evidence votes).approvals.length = poll.members.length) ∧
    (poll.Valid → ∀ votes,
      (∀ index < poll.members.length, (poll.evidence votes).approvals[index]? = some true ↔
        poll.Authenticated votes index .approveChoice ∧ ¬ poll.Authenticated votes index .challengeChoice) ∧
      ((poll.evidence votes).challenged = true ↔ ∃ index, poll.Authenticated votes index .challengeChoice)) ∧
    (¬ poll.Valid → ∀ votes,
      (∀ approval ∈ (poll.evidence votes).approvals, approval = false) ∧ (poll.evidence votes).challenged = true) ∧
    (∀ votes others,
      (∀ index choice, poll.Authenticated votes index choice ↔ poll.Authenticated others index choice) →
      poll.evidence votes = poll.evidence others) := by
  refine ⟨length_approvals, ?_, ?_, fun votes others same => evidence_congr same⟩
  · intro valid votes
    refine ⟨fun index inside => ?_, valid.challenged_iff votes⟩
    rw [valid.getElem?_approvals index inside, Option.some_inj]
    exact valid.isApproval_iff votes index
  · intro invalid votes
    rw [evidence_of_invalid invalid votes]
    exact ⟨fun approval member => eq_of_mem_replicate member, rfl⟩

end Poll

end ConvergeAudit.Quorum
