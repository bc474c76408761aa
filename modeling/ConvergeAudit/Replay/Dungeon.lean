import ConvergeAudit.Bft.Types
import ConvergeAudit.Lib.Claims
import ConvergeAudit.Moon.Arithmetic
import ConvergeAudit.Moon.Fields
import ConvergeAudit.Moon.Scan
import ConvergeAudit.Moon.Sort

/-!
`replay/dungeon.mbt` and the decisions of `audit/telegraph_dodge.mbt`. A player with two different valid dodges is an
equivocator, who is hit on the old position.
-/

namespace ConvergeAudit.Replay
open Moon Bft Lib List

structure TelegraphDungeonConfig where
  minReactionTicks : ℤ
  maxBackdateTicks : ℤ
  maxDodgeDistance : ℤ
  arenaMinX : ℤ
  arenaMaxX : ℤ
  lootItemType : Str

structure DungeonPlayer where
  playerId : Str
  publicKey : PublicKey
  initialX : ℤ

structure TelegraphedAttack where
  attackId : Str
  visibleTick : ℤ
  resolveTick : ℤ
  centerX : ℤ
  radius : ℤ

structure DodgeIntent where
  attackId : Str
  playerId : Str
  telegraphDigest : Digest
  clientTick : ℤ
  toX : ℤ

structure DodgeReceipt where
  inputDigest : Digest
  receivedTick : ℤ

structure DodgeEvidence where
  input : AuthenticatedEvent
  receipt : AuthenticatedEvent
  intent : DodgeIntent
  observed : DodgeReceipt

def dungeonTelegraphTable : Str := "converge.dungeon.telegraph.v1"

def dungeonDodgeTable : Str := "converge.dungeon.dodge.v1"

def dungeonReceiptTable : Str := "converge.dungeon.receipt.v1"

def serializeTelegraphedAttack (attack : TelegraphedAttack) : Str :=
  [lit "telegraphed-attack-v1", attack.attackId, Str.ofInt attack.visibleTick, Str.ofInt attack.resolveTick,
    Str.ofInt attack.centerX, Str.ofInt attack.radius].foldl appendField Str.empty

def serializeDodgeIntent (intent : DodgeIntent) : Str :=
  [lit "dodge-intent-v1", intent.attackId, intent.playerId, intent.telegraphDigest.text, Str.ofInt intent.clientTick,
    Str.ofInt intent.toX].foldl appendField Str.empty

def serializeDodgeReceipt (receipt : DodgeReceipt) : Str :=
  [lit "dodge-receipt-v1", receipt.inputDigest.text, Str.ofInt receipt.receivedTick].foldl appendField Str.empty

section
variable (peer : PeerId) (counter lamport : ℤ) (deps : List EventId)

def makeDungeonTelegraphEvent (attack : TelegraphedAttack) :
    Event where
  id := ⟨peer, counter⟩
  deps := deps
  lamport := lamport
  op := .insert dungeonTelegraphTable attack.attackId [(lit "attack", .str (serializeTelegraphedAttack attack))]

def makeDungeonDodgeEvent (intent : DodgeIntent) : Event where
  id := ⟨peer, counter⟩
  deps := deps
  lamport := lamport
  op := .insert dungeonDodgeTable (intent.attackId ++ lit ":" ++ intent.playerId)
    [(lit "intent", .str (serializeDodgeIntent intent))]

def makeDungeonReceiptEvent (receipt : DodgeReceipt) :
    Event where
  id := ⟨peer, counter⟩
  deps := deps
  lamport := lamport
  op := .insert dungeonReceiptTable receipt.inputDigest.text [(lit "receipt", .str (serializeDodgeReceipt receipt))]

end

theorem serializeDodgeIntent_injective : Function.Injective serializeDodgeIntent := by
  intro intent other same
  have values := foldl_appendField_inj same
  cases intent
  cases other
  simp only [List.cons.injEq, Str.ofInt_inj, Digest.text_inj, true_and, and_true] at values
  obtain ⟨rfl, rfl, rfl, rfl, rfl⟩ := values
  rfl

section
variable (arith : Arithmetic) (sessionId : Str) (authorityKey : PublicKey) (config : TelegraphDungeonConfig)

def telegraphDodgeAllowed (telegraphValid playerEvidenceValid causallyBound reactionWindow receiptBound
    movementLegal : Bool) : Bool :=
  telegraphValid && playerEvidenceValid && causallyBound && reactionWindow && receiptBound && movementLegal

def dodgeReactionWindowAllowed (visibleTick resolveTick minReactionTicks clientTick : ℤ) : Bool :=
  minReactionTicks ≥ 0 && clientTick ≥ arith.add visibleTick minReactionTicks && clientTick < resolveTick

def dodgeReceiptBoundAllowed (clientTick receivedTick maxBackdateTicks : ℤ) : Bool :=
  maxBackdateTicks ≥ 0 && receivedTick ≥ clientTick && arith.sub receivedTick clientTick ≤ maxBackdateTicks

def validConfig : Bool :=
  config.minReactionTicks ≥ 0 && config.maxBackdateTicks ≥ 0 && config.maxDodgeDistance ≥ 0 &&
    config.arenaMinX ≤ config.arenaMaxX && config.lootItemType != Str.empty

def dungeonPlayerValid (player : DungeonPlayer) : Bool :=
  !(player.playerId == Str.empty || player.publicKey.text == Str.empty || player.initialX < config.arenaMinX ||
    player.initialX > config.arenaMaxX)

def rosterMap (players : List DungeonPlayer) : Option (Map Str DungeonPlayer) :=
  if players.length = 0 then none
  else collectRoster (·.playerId) (·.publicKey.text) (dungeonPlayerValid config) Map.empty Map.empty players

def validAttack (attack : TelegraphedAttack) : Bool :=
  attack.attackId != Str.empty && attack.visibleTick ≥ 0 &&
    attack.resolveTick > arith.add attack.visibleTick config.minReactionTicks &&
    attack.centerX ≥ config.arenaMinX && attack.centerX ≤ config.arenaMaxX && attack.radius ≥ 0

/-- An insert of one row with one field, and nothing else. -/
def exactInsert (source : AuthenticatedEvent) (table rowId field payload : Str) : Bool :=
  if source.event.id.counter < 0 || source.event.lamport < 0 then false
  else
    match source.event.op with
    | .insert tbl actualRowId values =>
      tbl == table && actualRowId == rowId && values == [(field, .str payload)]
    | _ => false

def oneDependency (source : AuthenticatedEvent) (expected : EventId) : Bool :=
  source.event.deps == [expected]

def telegraphSourceValid (source : AuthenticatedEvent) (attack : TelegraphedAttack) : Bool :=
  source.sessionId == sessionId && source.authorKey == authorityKey &&
    exactInsert source dungeonTelegraphTable attack.attackId "attack" (serializeTelegraphedAttack attack)

def distance (a b : ℤ) : ℤ := if a ≥ b then arith.sub a b else arith.sub b a

def dodgeEvidenceValid (player : DungeonPlayer) (telegraphSource : AuthenticatedEvent) (attack : TelegraphedAttack)
    (evidence : DodgeEvidence) : Bool :=
  let intent := evidence.intent
  let observed := evidence.observed
  let input := evidence.input
  let receipt := evidence.receipt
  let playerEvidenceValid := intent.attackId == attack.attackId && intent.playerId == player.playerId &&
    input.sessionId == sessionId && input.authorKey == player.publicKey && input.event.id.peer.text == player.playerId &&
    exactInsert input dungeonDodgeTable (intent.attackId ++ lit ":" ++ intent.playerId) "intent"
      (serializeDodgeIntent intent) &&
    receipt.sessionId == sessionId && receipt.authorKey == authorityKey && observed.inputDigest == input.digest &&
    exactInsert receipt dungeonReceiptTable input.digest.text "receipt" (serializeDodgeReceipt observed)
  let causallyBound := intent.telegraphDigest == telegraphSource.digest &&
    oneDependency input telegraphSource.event.id && oneDependency receipt input.event.id
  let reactionWindow := dodgeReactionWindowAllowed arith attack.visibleTick attack.resolveTick config.minReactionTicks
    intent.clientTick
  let receiptBound := dodgeReceiptBoundAllowed arith intent.clientTick observed.receivedTick config.maxBackdateTicks
  let movementLegal := intent.toX ≥ config.arenaMinX && intent.toX ≤ config.arenaMaxX &&
    distance arith intent.toX player.initialX ≤ config.maxDodgeDistance
  telegraphDodgeAllowed true playerEvidenceValid causallyBound reactionWindow receiptBound movementLegal

/-- A digest names one event. -/
def DigestsFaithful (events : List AuthenticatedEvent) : Prop :=
  ∀ a ∈ events, ∀ b ∈ events, a.digest = b.digest → a = b

instance (events : List AuthenticatedEvent) : Decidable (DigestsFaithful events) :=
  inferInstanceAs (Decidable (∀ a ∈ events, ∀ b ∈ events, a.digest = b.digest → a = b))

end

theorem exactInsert_op {field : Str} (exact : exactInsert source table rowId field payload = true) :
    source.event.op = .insert table rowId [(field, .str payload)] := by
  unfold exactInsert at exact
  split at exact
  · cases exact
  · split at exact
    · rename_i tbl actualRowId values written
      simp only [Bool.and_eq_true, beq_iff_eq] at exact
      obtain ⟨⟨rfl, rfl⟩, rfl⟩ := exact
      exact written
    · cases exact

theorem exactInsert_payload {field : Str} (exact : exactInsert source table rowId field payload = true)
    (exact' : exactInsert source table' rowId' field' payload' = true) : payload = payload' := by
  have written := (exactInsert_op exact).symm.trans (exactInsert_op exact')
  simp only [RowOp.insert.injEq, List.cons.injEq, Prod.mk.injEq, Value.str.injEq] at written
  exact written.2.2.1.2

theorem dodgeEvidenceValid_author
    (valid : dodgeEvidenceValid arith sessionId authorityKey config player telegraphSource attack evidence = true) :
    evidence.intent.playerId = player.playerId ∧
      exactInsert evidence.input dungeonDodgeTable (evidence.intent.attackId ++ lit ":" ++ evidence.intent.playerId)
        "intent" (serializeDodgeIntent evidence.intent) = true := by
  simp only [dodgeEvidenceValid, telegraphDodgeAllowed, Bool.and_eq_true, beq_iff_eq] at valid
  grind

section
variable [StrOrder]

def sortedPlayers (players : List DungeonPlayer) : List DungeonPlayer :=
  sortBy (fun a b => compare b.playerId a.playerId) players

def dungeonPlayerFields (player : DungeonPlayer) : List Str :=
  [player.playerId, player.publicKey.text, Str.ofInt player.initialX]

def telegraphDungeonManifest (hasher : Hasher) (authorityKey : PublicKey) (config : TelegraphDungeonConfig)
    (players : List DungeonPlayer) : Digest :=
  let sorted := sortedPlayers players
  hasher.hashString
    (([lit "telegraph-dungeon-kernel-v1", authorityKey.text, Str.ofInt config.minReactionTicks,
      Str.ofInt config.maxBackdateTicks, Str.ofInt config.maxDodgeDistance, Str.ofInt config.arenaMinX,
      Str.ofInt config.arenaMaxX, config.lootItemType, Str.ofInt sorted.length] ++
      sorted.flatMap dungeonPlayerFields).foldl appendField Str.empty)

end

structure DodgeTable where
  accepted : Map Str DodgeIntent
  acceptedDigests : Map Str Digest
  equivocators : Map Str Bool

namespace DodgeTable

def empty : DodgeTable := ⟨Map.empty, Map.empty, Map.empty⟩

def offer (table : DodgeTable) (evidence : DodgeEvidence) : DodgeTable :=
  let playerId := evidence.intent.playerId
  if table.equivocators.contains playerId then table
  else
    match table.acceptedDigests.get playerId with
    | none =>
      { table with
        accepted := table.accepted.set playerId evidence.intent
        acceptedDigests := table.acceptedDigests.set playerId evidence.input.digest }
    | some existing =>
      if existing ≠ evidence.input.digest then
        { accepted := table.accepted.remove playerId
          acceptedDigests := table.acceptedDigests.remove playerId
          equivocators := table.equivocators.set playerId true }
      else table

end DodgeTable

section
variable (arith : Arithmetic) (sessionId : Str) (authorityKey : PublicKey) (config : TelegraphDungeonConfig)
  (playersById : Map Str DungeonPlayer) (telegraphSource : AuthenticatedEvent) (attack : TelegraphedAttack)

/-- What the loop over the evidence asks before it uses an item. -/
def dodgeAdmitted (evidence : DodgeEvidence) : Bool :=
  match playersById.get evidence.intent.playerId with
  | none => false
  | some player => dodgeEvidenceValid arith sessionId authorityKey config player telegraphSource attack evidence

def dodgeTable (dodgeEvidence : List DodgeEvidence) : DodgeTable :=
  dodgeEvidence.foldl
    (fun table evidence =>
      if dodgeAdmitted arith sessionId authorityKey config playersById telegraphSource attack evidence then
        table.offer evidence
      else table)
    DodgeTable.empty

structure DungeonAttackStep where
  positions : Map Str ℤ
  hit : List Str
  equivocators : List Str
  acceptedDodges : ℤ

def resolvePlayer (table : DodgeTable) (step : DungeonAttackStep) (player : DungeonPlayer) : DungeonAttackStep :=
  if table.equivocators.contains player.playerId then
    { step with
      equivocators := step.equivocators ++ [player.playerId]
      positions := step.positions.set player.playerId player.initialX
      hit := step.hit ++ [player.playerId] }
  else
    let position := match table.accepted.get player.playerId with
      | some intent => intent.toX
      | none => player.initialX
    { step with
      positions := step.positions.set player.playerId position
      hit := if distance arith position attack.centerX ≤ attack.radius then step.hit ++ [player.playerId] else step.hit }

/-- `players` are the ones still alive, each with the position before this attack. -/
def replayAttackStep [StrOrder] (arith : Arithmetic) (sessionId : Str) (authorityKey : PublicKey)
    (config : TelegraphDungeonConfig) (playersById : Map Str DungeonPlayer) (players : List DungeonPlayer)
    (telegraphSource : AuthenticatedEvent) (attack : TelegraphedAttack) (dodgeEvidence : List DodgeEvidence) :
    DungeonAttackStep :=
  let table := dodgeTable arith sessionId authorityKey config playersById telegraphSource attack dodgeEvidence
  (sortedPlayers players).foldl (resolvePlayer arith attack table) ⟨Map.empty, [], [], table.accepted.length⟩

/-- Two pieces of evidence of one player hold different inputs. -/
def Equivocated (admitted : List DodgeEvidence) (id : Str) : Prop :=
  Claims.Contested (·.intent.playerId) (·.input.digest) admitted id

def firstDodge (admitted : List DodgeEvidence) (id : Str) : Option DodgeEvidence :=
  Claims.first (·.intent.playerId) admitted id

end

theorem equivocated_concat {id : Str} :
    Equivocated (admitted ++ [evidence]) id ↔ Equivocated admitted id ∨ evidence.intent.playerId = id ∧
      ∃ earlier, firstDodge admitted id = some earlier ∧ earlier.input.digest ≠ evidence.input.digest :=
  Claims.contested_concat

theorem firstDodge_concat (id : Str) :
    firstDodge (admitted ++ [evidence]) id =
      (firstDodge admitted id).or (if evidence.intent.playerId = id then some evidence else none) :=
  Claims.first_concat _ _ _

namespace DodgeTable

/-- What the table says of one player after some admitted evidence. -/
structure Tells (table : DodgeTable) (admitted : List DodgeEvidence) (id : Str) : Prop where
  equivocators_iff : table.equivocators.contains id = true ↔ Equivocated admitted id
  uncontested : ¬ Equivocated admitted id →
    table.accepted.get id = (firstDodge admitted id).map (·.intent) ∧
      table.acceptedDigests.get id = (firstDodge admitted id).map (·.input.digest)
  contested : Equivocated admitted id → table.accepted.get id = none ∧ table.acceptedDigests.get id = none

theorem tells_empty (id : Str) : DodgeTable.empty.Tells [] id where
  equivocators_iff := by
    simp only [DodgeTable.empty, Map.contains, Map.get_empty, Option.isSome_none, Bool.false_eq_true, false_iff]
    exact Claims.not_contested_nil id
  uncontested _ := ⟨rfl, rfl⟩
  contested contested := absurd contested (Claims.not_contested_nil id)

variable {table : DodgeTable} {id : Str}

theorem offer_other (table : DodgeTable) (other : id ≠ evidence.intent.playerId) :
    (table.offer evidence).equivocators.contains id = table.equivocators.contains id ∧
      (table.offer evidence).accepted.get id = table.accepted.get id ∧
        (table.offer evidence).acceptedDigests.get id = table.acceptedDigests.get id := by
  unfold offer
  dsimp only
  split
  · exact ⟨rfl, rfl, rfl⟩
  · split
    · exact ⟨rfl, Map.get_set_other _ _ other, Map.get_set_other _ _ other⟩
    · split
      · rw [Map.get_remove, Map.get_remove, Map.contains_set, if_neg other, if_neg other, decide_eq_false other,
          Bool.false_or]
        exact ⟨rfl, rfl, rfl⟩
      · exact ⟨rfl, rfl, rfl⟩

theorem Tells.offer_other (tells : table.Tells admitted id) (other : id ≠ evidence.intent.playerId) :
    (table.offer evidence).Tells (admitted ++ [evidence]) id := by
  obtain ⟨marks, intents, digests⟩ := DodgeTable.offer_other table other
  have equivocated : Equivocated (admitted ++ [evidence]) id ↔ Equivocated admitted id := by
    rw [equivocated_concat, or_iff_left]
    exact fun here => other here.1.symm
  have first : firstDodge (admitted ++ [evidence]) id = firstDodge admitted id := by
    rw [firstDodge_concat, if_neg (Ne.symm other), Option.or_none]
  constructor
  · rw [marks, equivocated, tells.equivocators_iff]
  · rw [intents, digests, equivocated, first]
    exact tells.uncontested
  · rw [intents, digests, equivocated]
    exact tells.contested

theorem Tells.offer_own (tells : table.Tells admitted evidence.intent.playerId) :
    (table.offer evidence).Tells (admitted ++ [evidence]) evidence.intent.playerId := by
  unfold DodgeTable.offer
  by_cases equivocated : Equivocated admitted evidence.intent.playerId
  · rw [if_pos (tells.equivocators_iff.mpr equivocated)]
    have stays : Equivocated (admitted ++ [evidence]) evidence.intent.playerId := equivocated_concat.mpr (.inl equivocated)
    exact ⟨iff_of_true (tells.equivocators_iff.mpr equivocated) stays, fun calm => absurd stays calm,
      fun _ => tells.contested equivocated⟩
  · have unmarked : ¬ table.equivocators.contains evidence.intent.playerId = true :=
      fun marked => equivocated (tells.equivocators_iff.mp marked)
    rw [if_neg unmarked]
    obtain ⟨intents, digests⟩ := tells.uncontested equivocated
    cases before : firstDodge admitted evidence.intent.playerId with
    | none =>
      rw [before, Option.map_none] at digests
      rw [digests]
      have calm : ¬ Equivocated (admitted ++ [evidence]) evidence.intent.playerId := by
        rw [equivocated_concat, before]
        rintro (old | ⟨_, earlier, found, _⟩)
        · exact equivocated old
        · cases found
      refine ⟨iff_of_false unmarked calm, fun _ => ?_, fun caught => absurd caught calm⟩
      rw [firstDodge_concat, before]
      simp
    | some earlier =>
      rw [before, Option.map_some] at digests intents
      rw [digests]
      dsimp only
      by_cases repeated : earlier.input.digest = evidence.input.digest
      · rw [if_neg (not_not.mpr repeated)]
        have calm : ¬ Equivocated (admitted ++ [evidence]) evidence.intent.playerId := by
          rw [equivocated_concat, before]
          rintro (old | ⟨_, found, same, different⟩)
          · exact equivocated old
          · exact different (Option.some.inj same ▸ repeated)
        refine ⟨iff_of_false unmarked calm, fun _ => ?_, fun caught => absurd caught calm⟩
        rw [firstDodge_concat, before]
        exact ⟨intents, digests⟩
      · rw [if_pos repeated]
        have caught : Equivocated (admitted ++ [evidence]) evidence.intent.playerId :=
          equivocated_concat.mpr (.inr ⟨rfl, earlier, before, repeated⟩)
        refine ⟨iff_of_true (by simp [Map.contains]) caught, fun calm => absurd caught calm, fun _ => ?_⟩
        rw [Map.get_remove, Map.get_remove, if_pos rfl, if_pos rfl]
        exact ⟨rfl, rfl⟩

theorem accepted_distinct_offer (distinct : table.accepted.Distinct) : (table.offer evidence).accepted.Distinct := by
  unfold offer
  dsimp only
  split
  · exact distinct
  · split
    · exact distinct.set _ _
    · split
      · exact distinct.remove _
      · exact distinct

end DodgeTable

section
variable (arith : Arithmetic) (sessionId : Str) (authorityKey : PublicKey) (config : TelegraphDungeonConfig)
  (playersById : Map Str DungeonPlayer) (telegraphSource : AuthenticatedEvent) (attack : TelegraphedAttack)
  (dodgeEvidence : List DodgeEvidence)

def admittedDodges : List DodgeEvidence :=
  dodgeEvidence.filter (dodgeAdmitted arith sessionId authorityKey config playersById telegraphSource attack)

/-- The run lemma: the table after the loop. -/
theorem dodgeTable_tells (id : Str) :
    (dodgeTable arith sessionId authorityKey config playersById telegraphSource attack dodgeEvidence).Tells
      (admittedDodges arith sessionId authorityKey config playersById telegraphSource attack dodgeEvidence) id := by
  unfold dodgeTable admittedDodges
  rw [← foldl_filter]
  generalize dodgeEvidence.filter _ = admitted
  induction admitted using List.reverseRecOn with
  | nil => exact DodgeTable.tells_empty id
  | append_singleton admitted evidence ih =>
    rw [foldl_append, foldl_cons, foldl_nil]
    by_cases own : id = evidence.intent.playerId
    · subst own
      exact ih.offer_own
    · exact ih.offer_other own

theorem dodgeTable_accepted_distinct :
    (dodgeTable arith sessionId authorityKey config playersById telegraphSource attack
      dodgeEvidence).accepted.Distinct := by
  unfold dodgeTable
  rw [← foldl_filter]
  generalize dodgeEvidence.filter _ = admitted
  induction admitted using List.reverseRecOn with
  | nil => exact Map.distinct_empty
  | append_singleton admitted evidence ih =>
    rw [foldl_append, foldl_cons, foldl_nil]
    exact DodgeTable.accepted_distinct_offer ih

end

def landing (table : DodgeTable) (player : DungeonPlayer) : ℤ :=
  if table.equivocators.contains player.playerId then player.initialX
  else match table.accepted.get player.playerId with
    | some intent => intent.toX
    | none => player.initialX

def struck (arith : Arithmetic) (attack : TelegraphedAttack) (table : DodgeTable) (player : DungeonPlayer) : Bool :=
  table.equivocators.contains player.playerId || distance arith (landing table player) attack.centerX ≤ attack.radius

theorem resolvePlayer_eq :
    resolvePlayer arith attack table step player =
      { positions := step.positions.set player.playerId (landing table player)
        hit := step.hit ++ if struck arith attack table player then [player.playerId] else []
        equivocators := step.equivocators ++
          if table.equivocators.contains player.playerId then [player.playerId] else []
        acceptedDodges := step.acceptedDodges } := by
  unfold resolvePlayer struck landing
  by_cases equivocated : table.equivocators.contains player.playerId = true
  · simp [equivocated]
  · simp only [equivocated, Bool.false_eq_true, if_false, Bool.false_or, decide_eq_true_eq, append_nil]
    split <;> split <;> simp

theorem foldl_resolvePlayer (players : List DungeonPlayer) (step : DungeonAttackStep) :
    players.foldl (resolvePlayer arith attack table) step =
      { positions := players.foldl (fun m player => m.set player.playerId (landing table player)) step.positions
        hit := step.hit ++ (players.filter (struck arith attack table)).map (·.playerId)
        equivocators := step.equivocators ++
          (players.filter fun player => table.equivocators.contains player.playerId).map (·.playerId)
        acceptedDodges := step.acceptedDodges } := by
  induction players generalizing step with
  | nil => simp
  | cons player rest ih =>
    rw [foldl_cons, ih, resolvePlayer_eq, foldl_cons]
    by_cases marked : table.equivocators.contains player.playerId = true <;>
      by_cases inside : struck arith attack table player = true <;> simp [marked, inside]

section
variable [StrOrder]

theorem sortedPlayers_perm (players : List DungeonPlayer) : (sortedPlayers players).Perm players := sortBy_perm _ _

theorem sortedPlayers_eq_of_perm (perm : players.Perm others) (distinct : (players.map (·.playerId)).Nodup) :
    sortedPlayers players = sortedPlayers others :=
  sortBy_desc_eq_of_perm DungeonPlayer.playerId perm distinct

theorem replayAttackStep_resolved (players : List DungeonPlayer) (telegraphSource : AuthenticatedEvent)
    (attack : TelegraphedAttack) (dodgeEvidence : List DodgeEvidence) :
    let table := dodgeTable arith sessionId authorityKey config playersById telegraphSource attack dodgeEvidence
    replayAttackStep arith sessionId authorityKey config playersById players telegraphSource attack dodgeEvidence =
      { positions := (sortedPlayers players).foldl (fun m player => m.set player.playerId (landing table player)) Map.empty
        hit := ((sortedPlayers players).filter (struck arith attack table)).map (·.playerId)
        equivocators := ((sortedPlayers players).filter
          fun player => table.equivocators.contains player.playerId).map (·.playerId)
        acceptedDodges := table.accepted.length } := by
  unfold replayAttackStep
  rw [foldl_resolvePlayer, nil_append, nil_append]

end

end ConvergeAudit.Replay
