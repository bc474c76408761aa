import ConvergeAudit.Inventory.Model

/-!
What the index is for, without plans and checkpoints: assets are created once and then handed on, each transfer by the
current owner and at the current version.
-/

namespace ConvergeAudit.Inventory
open Moon Bft Market Replay List

inductive LedgerEvent where
  | created (receipt : ItemReceipt)
  | transferred (transfer : AssetTransfer)

abbrev Ledger := Str → Option AssetRecord

namespace Ledger

def empty : Ledger := fun _ => none

def after (hasher : Hasher) (ledger : Ledger) : LedgerEvent → Ledger
  | .created receipt => Function.update ledger receipt.assetId (some (createRecord hasher receipt))
  | .transferred transfer =>
    Function.update ledger transfer.assetId ((ledger transfer.assetId).map (transferRecord hasher · transfer))

def Admits (ledger : Ledger) : LedgerEvent → Prop
  | .created receipt => ledger receipt.assetId = none
  | .transferred transfer =>
    ∃ current, ledger transfer.assetId = some current ∧ current.ownerId = transfer.fromOwner ∧
      current.version = transfer.expectedVersion ∧ transfer.toOwner ≠ Str.empty ∧ transfer.fromOwner ≠ transfer.toOwner

def play (hasher : Hasher) (ledger : Ledger) (events : List LedgerEvent) : Ledger := events.foldl (after hasher) ledger

def Admissible (hasher : Hasher) : Ledger → List LedgerEvent → Prop
  | _, [] => True
  | ledger, event :: rest => ledger.Admits event ∧ Admissible hasher (ledger.after hasher event) rest

theorem play_append (hasher : Hasher) (ledger : Ledger) (early late : List LedgerEvent) :
    ledger.play hasher (early ++ late) = (ledger.play hasher early).play hasher late := foldl_append

theorem admissible_append (hasher : Hasher) (ledger : Ledger) (early late : List LedgerEvent) :
    Admissible hasher ledger (early ++ late) ↔
      Admissible hasher ledger early ∧ Admissible hasher (ledger.play hasher early) late := by
  induction early generalizing ledger with
  | nil => simp [Admissible, play]
  | cons event rest ih => simp only [cons_append, Admissible, ih, play, foldl_cons, and_assoc]

/-- The rule for invariants of a ledger: what the empty ledger has and every admitted event keeps. -/
theorem admissible_induction {P : List LedgerEvent → Ledger → Prop} (start : P [] empty)
    (step : ∀ events ledger event, P events ledger → ledger.Admits event →
      P (events ++ [event]) (ledger.after hasher event)) (admissible : Admissible hasher empty events) :
    P events (empty.play hasher events) := by
  induction events using List.reverseRecOn with
  | nil => exact start
  | append_singleton events event ih =>
    rw [admissible_append] at admissible
    have here := ih admissible.1
    rw [play_append]
    exact step events _ event here admissible.2.1

end Ledger

namespace LedgerEvent

def creation? : LedgerEvent → Option ItemReceipt
  | created receipt => some receipt
  | transferred _ => none

def transfer? : LedgerEvent → Option AssetTransfer
  | created _ => none
  | transferred transfer => some transfer

def creationsOf (assetId : Str) (events : List LedgerEvent) : List ItemReceipt :=
  (events.filterMap creation?).filter (·.assetId = assetId)

def transfersOf (assetId : Str) (events : List LedgerEvent) : List AssetTransfer :=
  (events.filterMap transfer?).filter (·.assetId = assetId)

theorem creationsOf_append :
    creationsOf assetId (early ++ late) = creationsOf assetId early ++ creationsOf assetId late := by
  simp [creationsOf, filterMap_append]

theorem transfersOf_append :
    transfersOf assetId (early ++ late) = transfersOf assetId early ++ transfersOf assetId late := by
  simp [transfersOf, filterMap_append]

theorem creationsOf_created :
    creationsOf assetId [created receipt] = if receipt.assetId = assetId then [receipt] else [] := by
  by_cases same : receipt.assetId = assetId <;> simp [creationsOf, creation?, same]

theorem transfersOf_transferred :
    transfersOf assetId [transferred transfer] = if transfer.assetId = assetId then [transfer] else [] := by
  by_cases same : transfer.assetId = assetId <;> simp [transfersOf, transfer?, same]

end LedgerEvent

namespace Ledger
open LedgerEvent

/-- An asset is unknown and nothing has happened to it, or it was created once and its record is the fold of its
transfers from there. -/
def Accounted (hasher : Hasher) (events : List LedgerEvent) (ledger : Ledger) (assetId : Str) : Prop :=
  (creationsOf assetId events = [] ∧ transfersOf assetId events = [] ∧ ledger assetId = none) ∨
    ∃ receipt, creationsOf assetId events = [receipt] ∧ receipt.assetId = assetId ∧
      ledger assetId = some ((transfersOf assetId events).foldl (transferRecord hasher) (createRecord hasher receipt))

theorem accounted (admissible : Admissible hasher empty events) (assetId : Str) :
    Accounted hasher events (empty.play hasher events) assetId := by
  refine admissible_induction (P := fun events ledger => Accounted hasher events ledger assetId)
    (Or.inl ⟨rfl, rfl, rfl⟩) ?_ admissible
  intro events ledger event holds admits
  unfold Accounted at holds ⊢
  rw [creationsOf_append, transfersOf_append]
  cases event with
  | created receipt =>
    have noTransfer : transfersOf assetId [created receipt] = [] := rfl
    rw [creationsOf_created, noTransfer, append_nil]
    by_cases same : receipt.assetId = assetId
    · have unknown : ledger assetId = none := by
        rw [← same]
        exact admits
      rcases holds with ⟨none_created, none_transferred, _⟩ | ⟨_, _, _, known⟩
      · refine Or.inr ⟨receipt, by rw [none_created, if_pos same]; rfl, same, ?_⟩
        rw [none_transferred]
        simp [after, same]
      · rw [unknown] at known
        cases known
    · have other : (ledger.after hasher (created receipt)) assetId = ledger assetId :=
        Function.update_of_ne (Ne.symm same) _ _
      rw [if_neg same, append_nil, other]
      exact holds
  | transferred transfer =>
    have noCreation : creationsOf assetId [transferred transfer] = [] := rfl
    rw [transfersOf_transferred, noCreation, append_nil]
    by_cases same : transfer.assetId = assetId
    · obtain ⟨current, known, _⟩ := admits
      rw [same] at known
      rcases holds with ⟨_, _, unknown⟩ | ⟨receipt, created_once, named, record⟩
      · rw [unknown] at known
        cases known
      · refine Or.inr ⟨receipt, created_once, named, ?_⟩
        simp [after, same, record]
    · have other : (ledger.after hasher (transferred transfer)) assetId = ledger assetId :=
        Function.update_of_ne (Ne.symm same) _ _
      rw [if_neg same, append_nil, other]
      exact holds

/-- What no transfer changes. -/
def SameItem (record other : AssetRecord) : Prop :=
  other.assetId = record.assetId ∧ other.itemType = record.itemType ∧ other.quantity = record.quantity ∧
    other.originSourceEvent = record.originSourceEvent ∧ other.originOutputIndex = record.originOutputIndex ∧
    other.originReceiptDigest = record.originReceiptDigest

theorem version_foldl_transferRecord (transfers : List AssetTransfer) (record : AssetRecord) :
    (transfers.foldl (transferRecord hasher) record).version = record.version + transfers.length := by
  induction transfers generalizing record with
  | nil => simp
  | cons transfer rest ih =>
    rw [foldl_cons, ih]
    simp only [transferRecord, length_cons]
    omega

theorem SameItem.trans {record next final : AssetRecord} (first : SameItem record next) (second : SameItem next final) :
    SameItem record final := by
  simp_all [SameItem]

theorem play_sameItem (admissible : Admissible hasher ledger events) (known : ledger assetId = some record) :
    ∃ later, ledger.play hasher events assetId = some later ∧ SameItem record later := by
  induction events generalizing ledger record with
  | nil => exact ⟨record, known, rfl, rfl, rfl, rfl, rfl, rfl⟩
  | cons event rest ih =>
    obtain ⟨admits, later⟩ := admissible
    have kept : ∃ next, ledger.after hasher event assetId = some next ∧ SameItem record next := by
      cases event with
      | created receipt =>
        have different : assetId ≠ receipt.assetId := by
          intro same
          rw [same, show ledger receipt.assetId = none from admits] at known
          cases known
        exact ⟨record, (Function.update_of_ne different _ _).trans known, rfl, rfl, rfl, rfl, rfl, rfl⟩
      | transferred transfer =>
        by_cases same : assetId = transfer.assetId
        · refine ⟨transferRecord hasher record transfer, ?_, rfl, rfl, rfl, rfl, rfl, rfl⟩
          subst same
          simp [after, known]
        · exact ⟨record, (Function.update_of_ne same _ _).trans known, rfl, rfl, rfl, rfl, rfl, rfl⟩
    obtain ⟨next, nextKnown, sameNext⟩ := kept
    obtain ⟨final, finalKnown, sameFinal⟩ := ih later nextKnown
    exact ⟨final, finalKnown, sameNext.trans sameFinal⟩

/-- A version of an asset is transferred at most once: transfers are made at versions below the current one, and the next
one is made at the current one. -/
theorem transfers_nodup (admissible : Admissible hasher empty events) :
    ((events.filterMap transfer?).map fun transfer => (transfer.assetId, transfer.expectedVersion)).Nodup := by
  refine (admissible_induction (P := fun events ledger =>
    (∀ transfer ∈ events.filterMap transfer?, ∃ record, ledger transfer.assetId = some record ∧
      transfer.expectedVersion < record.version) ∧
    ((events.filterMap transfer?).map fun transfer => (transfer.assetId, transfer.expectedVersion)).Nodup)
    ⟨by simp, by simp⟩ ?_ admissible).2
  rintro events ledger event ⟨below, distinct⟩ admits
  rw [filterMap_append]
  cases event with
  | created receipt =>
    have nothing : [created receipt].filterMap transfer? = [] := rfl
    rw [nothing, append_nil]
    refine ⟨?_, distinct⟩
    intro transfer member
    obtain ⟨record, known, lower⟩ := below transfer member
    have different : transfer.assetId ≠ receipt.assetId := by
      intro same
      rw [same, show ledger receipt.assetId = none from admits] at known
      cases known
    exact ⟨record, (Function.update_of_ne different _ _).trans known, lower⟩
  | transferred new =>
    have one : [transferred new].filterMap transfer? = [new] := rfl
    obtain ⟨current, known, _, version, _⟩ := admits
    constructor
    · intro transfer member
      by_cases same : transfer.assetId = new.assetId
      · refine ⟨transferRecord hasher current new, by simp [after, same, known], ?_⟩
        simp only [transferRecord]
        rcases mem_append.mp member with member | member
        · obtain ⟨record, knownThen, lower⟩ := below transfer member
          rw [same, known, Option.some.injEq] at knownThen
          subst knownThen
          omega
        · rw [mem_singleton.mp member, ← version]
          omega
      · rcases mem_append.mp member with member | member
        · obtain ⟨record, knownThen, lower⟩ := below transfer member
          exact ⟨record, (Function.update_of_ne same _ _).trans knownThen, lower⟩
        · exact absurd (congrArg _ (mem_singleton.mp member)) same
    · refine Lib.nodup_map_concat distinct fun transfer earlier samePair => ?_
      obtain ⟨sameAsset, sameVersion⟩ := Prod.mk.inj samePair
      obtain ⟨record, knownThen, lower⟩ := below transfer earlier
      rw [sameAsset, known, Option.some.injEq] at knownThen
      subst knownThen
      omega

end Ledger

end ConvergeAudit.Inventory
