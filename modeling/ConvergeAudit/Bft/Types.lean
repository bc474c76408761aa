import ConvergeAudit.Moon.Text

/-! Events, digests and delivery results, as `types.mbt` and `converge/types` declare them. -/

namespace ConvergeAudit.Bft
open Moon

structure Digest where
  text : Str
  deriving DecidableEq, Inhabited

theorem Digest.text_injective : Function.Injective Digest.text := fun ⟨_⟩ ⟨_⟩ same => congrArg Digest.mk same

theorem Digest.text_inj {a b : Digest} : a.text = b.text ↔ a = b := Digest.text_injective.eq_iff

structure Signature where
  text : Str
  deriving DecidableEq, Inhabited

structure PublicKey where
  text : Str
  deriving DecidableEq, Inhabited

structure PeerId where
  text : Str
  deriving DecidableEq, Inhabited

structure EventId where
  peer : PeerId
  counter : Int
  deriving DecidableEq, Inhabited

/-- A cell value. A `Double` is its bit pattern; the code only prints it. -/
inductive Value where
  | null
  | bool (b : Bool)
  | int (n : Int)
  | float (bits : UInt64)
  | str (s : Str)
  deriving DecidableEq

inductive RowOp where
  | insert (tbl rowId : Str) (values : List (Str × Value))
  | update (tbl rowId col : Str) (value : Value)
  | delete (tbl rowId : Str)
  deriving DecidableEq

structure Event where
  id : EventId
  deps : List EventId
  lamport : Int
  op : RowOp
  deriving DecidableEq

structure SignedEvent where
  sessionId : Str
  digest : Digest
  signature : Signature
  authorKey : PublicKey
  depHashes : List Digest
  event : Event
  deriving DecidableEq

/-- Capability minted only after every validation step has succeeded. -/
structure AuthenticatedEvent where
  sessionId : Str
  digest : Digest
  authorKey : PublicKey
  event : Event
  deriving DecidableEq

inductive AuditAlertKind where
  | sessionMismatch
  | unknownPeer
  | authorKeyMismatch
  | dependencyMismatch
  | equivocation
  | hashMismatch
  | invalidSignature
  | missingDependency
  deriving DecidableEq

structure AuditAlert where
  kind : AuditAlertKind
  peer : PeerId
  digest : Digest
  detail : Str
  deriving DecidableEq

inductive DeliveryResult where
  | accepted (event : AuthenticatedEvent)
  | buffered
  | rejected (alert : AuditAlert)
  deriving DecidableEq

/-- The `Hasher` trait. Everything is proved for every implementation. -/
structure Hasher where
  hashString : Str → Digest

/-- No two texts have one digest. -/
def Hasher.CollisionFree (hasher : Hasher) : Prop := Function.Injective hasher.hashString

def Hasher.identity : Hasher := ⟨Digest.mk⟩

theorem Hasher.identity_collisionFree : Hasher.identity.CollisionFree := fun _ _ same => Digest.mk.inj same

def Hasher.NeverEmpty (hasher : Hasher) : Prop := ∀ text, (hasher.hashString text).text ≠ Str.empty

def Hasher.marked : Hasher := ⟨fun text => ⟨lit "#" ++ text⟩⟩

theorem Hasher.marked_collisionFree : Hasher.marked.CollisionFree := by
  intro text other same
  exact Str.append_left_cancel (Digest.mk.inj same)

theorem Hasher.marked_neverEmpty : Hasher.marked.NeverEmpty := by
  intro text empty
  have units := congrArg Str.units empty
  simp [Hasher.marked, lit, utf16] at units

structure Verifier where
  verify : PublicKey → Digest → Signature → Bool

end ConvergeAudit.Bft
