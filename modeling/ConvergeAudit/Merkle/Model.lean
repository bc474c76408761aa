import ConvergeAudit.Bft.Types
import ConvergeAudit.Moon.Fields
import ConvergeAudit.Lib.Levels

/-!
`audit/merkle`: leaves, nodes and the root are hashed under their own tags, and the root hashes the leaf count.
`Int` is unbounded here.
-/

namespace ConvergeAudit.Merkle
open Moon Bft Lib

abbrev MerkleStep := Levels.Step Digest

structure MerkleProof where
  leafIndex : Int
  leafCount : Int
  path : List MerkleStep

structure MerkleTree where
  leafHashes : List Digest
  levels : List (List Digest)
  rootDigest : Digest

def canonicalLeafPayload (payload : Str) : Str :=
  appendField (appendField Str.empty "merkle-leaf-v1") payload

def canonicalNodePayload (left right : Digest) : Str :=
  appendField (appendField (appendField Str.empty "merkle-node-v1") left.text) right.text

def canonicalEmptyPayload : Str := appendField Str.empty "merkle-empty-v1"

def canonicalRootPayload (leafCount : Int) (contentRoot : Digest) : Str :=
  appendField (appendField (appendField Str.empty "merkle-root-v1") (Str.ofInt leafCount)) contentRoot.text

def hashLeaf (hasher : Hasher) (payload : Str) : Digest := hasher.hashString (canonicalLeafPayload payload)

def hashNode (hasher : Hasher) (left right : Digest) : Digest :=
  hasher.hashString (canonicalNodePayload left right)

def hashEmpty (hasher : Hasher) : Digest := hasher.hashString canonicalEmptyPayload

def hashRoot (hasher : Hasher) (leafCount : Int) (contentRoot : Digest) : Digest :=
  hasher.hashString (canonicalRootPayload leafCount contentRoot)

namespace MerkleTree

def build (hasher : Hasher) (payloads : List Str) : MerkleTree :=
  let leafHashes := payloads.map (hashLeaf hasher)
  if leafHashes.length = 0 then ⟨leafHashes, [], hashRoot hasher payloads.length (hashEmpty hasher)⟩
  else
    let (current, levels) := Levels.raise (hashNode hasher) leafHashes [leafHashes]
    -- `current[0]`: the loop leaves exactly one node
    ⟨leafHashes, levels, hashRoot hasher payloads.length (current.getD 0 default)⟩

def root (tree : MerkleTree) : Digest := tree.rootDigest

def proof (tree : MerkleTree) (leafIndex : Int) : Option MerkleProof :=
  if leafIndex < 0 ∨ leafIndex ≥ tree.leafHashes.length then none
  else some ⟨leafIndex, tree.leafHashes.length, Levels.siblings default tree.levels.dropLast leafIndex.toNat⟩

end MerkleTree

def verifyInclusion (hasher : Hasher) (payload : Str) (expectedRoot : Digest) (proof : MerkleProof) : Bool :=
  if proof.leafCount ≤ 0 ∨ proof.leafIndex < 0 ∨ proof.leafIndex ≥ proof.leafCount then false
  else
    -- index and count are not negative from here on
    match Levels.ascend (hashNode hasher) proof.path (hashLeaf hasher payload) proof.leafIndex.toNat
        proof.leafCount.toNat with
    | none => false
    | some (current, index, nodeCount) =>
      if nodeCount ≠ 1 ∨ index ≠ 0 then false
      else hashRoot hasher proof.leafCount current = expectedRoot

/-- The preimages that `createAsyncAuditDigestAdapter` is given. -/
structure AuditMerkleFraming where
  leaf : Str → Str
  node : Str → Str → Str
  empty : Str
  root : Int → Str → Str

/-- The functions of `browser_bridge` that the callers pass. -/
def bridgeFraming : AuditMerkleFraming where
  leaf := canonicalLeafPayload
  node left right := canonicalNodePayload ⟨left⟩ ⟨right⟩
  empty := canonicalEmptyPayload
  root leafCount contentRoot := canonicalRootPayload leafCount ⟨contentRoot⟩

namespace AsyncAuditDigestAdapter
variable (hashString : Str → Str) (framing : AuditMerkleFraming)

/-- The `for` loop over one level, whose index takes the even positions. -/
def nextLevel (current : List Str) : List Str :=
  (List.range ((current.length + 1) / 2)).map fun turn =>
    let left := current.getD (2 * turn) default
    hashString (framing.node left (current[2 * turn + 1]?.getD left))

def reduceLevels (current : List Str) : List Str :=
  if 1 < current.length then reduceLevels (nextLevel hashString framing current) else current
termination_by current.length
decreasing_by
  rw [nextLevel, List.length_map, List.length_range]
  omega

def merkleRoot (payloads : List Str) : Str :=
  let leaves := payloads.map fun payload => hashString (framing.leaf payload)
  let current := if leaves.length = 0 then [hashString framing.empty] else reduceLevels hashString framing leaves
  hashString (framing.root payloads.length (current.getD 0 default))

end AsyncAuditDigestAdapter

end ConvergeAudit.Merkle
