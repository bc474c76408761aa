import ConvergeAudit.Bft.Types
import ConvergeAudit.Moon.Fields

/-!
A deterministic authenticated treap: priorities are hashes of keys, and every branch stores the digest of its entry
and its two children.
-/

namespace ConvergeAudit.AuthMap
open Moon Bft

section
variable (hasher : Hasher) (emptyDigest : Digest)

inductive AuthNode where
  | empty
  | branch (key value : Str) (priority digest : Digest) (left right : AuthNode)

inductive AuthMapMutation where
  | inserted
  | updated
  | unchanged

/-- A parent encountered while descending toward a proof target, with the digest of the other child. -/
inductive AuthMapStep where
  | descendedLeft (key value : Str) (right : Digest)
  | descendedRight (key value : Str) (left : Digest)
  deriving DecidableEq

structure AuthMapProof where
  key : Str
  value : Str
  leftDigest : Digest
  rightDigest : Digest
  entryCount : Int
  path : List AuthMapStep
  deriving DecidableEq

structure AuthMapAbsenceProof where
  key : Str
  entryCount : Int
  path : List AuthMapStep

structure AuthenticatedMap where
  hasher : Hasher
  emptyDigest : Digest
  rootNode : AuthNode
  entryCount : Int

def taggedPreimage (tag : Str) (fields : List Str) : Str := fields.foldl appendField (appendField Str.empty tag)

def taggedHash (tag : Str) (fields : List Str) : Digest :=
  hasher.hashString (taggedPreimage tag fields)

def serializeAuthmapEmpty : Str := taggedPreimage "authmap-empty-v1" []

def serializeAuthmapNode (key value : Str) (leftDigest rightDigest : Digest) : Str :=
  taggedPreimage "authmap-node-v1" [key, value, leftDigest.text, rightDigest.text]

def serializeAuthmapRoot (entryCount : Int) (nodeDigest : Digest) : Str :=
  taggedPreimage "authmap-root-v1" [Str.ofInt entryCount, nodeDigest.text]

def keyPriority (key : Str) : Digest := taggedHash hasher "authmap-priority-v1" [key]

def AuthNode.digest (emptyDigest : Digest) : AuthNode → Digest
  | empty => emptyDigest
  | branch _ _ _ digest _ _ => digest

def makeBranch (key value : Str) (priority : Digest) (left right : AuthNode) : AuthNode :=
  let digest := hasher.hashString
    (serializeAuthmapNode key value (left.digest emptyDigest) (right.digest emptyDigest))
  .branch key value priority digest left right

def rotateRight : AuthNode → AuthNode
  | .branch key value priority _ (.branch leftKey leftValue leftPriority _ leftLeft leftRight) right =>
    let moved := makeBranch hasher emptyDigest key value priority leftRight right
    makeBranch hasher emptyDigest leftKey leftValue leftPriority leftLeft moved
  | root => root

def rotateLeft : AuthNode → AuthNode
  | .branch key value priority _ left (.branch rightKey rightValue rightPriority _ rightLeft rightRight) =>
    let moved := makeBranch hasher emptyDigest key value priority left rightLeft
    makeBranch hasher emptyDigest rightKey rightValue rightPriority moved rightRight
  | root => root

end

section
variable [StrOrder]

def priorityBefore (leftPriority : Digest) (leftKey : Str) (rightPriority : Digest) (rightKey : Str) : Bool :=
  let order := compare leftPriority.text rightPriority.text
  order == .lt || (order == .eq && compare leftKey rightKey == .lt)

/-- The new node, whether the key was inserted, and whether anything changed. -/
def putNode (hasher : Hasher) (emptyDigest : Digest) : AuthNode → Str → Str → AuthNode × Bool × Bool
  | .empty, key, value =>
    (makeBranch hasher emptyDigest key value (keyPriority hasher key) .empty .empty, true, true)
  | .branch nodeKey nodeValue priority _ left right, key, value =>
    match compare key nodeKey with
    | .eq =>
      if value = nodeValue then
        (makeBranch hasher emptyDigest nodeKey nodeValue priority left right, false, false)
      else (makeBranch hasher emptyDigest nodeKey value priority left right, false, true)
    | .lt =>
      let inserted := putNode hasher emptyDigest left key value
      let rebuilt := makeBranch hasher emptyDigest nodeKey nodeValue priority inserted.1 right
      let result := match inserted.1 with
        | .branch childKey _ childPriority _ _ _ =>
          if priorityBefore childPriority childKey priority nodeKey then rotateRight hasher emptyDigest rebuilt
          else rebuilt
        | .empty => rebuilt
      (result, inserted.2)
    | .gt =>
      let inserted := putNode hasher emptyDigest right key value
      let rebuilt := makeBranch hasher emptyDigest nodeKey nodeValue priority left inserted.1
      let result := match inserted.1 with
        | .branch childKey _ childPriority _ _ _ =>
          if priorityBefore childPriority childKey priority nodeKey then rotateLeft hasher emptyDigest rebuilt
          else rebuilt
        | .empty => rebuilt
      (result, inserted.2)

def mergeNodes (hasher : Hasher) (emptyDigest : Digest) : AuthNode → AuthNode → AuthNode
  | .empty, other => other
  | .branch key value priority digest left right, .empty => .branch key value priority digest left right
  | .branch leftKey leftValue leftPriority leftDigest leftLeft leftRight,
    .branch rightKey rightValue rightPriority rightDigest rightLeft rightRight =>
    if priorityBefore leftPriority leftKey rightPriority rightKey then
      makeBranch hasher emptyDigest leftKey leftValue leftPriority leftLeft
        (mergeNodes hasher emptyDigest leftRight
          (.branch rightKey rightValue rightPriority rightDigest rightLeft rightRight))
    else
      makeBranch hasher emptyDigest rightKey rightValue rightPriority
        (mergeNodes hasher emptyDigest
          (.branch leftKey leftValue leftPriority leftDigest leftLeft leftRight) rightLeft)
        rightRight

def removeNode (hasher : Hasher) (emptyDigest : Digest) : AuthNode → Str → AuthNode × Bool
  | .empty, _ => (.empty, false)
  | .branch nodeKey nodeValue priority _ left right, key =>
    match compare key nodeKey with
    | .eq => (mergeNodes hasher emptyDigest left right, true)
    | .lt =>
      let removed := removeNode hasher emptyDigest left key
      (makeBranch hasher emptyDigest nodeKey nodeValue priority removed.1 right, removed.2)
    | .gt =>
      let removed := removeNode hasher emptyDigest right key
      (makeBranch hasher emptyDigest nodeKey nodeValue priority left removed.1, removed.2)

/-- The search loop of `AuthenticatedMap::get`. -/
def AuthNode.get : AuthNode → Str → Option Str
  | empty, _ => none
  | branch nodeKey value _ _ left right, key =>
    match compare key nodeKey with
    | .eq => some value
    | .lt => left.get key
    | .gt => right.get key

end

namespace AuthenticatedMap

def new (hasher : Hasher) : AuthenticatedMap where
  hasher := hasher
  emptyDigest := hasher.hashString serializeAuthmapEmpty
  rootNode := .empty
  entryCount := 0

def fork (self : AuthenticatedMap) : AuthenticatedMap where
  hasher := self.hasher
  emptyDigest := self.emptyDigest
  rootNode := self.rootNode
  entryCount := self.entryCount

variable [StrOrder]

def put (self : AuthenticatedMap) (key value : Str) : AuthenticatedMap × AuthMapMutation :=
  let changed := putNode self.hasher self.emptyDigest self.rootNode key value
  let self := { self with rootNode := changed.1 }
  if changed.2.1 then ({ self with entryCount := self.entryCount + 1 }, .inserted)
  else if changed.2.2 then (self, .updated)
  else (self, .unchanged)

def remove (self : AuthenticatedMap) (key : Str) : AuthenticatedMap × Bool :=
  let removed := removeNode self.hasher self.emptyDigest self.rootNode key
  let self := { self with rootNode := removed.1 }
  (if removed.2 then { self with entryCount := self.entryCount - 1 } else self, removed.2)

def get (self : AuthenticatedMap) (key : Str) : Option Str := self.rootNode.get key

end AuthenticatedMap

def mapRoot (hasher : Hasher) (entryCount : Int) (nodeDigest : Digest) : Digest :=
  hasher.hashString (serializeAuthmapRoot entryCount nodeDigest)

def AuthenticatedMap.root (self : AuthenticatedMap) : Digest :=
  mapRoot self.hasher self.entryCount (self.rootNode.digest self.emptyDigest)

def AuthenticatedMap.size (self : AuthenticatedMap) : Int := self.entryCount

section
variable [StrOrder]

def collectProof (emptyDigest : Digest) (key : Str) (entryCount : Int) :
    AuthNode → List AuthMapStep → Option AuthMapProof
  | .empty, _ => none
  | .branch nodeKey value _ _ left right, path =>
    match compare key nodeKey with
    | .eq => some
      { key := nodeKey
        value := value
        leftDigest := left.digest emptyDigest
        rightDigest := right.digest emptyDigest
        entryCount := entryCount
        path := path }
    | .lt =>
      collectProof emptyDigest key entryCount left (path ++ [.descendedLeft nodeKey value (right.digest emptyDigest)])
    | .gt =>
      collectProof emptyDigest key entryCount right (path ++ [.descendedRight nodeKey value (left.digest emptyDigest)])

def AuthenticatedMap.proof (self : AuthenticatedMap) (key : Str) : Option AuthMapProof :=
  collectProof self.emptyDigest key self.entryCount self.rootNode []

def collectAbsenceProof (emptyDigest : Digest) (key : Str) (entryCount : Int) :
    AuthNode → List AuthMapStep → Option AuthMapAbsenceProof
  | .empty, path => some { key := key, entryCount := entryCount, path := path }
  | .branch nodeKey value _ _ left right, path =>
    match compare key nodeKey with
    | .eq => none
    | .lt =>
      collectAbsenceProof emptyDigest key entryCount left
        (path ++ [.descendedLeft nodeKey value (right.digest emptyDigest)])
    | .gt =>
      collectAbsenceProof emptyDigest key entryCount right
        (path ++ [.descendedRight nodeKey value (left.digest emptyDigest)])

def AuthenticatedMap.absenceProof (self : AuthenticatedMap) (key : Str) : Option AuthMapAbsenceProof :=
  collectAbsenceProof self.emptyDigest key self.entryCount self.rootNode []

/-- The digest of a parent, given the digest of the child on the path. -/
def parentDigest (hasher : Hasher) (current : Digest) : AuthMapStep → Digest
  | .descendedLeft parentKey parentValue rightSibling =>
    hasher.hashString (serializeAuthmapNode parentKey parentValue current rightSibling)
  | .descendedRight parentKey parentValue leftSibling =>
    hasher.hashString (serializeAuthmapNode parentKey parentValue leftSibling current)

/-- The loop of both verifiers over the path, read from its end: `none` is an early `return false`. -/
def climb (hasher : Hasher) (valid : AuthMapStep → Bool) : List AuthMapStep → Digest → Option Digest
  | [], current => some current
  | step :: parents, current =>
    if !valid step then none else climb hasher valid parents (parentDigest hasher current step)

def membershipStepValid (key : Str) : AuthMapStep → Bool
  | .descendedLeft parentKey _ _ => compare key parentKey == .lt
  | .descendedRight parentKey _ _ => compare key parentKey == .gt

def verifyMembership (hasher : Hasher) (expectedRoot : Digest) (proof : AuthMapProof) : Bool :=
  if proof.entryCount ≤ 0 then false
  else
    let current := hasher.hashString
      (serializeAuthmapNode proof.key proof.value proof.leftDigest proof.rightDigest)
    match climb hasher (membershipStepValid proof.key) proof.path.reverse current with
    | none => false
    | some current => mapRoot hasher proof.entryCount current = expectedRoot

def absenceProofShapeValid (proof : AuthMapAbsenceProof) : Bool :=
  !(proof.entryCount < 0 || (proof.entryCount = 0 && proof.path.length ≠ 0) ||
    (proof.entryCount > 0 && proof.path.length = 0))

def absenceStepSearchValid (key : Str) : AuthMapStep → Bool
  | .descendedLeft parentKey _ _ => compare key parentKey == .lt
  | .descendedRight parentKey _ _ => compare key parentKey == .gt

def verifyNonMembership (hasher : Hasher) (expectedRoot : Digest) (proof : AuthMapAbsenceProof) : Bool :=
  if !absenceProofShapeValid proof then false
  else
    let emptyDigest := hasher.hashString serializeAuthmapEmpty
    match climb hasher (absenceStepSearchValid proof.key) proof.path.reverse emptyDigest with
    | none => false
    | some current => mapRoot hasher proof.entryCount current = expectedRoot

end

end ConvergeAudit.AuthMap
