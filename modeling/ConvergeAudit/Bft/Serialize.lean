import ConvergeAudit.Bft.Types
import ConvergeAudit.Moon.Fields
import ConvergeAudit.Moon.Sort

/-!
`serialize_for_hash` sorts the dependencies, so a text determines the dependency pairs only up to their order.
-/

namespace ConvergeAudit.Bft
open Moon

/-- `Double::to_string` on a bit pattern. Nothing below depends on the format. -/
class DoubleFormat where
  toStr : UInt64 → Str

/-- A format for concrete runs: the bit pattern in decimal. -/
@[reducible] def DoubleFormat.bits : DoubleFormat := ⟨fun bits => Str.ofInt bits.toNat⟩

namespace DoubleBits

attribute [scoped instance] DoubleFormat.bits

end DoubleBits

def writeChar (buf : Str) (c : Char) : Str := buf ++ ⟨utf16 c⟩

def writeText (buf value : Str) : Str := appendField buf value

def writeInt (buf : Str) (value : Int) : Str := writeText buf (Str.ofInt value)

def writeEventId (buf : Str) (id : EventId) : Str := writeInt (writeText buf id.peer.text) id.counter

section
variable [StrOrder]

def compareEventId (a b : EventId) : Ordering :=
  let peerOrder := compare a.peer.text b.peer.text
  if peerOrder = .eq then compare a.counter b.counter else peerOrder

def comparePair (a b : EventId × Digest) : Ordering :=
  let idOrder := compareEventId a.1 b.1
  if idOrder = .eq then compare a.2.text b.2.text else idOrder

def writePair (buf : Str) (pair : EventId × Digest) : Str := writeText (writeEventId buf pair.1) pair.2.text

def writeDependencies (buf : Str) (eventDependencies : List EventId) (digestDependencies : List Digest) : Str :=
  let buf := writeChar buf 'D'
  let buf := writeInt buf eventDependencies.length
  let buf := writeInt buf digestDependencies.length
  if eventDependencies.length = digestDependencies.length then
    let pairs := eventDependencies.zip digestDependencies
    let pairs := if pairs.length > 1 then sortBy comparePair pairs else pairs
    pairs.foldl writePair buf
  else
    -- Malformed inputs stay in the digest; delivery rejects the count mismatch.
    let buf := (sortBy compareEventId eventDependencies).foldl writeEventId buf
    (sortBy (fun a b : Digest => compare a.text b.text) digestDependencies).foldl
      (fun buf dependency => writeText buf dependency.text) buf

variable [DoubleFormat]

def serializeValue (buf : Str) : Value → Str
  | .null => writeChar buf 'N'
  | .bool b => writeChar (writeChar buf 'B') (if b then '1' else '0')
  | .int n => writeInt (writeChar buf 'I') n
  | .float bits => writeText (writeChar buf 'F') (DoubleFormat.toStr bits)
  | .str s => writeText (writeChar buf 'S') s

def serializeOp (buf : Str) : RowOp → Str
  | .insert tbl rowId values =>
    let buf := writeInt (writeText (writeText (writeChar buf 'I') tbl) rowId) values.length
    let sortedValues :=
      if values.length > 1 then sortBy (fun a b : Str × Value => compare a.1 b.1) values else values
    sortedValues.foldl (fun buf pair => serializeValue (writeText buf pair.1) pair.2) buf
  | .update tbl rowId col value =>
    serializeValue (writeText (writeText (writeText (writeChar buf 'U') tbl) rowId) col) value
  | .delete tbl rowId => writeText (writeText (writeChar buf 'D') tbl) rowId

def serializeForHash (sessionId : Str) (event : Event) (depHashes : List Digest) : Str :=
  let buf := writeText Str.empty "event-v2"
  let buf := writeText buf sessionId
  let buf := writeEventId buf event.id
  let buf := writeInt buf event.lamport
  let buf := writeDependencies buf event.deps depHashes
  serializeOp buf event.op

end

theorem writeText_eq (buf value : Str) : writeText buf value = buf ++ field value := appendField_eq

theorem writeInt_eq (buf : Str) (value : Int) : writeInt buf value = buf ++ field (Str.ofInt value) :=
  appendField_eq

def eventIdText (id : EventId) : Str := field id.peer.text ++ field (Str.ofInt id.counter)

def pairText (pair : EventId × Digest) : Str :=
  field pair.1.peer.text ++ (field (Str.ofInt pair.1.counter) ++ field pair.2.text)

def pairsText (pairs : List (EventId × Digest)) : Str :=
  pairs.foldr (fun pair rest => pairText pair ++ rest) Str.empty

theorem writeEventId_eq (buf : Str) (id : EventId) : writeEventId buf id = buf ++ eventIdText id := by
  simp only [writeEventId, writeText_eq, writeInt_eq, eventIdText, Str.append_assoc]

theorem writePair_eq : writePair buf pair = buf ++ pairText pair := by
  simp only [writePair, writeEventId, writeText_eq, writeInt_eq, pairText, Str.append_assoc]

theorem foldl_writePair : pairs.foldl writePair buf = buf ++ pairsText pairs := foldl_texts fun _ _ => writePair_eq

theorem readable_eventId : Readable eventIdText id := by
  rintro ⟨⟨peer⟩, counter⟩ ⟨⟨peer'⟩, counter'⟩ s t
  simp [eventIdText, Str.append_assoc, field_append_iff, Str.ofInt_inj, and_assoc]

theorem readable_pair : Readable pairText id := by
  rintro ⟨⟨⟨peer⟩, counter⟩, ⟨digest⟩⟩ ⟨⟨⟨peer'⟩, counter'⟩, ⟨digest'⟩⟩ s t
  simp [pairText, Str.append_assoc, field_append_iff, Str.ofInt_inj, and_assoc]

theorem readable_digest : Readable (fun digest : Digest => field digest.text) id := by
  intro digest other s t
  rw [field_append_iff, Digest.text_inj]
  rfl

/-- What the text of a value says: a float only by its decimal text. -/
inductive ShownValue where
  | null
  | bool (b : Bool)
  | int (n : Int)
  | float (text : Str)
  | str (s : Str)

section
variable [DoubleFormat]

def Value.shown : Value → ShownValue
  | .null => .null
  | .bool b => .bool b
  | .int n => .int n
  | .float bits => .float (DoubleFormat.toStr bits)
  | .str s => .str s

def shownColumn (column : Str × Value) : Str × ShownValue := (column.1, column.2.shown)

def columnText (column : Str × Value) : Str := field column.1 ++ serializeValue Str.empty column.2

theorem serializeValue_append (buf : Str) (value : Value) :
    serializeValue buf value = buf ++ serializeValue Str.empty value := by
  cases value <;> simp [serializeValue, writeChar, writeText_eq, writeInt_eq, Str.append_assoc]

theorem readable_value : Readable (serializeValue Str.empty) Value.shown := by
  intro value other s t
  cases value <;> cases other <;> simp (disch := decide) [serializeValue, writeChar, writeText_eq, writeInt_eq,
    Str.append_assoc, char_append_iff, field_append_iff, Str.ofInt_inj, Value.shown]
  case bool.bool b b' => cases b <;> cases b' <;> simp (disch := decide) [char_append_iff]

theorem readable_column : Readable columnText shownColumn := by
  intro column other s t
  simp only [columnText, Str.append_assoc, field_append_iff, shownColumn, Prod.mk.injEq, and_assoc]
  rw [readable_value]

end

theorem ite_eq_then (first later : Ordering) : (if first = .eq then later else first) = first.then later := by
  cases first <;> rfl

theorem sorted_append_iff {compare : α → α → Ordering} [Std.TransCmp compare] (readable : Readable write id)
    (separates : ∀ x y, compare x y = .eq → x = y) (lengths : items.length = others.length) :
    texts write (sortBy compare items) ++ s = texts write (sortBy compare others) ++ t ↔
      items.Perm others ∧ s = t := by
  have counts : (sortBy compare items).length = (sortBy compare others).length := by
    rw [(sortBy_perm _ _).length_eq, (sortBy_perm _ _).length_eq, lengths]
  rw [readable.texts_append_iff counts, List.map_id, List.map_id, sortBy_eq_iff separates]

section
variable [StrOrder]

/-- The dependency pairs in the order in which they are written. -/
def sortedPairs (deps : List EventId) (depHashes : List Digest) : List (EventId × Digest) :=
  if (deps.zip depHashes).length > 1 then sortBy comparePair (deps.zip depHashes) else deps.zip depHashes

theorem compareEventId_eq :
    compareEventId = compareLex (compareOn fun id : EventId => id.peer.text) (compareOn EventId.counter) := by
  funext a b
  exact ite_eq_then _ _

instance : Std.TransCmp compareEventId := compareEventId_eq ▸ inferInstance

theorem comparePair_eq :
    comparePair = compareLex (fun a b => compareEventId a.1 b.1) (compareOn fun pair => pair.2.text) := by
  funext a b
  exact ite_eq_then _ _

instance : Std.TransCmp fun a b : EventId × Digest => compareEventId a.1 b.1 where
  eq_swap := Std.OrientedCmp.eq_swap
  isLE_trans := Std.TransCmp.isLE_trans

instance : Std.TransCmp comparePair := comparePair_eq ▸ inferInstance

theorem compareEventId_separates (a b : EventId) (same : compareEventId a b = .eq) : a = b := by
  rw [compareEventId_eq, compareLex_eq_eq] at same
  obtain ⟨⟨peer⟩, counter⟩ := a
  obtain ⟨⟨other⟩, number⟩ := b
  obtain rfl := compare_eq_iff_eq.mp same.1
  obtain rfl := compare_eq_iff_eq.mp same.2
  rfl

theorem comparePair_separates (a b : EventId × Digest) (same : comparePair a b = .eq) : a = b := by
  rw [comparePair_eq, compareLex_eq_eq] at same
  exact Prod.ext (compareEventId_separates _ _ same.1) (Digest.text_inj.mp (compare_eq_iff_eq.mp same.2))

theorem compareDigest_separates (a b : Digest) (same : compareOn Digest.text a b = .eq) : a = b :=
  Digest.text_inj.mp (compare_eq_iff_eq.mp same)

/-- What follows the two counts. -/
def depsText (deps : List EventId) (depHashes : List Digest) : Str :=
  if deps.length = depHashes.length then pairsText (sortedPairs deps depHashes)
  else texts eventIdText (sortBy compareEventId deps) ++
    texts (fun digest => field digest.text) (sortBy (compareOn Digest.text) depHashes)

theorem writeDependencies_eq (buf : Str) (deps : List EventId) (depHashes : List Digest) :
    writeDependencies buf deps depHashes = buf ++ (⟨utf16 'D'⟩ ++ (field (Str.ofInt deps.length) ++
      (field (Str.ofInt depHashes.length) ++ depsText deps depHashes))) := by
  unfold writeDependencies depsText
  split
  · simp only [foldl_writePair, writeInt_eq, writeChar, Str.append_assoc, sortedPairs]
  · simp only [foldl_texts writeEventId_eq, foldl_texts fun buf digest => writeText_eq buf (Digest.text digest),
      writeInt_eq, writeChar, Str.append_assoc]
    rfl

/-- The same dependencies: as pairs, or both lists for themselves if they have different lengths. -/
def SameDependencies (deps : List EventId) (depHashes : List Digest) (deps' : List EventId) (depHashes' : List Digest) :
    Prop :=
  deps.length = deps'.length ∧ depHashes.length = depHashes'.length ∧
    if deps.length = depHashes.length then (deps.zip depHashes).Perm (deps'.zip depHashes')
    else deps.Perm deps' ∧ depHashes.Perm depHashes'

theorem depsText_append_iff (lengths : deps.length = deps'.length) (counts : depHashes.length = depHashes'.length) :
    depsText deps depHashes ++ s = depsText deps' depHashes' ++ t ↔
      SameDependencies deps depHashes deps' depHashes' ∧ s = t := by
  unfold depsText SameDependencies sortedPairs
  rw [← lengths, ← counts]
  split
  · have paired : (deps.zip depHashes).length = (deps'.zip depHashes').length := by simp [lengths, counts]
    rw [ite_sortBy, ite_sortBy]
    refine (sorted_append_iff readable_pair comparePair_separates paired).trans ?_
    simp
  · rw [Str.append_assoc, Str.append_assoc, sorted_append_iff readable_eventId compareEventId_separates lengths,
      sorted_append_iff readable_digest compareDigest_separates counts]
    simp [and_assoc]

def sortColumns (columns : List (Str × ShownValue)) : List (Str × ShownValue) := sortBy (compareOn Prod.fst) columns

abbrev SameSorted (columns others : List (Str × ShownValue)) : Prop := sortColumns columns = sortColumns others

theorem perm_of_sortColumns_eq (same : SameSorted columns others) : columns.Perm others := by
  have sorted : (sortColumns columns).Perm columns := sortBy_perm _ _
  rw [same] at sorted
  exact sorted.symm.trans (sortBy_perm _ _)

theorem sortColumns_eq_iff (distinct : (columns.map Prod.fst).Nodup) (distinct' : (others.map Prod.fst).Nodup) :
    SameSorted columns others ↔ ∀ column, column ∈ columns ↔ column ∈ others := by
  rw [← List.perm_ext_iff_of_nodup distinct.of_map distinct'.of_map]
  refine ⟨perm_of_sortColumns_eq, fun perm => sortBy_eq_of_perm_of_separates perm ?_⟩
  intro column member other member' same
  exact List.inj_on_of_nodup_map distinct member member' (compare_eq_iff_eq.mp same)

variable [DoubleFormat]

def opText : RowOp → Str
  | .insert tbl rowId values => ⟨utf16 'I'⟩ ++ (field tbl ++ (field rowId ++ (field (Str.ofInt values.length) ++
      texts columnText (sortBy (compareOn Prod.fst) values))))
  | .update tbl rowId col value => ⟨utf16 'U'⟩ ++ (field tbl ++ (field rowId ++ columnText (col, value)))
  | .delete tbl rowId => ⟨utf16 'D'⟩ ++ (field tbl ++ field rowId)

theorem serializeOp_eq (buf : Str) (op : RowOp) : serializeOp buf op = buf ++ opText op := by
  have column : ∀ (buf : Str) (column : Str × Value),
      serializeValue (writeText buf column.1) column.2 = buf ++ columnText column := by
    intro buf column
    rw [serializeValue_append, writeText_eq, columnText, Str.append_assoc]
  cases op with
  | insert tbl rowId values =>
    simp only [serializeOp, ite_sortBy, foldl_texts column]
    simp only [writeChar, writeText_eq, writeInt_eq, opText, Str.append_assoc]
    rfl
  | update tbl rowId col value =>
    simp only [serializeOp, column _ (col, value)]
    simp only [writeChar, writeText_eq, opText, Str.append_assoc]
  | delete tbl rowId => simp only [serializeOp, writeChar, writeText_eq, opText, Str.append_assoc]

/-- The same operation, the columns of an insert compared by `related`. -/
def RowOp.Alike (related : List (Str × ShownValue) → List (Str × ShownValue) → Prop) : RowOp → RowOp → Prop
  | .insert tbl rowId values, .insert tbl' rowId' values' =>
    tbl = tbl' ∧ rowId = rowId' ∧ related (values.map shownColumn) (values'.map shownColumn)
  | .update tbl rowId col value, .update tbl' rowId' col' value' =>
    tbl = tbl' ∧ rowId = rowId' ∧ col = col' ∧ value.shown = value'.shown
  | .delete tbl rowId, .delete tbl' rowId' => tbl = tbl' ∧ rowId = rowId'
  | _, _ => False

def RowOp.DistinctColumns : RowOp → Prop
  | .insert _ _ values => (values.map Prod.fst).Nodup
  | _ => True

theorem map_shown_sortBy (values : List (Str × Value)) :
    (sortBy (compareOn Prod.fst) values).map shownColumn = sortColumns (values.map shownColumn) :=
  List.map_insertionSort _ _ _ _ fun _ _ _ _ => Iff.rfl

theorem columns_append_iff (values values' : List (Str × Value)) :
    Str.ofInt values.length = Str.ofInt values'.length ∧ texts columnText (sortBy (compareOn Prod.fst) values) ++ s =
        texts columnText (sortBy (compareOn Prod.fst) values') ++ t ↔
      sortColumns (values.map shownColumn) = sortColumns (values'.map shownColumn) ∧ s = t := by
  have length (values : List (Str × Value)) : (sortBy (compareOn Prod.fst) values).length = values.length :=
    (sortBy_perm _ _).length_eq
  rw [Str.ofInt_inj, Int.natCast_inj, ← map_shown_sortBy, ← map_shown_sortBy]
  constructor
  · rintro ⟨lengths, same⟩
    exact (readable_column.texts_append_iff (by rw [length, length, lengths])).mp same
  · rintro ⟨same, rest⟩
    have lengths := congrArg List.length same
    rw [List.length_map, List.length_map] at lengths
    refine ⟨?_, (readable_column.texts_append_iff lengths).mpr ⟨same, rest⟩⟩
    rwa [length, length] at lengths

theorem opText_append_iff : opText op ++ s = opText op' ++ t ↔
    op.Alike SameSorted op' ∧ s = t := by
  cases op <;> cases op' <;> simp (disch := decide) only [opText, RowOp.Alike, char_append_iff, field_append_iff,
    Str.append_assoc, Char.reduceEq, false_and, true_and, and_assoc]
  case insert.insert => rw [columns_append_iff]
  case update.update => rw [readable_column, shownColumn, shownColumn, Prod.mk.injEq, and_assoc]

def SameHead (session : Str) (event : Event) (depHashes : List Digest) (session' : Str) (event' : Event)
    (depHashes' : List Digest) : Prop :=
  session = session' ∧ event.id = event'.id ∧ event.lamport = event'.lamport ∧
    SameDependencies event.deps depHashes event'.deps depHashes'

theorem serializeForHash_sorted_iff :
    serializeForHash session event depHashes = serializeForHash session' event' depHashes' ↔
      SameHead session event depHashes session' event' depHashes' ∧ event.op.Alike SameSorted event'.op := by
  have ops := @opText_append_iff _ _ event.op Str.empty event'.op Str.empty
  simp only [Str.append_empty, and_true] at ops
  simp only [serializeForHash, serializeOp_eq, writeDependencies_eq, writeEventId_eq, writeText_eq, writeInt_eq,
    Str.append_assoc, Str.empty_append, field_append_iff, true_and]
  rw [readable_eventId]
  simp (disch := decide) only [field_append_iff, char_append_iff, Str.ofInt_inj, Int.natCast_inj, true_and, id]
  constructor
  · rintro ⟨sessions, ids, lamports, lengths, counts, rest⟩
    obtain ⟨dependencies, rest⟩ := (depsText_append_iff lengths counts).mp rest
    exact ⟨⟨sessions, ids, lamports, dependencies⟩, ops.mp rest⟩
  · rintro ⟨⟨sessions, ids, lamports, dependencies⟩, same⟩
    exact ⟨sessions, ids, lamports, dependencies.1, dependencies.2.1,
      (depsText_append_iff dependencies.1 dependencies.2.1).mpr ⟨dependencies, ops.mpr same⟩⟩

omit [StrOrder] in
theorem RowOp.Alike.mono {op op' : RowOp} (alike : op.Alike related op')
    (implies : ∀ columns others, related columns others → wider columns others) : op.Alike wider op' := by
  cases op <;> cases op' <;> try exact alike
  exact ⟨alike.1, alike.2.1, implies _ _ alike.2.2⟩

theorem alike_iff_of_distinct {op op' : RowOp} (distinct : op.DistinctColumns) (distinct' : op'.DistinctColumns) :
    op.Alike SameSorted op' ↔
      op.Alike (fun columns others => ∀ column, column ∈ columns ↔ column ∈ others) op' := by
  cases op <;> cases op' <;> try exact Iff.rfl
  have keys (values : List (Str × Value)) : (values.map shownColumn).map Prod.fst = values.map Prod.fst := by
    rw [List.map_map]
    rfl
  simp only [RowOp.Alike]
  rw [sortColumns_eq_iff ((keys _).symm ▸ distinct) ((keys _).symm ▸ distinct')]

/-- Two texts are equal only for one session, one event id and Lamport time, the same dependencies and the same
operation, the columns of an insert with their multiplicities; conversely for inserts that name no column twice. -/
theorem hashed_form_is_canonical (session session' : Str) (event event' : Event) (depHashes depHashes' : List Digest) :
    (serializeForHash session event depHashes = serializeForHash session' event' depHashes' →
      SameHead session event depHashes session' event' depHashes' ∧ event.op.Alike List.Perm event'.op) ∧
    (event.op.DistinctColumns → event'.op.DistinctColumns →
      (serializeForHash session event depHashes = serializeForHash session' event' depHashes' ↔
        SameHead session event depHashes session' event' depHashes' ∧
        event.op.Alike (fun columns others => ∀ column, column ∈ columns ↔ column ∈ others) event'.op)) := by
  refine ⟨fun same => ?_, fun distinct distinct' => ?_⟩
  · obtain ⟨head, alike⟩ := serializeForHash_sorted_iff.mp same
    exact ⟨head, alike.mono fun _ _ => perm_of_sortColumns_eq⟩
  · rw [serializeForHash_sorted_iff, alike_iff_of_distinct distinct distinct']

end

end ConvergeAudit.Bft
