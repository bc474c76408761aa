import ConvergeAudit.Moon.Text

/-!
A field is written as its length in decimal, a colon, and its text. A sequence of fields can be
read back from its concatenation, whatever the texts hold.
-/

namespace ConvergeAudit.Moon

open List

/-- `append_field` on a string builder: the buffer after one more field. -/
def appendField (buffer value : Str) : Str :=
  buffer ++ Str.ofInt value.length ++ lit ":" ++ value

def field (value : Str) : Str := appendField Str.empty value

def fields : List Str → Str
  | [] => Str.empty
  | value :: rest => field value ++ fields rest

theorem appendField_eq : appendField buffer value = buffer ++ field value := by
  simp [appendField, field, Str.append_assoc]

@[simp] theorem fields_nil : fields [] = Str.empty := rfl

@[simp] theorem fields_cons :
    fields (value :: rest) = field value ++ fields rest := rfl

theorem foldl_appendField : values.foldl appendField buffer = buffer ++ fields values := by
  induction values generalizing buffer with
  | nil => simp
  | cons value rest ih => rw [foldl_cons, ih, appendField_eq, fields_cons, Str.append_assoc]

theorem field_units : (field value).units = (Str.ofInt value.length).units ++ 58 :: value.units := by
  have colon : (lit ":").units = [58] := by decide
  simp [field, appendField, colon]

/-- A separator that does not occur in the fronts splits two equal lists at the same place. -/
theorem split_at_separator (absent : x ∉ front) (absent' : x ∉ front')
    (same : front ++ x :: back = front' ++ x :: back') : front = front' ∧ back = back' := by
  induction front generalizing front' with
  | nil =>
    cases front' with
    | nil => exact ⟨rfl, (List.cons.inj same).2⟩
    | cons y rest =>
      have head := (List.cons.inj same).1
      exact absurd (head ▸ mem_cons_self) absent'
  | cons y rest ih =>
    cases front' with
    | nil =>
      have head := (List.cons.inj same).1
      exact absurd (head ▸ mem_cons_self) absent
    | cons z rest' =>
      obtain ⟨head, tail⟩ := List.cons.inj same
      obtain ⟨fronts, backs⟩ := ih (fun member => absent (mem_cons_of_mem _ member))
        (fun member => absent' (mem_cons_of_mem _ member)) tail
      exact ⟨by rw [head, fronts], backs⟩

/-- The first field of a text and what follows it are determined by the text. -/
theorem field_append_inj (same : field v ++ s = field w ++ t) : v = w ∧ s = t := by
  have units := congrArg Str.units same
  simp only [Str.units_append, field_units, append_assoc, cons_append] at units
  obtain ⟨lengths, texts⟩ := split_at_separator separator_not_mem_ofInt separator_not_mem_ofInt units
  have length := Int.ofNat.inj (Str.ofInt_injective (Str.ext lengths))
  obtain ⟨value, rest⟩ := append_inj texts length
  exact ⟨Str.ext value, Str.ext rest⟩

theorem field_append_iff : field v ++ s = field w ++ t ↔ v = w ∧ s = t :=
  ⟨field_append_inj, fun ⟨values, rests⟩ => by rw [values, rests]⟩

theorem char_append_iff (plain : c.toNat < 0x10000) (plain' : d.toNat < 0x10000) :
    (⟨utf16 c⟩ : Str) ++ s = ⟨utf16 d⟩ ++ t ↔ c = d ∧ s = t := by
  constructor
  · intro same
    have units := congrArg Str.units same
    simp only [Str.units_append, utf16, if_pos plain, if_pos plain', singleton_append, cons.injEq] at units
    have numbers := congrArg UInt16.toNat units.1
    simp only [Nat.toUInt16, UInt16.toNat_ofNat', Nat.reducePow] at numbers
    rw [Nat.mod_eq_of_lt plain, Nat.mod_eq_of_lt plain'] at numbers
    exact ⟨Char.toNat_inj.mp numbers, Str.ext units.2⟩
  · rintro ⟨rfl, rfl⟩
    rfl

/-- Texts that can be told from what follows them, and that say what `read` keeps of the value. -/
def Readable (write : α → Str) (read : α → β) : Prop :=
  ∀ ⦃x y s t⦄, write x ++ s = write y ++ t ↔ read x = read y ∧ s = t

def texts (write : α → Str) (items : List α) : Str := items.foldr (fun item rest => write item ++ rest) Str.empty

theorem foldl_texts (appends : ∀ buffer item, f buffer item = buffer ++ write item) :
    items.foldl f buffer = buffer ++ texts write items := by
  induction items generalizing buffer with
  | nil => exact (Str.append_empty buffer).symm
  | cons item rest ih => rw [foldl_cons, ih, appends, Str.append_assoc]; rfl

theorem Readable.texts_append_iff {read : α → β} (readable : Readable write read)
    (lengths : items.length = others.length) :
    texts write items ++ s = texts write others ++ t ↔ items.map read = others.map read ∧ s = t := by
  induction items generalizing others with
  | nil =>
    obtain rfl := length_eq_zero_iff.mp lengths.symm
    simp [texts]
  | cons item items ih =>
    cases others with
    | nil => simp at lengths
    | cons other others =>
      have later := ih (Nat.succ.inj lengths)
      simp only [texts, foldr_cons, Str.append_assoc, map_cons, cons.injEq, and_assoc] at later ⊢
      rw [readable, later]

theorem ofInt_append_inj (same : Str.ofInt m ++ (lit ":" ++ s) = Str.ofInt n ++ (lit ":" ++ t)) : m = n ∧ s = t := by
  have colon : (lit ":").units = [58] := by decide
  have units := congrArg Str.units same
  obtain ⟨numbers, rest⟩ := split_at_separator separator_not_mem_ofInt separator_not_mem_ofInt units
  exact ⟨Str.ofInt_injective (Str.ext numbers), Str.ext rest⟩

theorem field_append_ne_empty : field v ++ s ≠ Str.empty := by
  intro same
  have units := congrArg Str.units same
  simp [field_units] at units

theorem fields_injective : Function.Injective fields := by
  intro vs
  induction vs with
  | nil =>
    intro ws same
    cases ws with
    | nil => rfl
    | cons w rest => exact absurd same.symm field_append_ne_empty
  | cons v rest ih =>
    intro ws same
    cases ws with
    | nil => exact absurd same field_append_ne_empty
    | cons w rest' =>
      obtain ⟨head, tail⟩ := field_append_inj same
      rw [head, ih tail]

theorem fields_append_inj (lengths : values.length = others.length) (same : fields values ++ s = fields others ++ t) :
    values = others ∧ s = t := by
  induction values generalizing others with
  | nil =>
    obtain rfl := length_eq_zero_iff.mp lengths.symm
    exact ⟨rfl, by simpa using same⟩
  | cons value rest ih =>
    cases others with
    | nil => simp at lengths
    | cons other others =>
      rw [fields_cons, fields_cons, Str.append_assoc, Str.append_assoc] at same
      obtain ⟨rfl, later⟩ := field_append_inj same
      obtain ⟨rfl, rest⟩ := ih (by simpa using lengths) later
      exact ⟨rfl, rest⟩

theorem foldl_appendField_inj {values others : List Str}
    (same : values.foldl appendField Str.empty = others.foldl appendField Str.empty) : values = others := by
  rw [foldl_appendField, foldl_appendField] at same
  exact fields_injective (Str.append_left_cancel same)

theorem flatMap_append_inj {write : α → List Str} (injective : Function.Injective write)
    (width : ∀ item other, (write item).length = (write other).length) {items others : List α}
    (lengths : items.length = others.length) (same : items.flatMap write ++ rest = others.flatMap write ++ rest') :
    items = others ∧ rest = rest' := by
  induction items generalizing others with
  | nil =>
    obtain rfl := length_eq_zero_iff.mp lengths.symm
    exact ⟨rfl, same⟩
  | cons item items ih =>
    cases others with
    | nil => simp at lengths
    | cons other others =>
      rw [flatMap_cons, flatMap_cons, append_assoc, append_assoc] at same
      obtain ⟨first, later⟩ := append_inj same (width item other)
      obtain ⟨rfl, rest⟩ := ih (by simpa using lengths) later
      exact ⟨by rw [injective first], rest⟩

/-- A count and that many records of one width are determined by the fields, and so is what follows. -/
theorem counted_append_inj {write : α → List Str} (injective : Function.Injective write)
    (width : ∀ item other, (write item).length = (write other).length) {items others : List α}
    (counts : Str.ofInt items.length = Str.ofInt others.length)
    (same : items.flatMap write ++ rest = others.flatMap write ++ rest') : items = others ∧ rest = rest' :=
  flatMap_append_inj injective width (Int.ofNat.inj (Str.ofInt_injective counts)) same

/-- An optional text: a tag, and the field if there is one. -/
def optionalField : Option Str → Str
  | none => lit "0"
  | some value => lit "1" ++ field value

theorem optionalField_injective : Function.Injective optionalField := by
  have tags : ∀ s : Str, lit "0" ≠ lit "1" ++ s := by
    intro s equal
    have units := congrArg Str.units equal
    simp [lit, utf16] at units
  intro value other same
  cases value with
  | none =>
    cases other with
    | none => rfl
    | some other => exact absurd same (tags _)
  | some value =>
    cases other with
    | none => exact absurd same.symm (tags _)
    | some other =>
      have texts := congrArg (· ++ Str.empty) (Str.append_left_cancel same)
      rw [(field_append_inj texts).1]

end ConvergeAudit.Moon
