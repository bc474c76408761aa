import ConvergeAudit.Moon.Fields

/-!
Checks of numbers and texts, and the text that `JSON.stringify` writes. Every number that the modelled code keeps has
passed `Number.isSafeInteger`.
-/

namespace ConvergeAudit.Js

open Moon List

/-- `Number.MAX_SAFE_INTEGER`. -/
def maxSafeInteger : Int := 9007199254740991

theorem maxSafeInteger_nonneg : 0 ≤ maxSafeInteger := by decide

def safeNonNegativeInteger (value : Int) : Bool := decide (0 ≤ value ∧ value ≤ maxSafeInteger)

def safePositiveInteger (value : Int) : Bool := decide (0 < value ∧ value ≤ maxSafeInteger)

theorem safeNonNegativeInteger_iff : safeNonNegativeInteger value = true ↔ 0 ≤ value ∧ value ≤ maxSafeInteger := by
  exact decide_eq_true_iff

theorem safePositiveInteger_iff : safePositiveInteger value = true ↔ 0 < value ∧ value ≤ maxSafeInteger := by
  exact decide_eq_true_iff

/-- `Number.isSafeInteger`. -/
def isSafeInteger (value : Int) : Bool := decide (-maxSafeInteger ≤ value ∧ value ≤ maxSafeInteger)

theorem isSafeInteger_iff : isSafeInteger value = true ↔ -maxSafeInteger ≤ value ∧ value ≤ maxSafeInteger := by
  exact decide_eq_true_iff

def boundedText (value : Str) (maxLength : Nat) : Bool := decide (0 < value.length ∧ value.length ≤ maxLength)

/-- `[A-Za-z0-9]`. -/
def isAlphanumeric (u : UInt16) : Bool :=
  decide (65 ≤ u.toNat ∧ u.toNat ≤ 90 ∨ 97 ≤ u.toNat ∧ u.toNat ≤ 122 ∨ 48 ≤ u.toNat ∧ u.toNat ≤ 57)

/-- `[A-Za-z0-9._:-]`. -/
def isIdentifierUnit (u : UInt16) : Bool :=
  isAlphanumeric u || decide (u.toNat = 46 ∨ u.toNat = 95 ∨ u.toNat = 58 ∨ u.toNat = 45)

/-- `/^[A-Za-z0-9][A-Za-z0-9._:-]*$/`. -/
def identifierPattern : List UInt16 → Bool
  | [] => false
  | first :: rest => isAlphanumeric first && rest.all isIdentifierUnit

def identifier (value : Str) (maxLength : Nat) : Bool := boundedText value maxLength && identifierPattern value.units

theorem nul_not_mem_of_identifier (named : identifier value maxLength = true) : (0 : UInt16) ∉ value.units := by
  intro member
  have pattern : identifierPattern value.units = true := (Bool.and_eq_true_iff.mp named).2
  cases units : value.units with
  | nil =>
    rw [units] at member
    exact absurd member not_mem_nil
  | cons first rest =>
    rw [units] at member pattern
    obtain ⟨head, tail⟩ := Bool.and_eq_true_iff.mp pattern
    rcases mem_cons.mp member with same | later
    · rw [← same] at head
      exact absurd head (by decide)
    · exact absurd (all_eq_true.mp tail 0 later) (by decide)

/-- Two parts with the unit 0 between them. -/
def nulJoin (front back : Str) : Str := front ++ ⟨[0]⟩ ++ back

/-- A part without the unit 0 is found again at the end of a key. -/
theorem nulJoin_inj (plain : (0 : UInt16) ∉ back.units) (plain' : (0 : UInt16) ∉ back'.units)
    (same : nulJoin front back = nulJoin front' back') : front = front' ∧ back = back' := by
  have units : back.units.reverse ++ 0 :: front.units.reverse = back'.units.reverse ++ 0 :: front'.units.reverse := by
    simpa [nulJoin] using congrArg (fun key : Str => key.units.reverse) same
  obtain ⟨backs, fronts⟩ := split_at_separator (by simpa using plain) (by simpa using plain') units
  exact ⟨Str.ext (reverse_injective fronts), Str.ext (reverse_injective backs)⟩

theorem nul_not_mem_ofInt : (0 : UInt16) ∉ (Str.ofInt n).units :=
  fun member => absurd (unit_of_mem_ofInt member) (by decide)

/-- `[0-9a-f]`. -/
def isHexUnit (u : UInt16) : Bool := decide (48 ≤ u.toNat ∧ u.toNat ≤ 57 ∨ 97 ≤ u.toNat ∧ u.toNat ≤ 102)

/-- A text of `length` lower case hexadecimal digits. -/
def isHex (length : Nat) (value : Str) : Bool := decide (value.length = length) && value.units.all isHexUnit

/-- `/^[0-9a-f]{64}$/`. -/
def isDigest (value : Str) : Bool := isHex 64 value

def hexUnit (n : Nat) : UInt16 := (if n < 10 then 48 + n else 87 + n).toUInt16

/-- `\uXXXX`. -/
def unicodeEscape (u : UInt16) : List UInt16 :=
  [92, 117, hexUnit (u.toNat / 4096), hexUnit (u.toNat / 256 % 16), hexUnit (u.toNat / 16 % 16), hexUnit (u.toNat % 16)]

/-- A unit that is not part of a surrogate pair. -/
def jsonUnit (u : UInt16) : List UInt16 :=
  if u = 34 then [92, 34]
  else if u = 92 then [92, 92]
  else if u = 8 then [92, 98]
  else if u = 9 then [92, 116]
  else if u = 10 then [92, 110]
  else if u = 12 then [92, 102]
  else if u = 13 then [92, 114]
  else if u.toNat < 32 ∨ 0xD800 ≤ u.toNat ∧ u.toNat ≤ 0xDFFF then unicodeEscape u
  else [u]

def surrogatePair (high low : UInt16) : Bool :=
  decide (0xD800 ≤ high.toNat ∧ high.toNat ≤ 0xDBFF ∧ 0xDC00 ≤ low.toNat ∧ low.toNat ≤ 0xDFFF)

def jsonUnits : List UInt16 → List UInt16
  | [] => []
  | [u] => jsonUnit u
  | u :: v :: rest => if surrogatePair u v then u :: v :: jsonUnits rest else jsonUnit u ++ jsonUnits (v :: rest)

def jsonString (value : Str) : Str := ⟨34 :: jsonUnits value.units ++ [34]⟩

def jsonNumber (value : Int) : Str := Str.ofInt value

def jsonNullable (value : Option Int) : Str := value.elim "null" jsonNumber

def commaSeparated : List Str → Str
  | [] => Str.empty
  | [item] => item
  | item :: rest => item ++ "," ++ commaSeparated rest

def jsonArray (items : List Str) : Str := "[" ++ commaSeparated items ++ "]"

def jsonObject (fields : List (Str × Str)) : Str :=
  "\x7b" ++ commaSeparated (fields.map fun field => jsonString field.1 ++ ":" ++ field.2) ++ "\x7d"

/-- `new TextEncoder().encode(value).byteLength`. -/
def utf8ByteLength : List UInt16 → Nat
  | [] => 0
  | [u] => unitBytes u
  | u :: v :: rest => if surrogatePair u v then 4 + utf8ByteLength rest else unitBytes u + utf8ByteLength (v :: rest)
where
  unitBytes (u : UInt16) : Nat := if u.toNat < 0x80 then 1 else if u.toNat < 0x800 then 2 else 3

/-- `length` of a text in SQLite: a surrogate pair is one character. -/
def characterCount : List UInt16 → Nat
  | [] => 0
  | [_] => 1
  | u :: v :: rest => if surrogatePair u v then 1 + characterCount rest else 1 + characterCount (v :: rest)

/-- The units after UTF-8 encoding: one that is not part of a surrogate pair becomes U+FFFD. -/
def wellFormedUnits : List UInt16 → List UInt16
  | [] => []
  | [u] => [replaced u]
  | u :: v :: rest => if surrogatePair u v then u :: v :: wellFormedUnits rest else replaced u :: wellFormedUnits (v :: rest)
where
  replaced (u : UInt16) : UInt16 := if 0xD800 ≤ u.toNat ∧ u.toNat ≤ 0xDFFF then 0xFFFD else u

/-- A text as SQLite keeps it. -/
def sqlText (value : Str) : Str := ⟨wellFormedUnits value.units⟩

/-- SQLite keeps the text, and no unit 0 ends it early. -/
abbrev PlainText (value : Str) : Prop := sqlText value = value ∧ (0 : UInt16) ∉ value.units

theorem jsonArray_length_pos : 0 < (jsonArray items).length := by
  simp [jsonArray, Str.length, lit, utf16]

end ConvergeAudit.Js
