import ConvergeAudit.Lib.Guards
import Mathlib.Data.List.Basic
import Mathlib.Order.Compare

/-!
A string is the sequence of its UTF-16 code units.
-/

namespace ConvergeAudit.Moon

open List Std.LawfulEqCmp

/-- A MoonBit `String`. Lone surrogates are values of the type, as they are in MoonBit. -/
structure Str where
  units : List UInt16
  deriving DecidableEq, Inhabited

namespace Str

instance : Append Str := ⟨fun s t => ⟨s.units ++ t.units⟩⟩

def empty : Str := ⟨[]⟩

def length (s : Str) : Nat := s.units.length

@[ext] theorem ext {s t : Str} (h : s.units = t.units) : s = t := by
  cases s; cases t; exact congrArg Str.mk h

@[simp] theorem units_append (s t : Str) : (s ++ t).units = s.units ++ t.units := rfl

@[simp] theorem units_empty : empty.units = [] := rfl

@[simp] theorem empty_append (s : Str) : empty ++ s = s := rfl

@[simp] theorem append_empty (s : Str) : s ++ empty = s := Str.ext (append_nil _)

theorem append_assoc (s t u : Str) : s ++ t ++ u = s ++ (t ++ u) :=
  Str.ext (List.append_assoc _ _ _)

theorem append_left_cancel {s t u : Str} (h : s ++ t = s ++ u) : t = u :=
  Str.ext (append_cancel_left (congrArg Str.units h))

end Str

/-- The code units of one character: itself, or a surrogate pair above the basic plane. -/
def utf16 (c : Char) : List UInt16 :=
  if c.toNat < 0x10000 then [c.toNat.toUInt16]
  else [(0xD800 + (c.toNat - 0x10000) / 0x400).toUInt16, (0xDC00 + (c.toNat - 0x10000) % 0x400).toUInt16]

def lit (s : String) : Str := ⟨s.toList.flatMap utf16⟩

instance : Coe String Str := ⟨lit⟩

def digitUnit (c : Char) : UInt16 := c.toNat.toUInt16

/-- The decimal digits of `n`, most significant first. -/
def decimal (n : Nat) : List UInt16 := (Nat.toDigits 10 n).map digitUnit

def Str.ofInt : Int → Str
  | .ofNat n => ⟨decimal n⟩
  | .negSucc n => ⟨digitUnit '-' :: decimal (n + 1)⟩

theorem digitUnit_toNat (digit : c.isDigit = true) : (digitUnit c).toNat = c.toNat := by
  have bounds : 48 ≤ c.toNat ∧ c.toNat ≤ 57 := Char.isDigit_iff_toNat.mp digit
  simp only [digitUnit, Nat.toUInt16, UInt16.toNat_ofNat']
  omega

theorem digit_of_mem_decimal (member : u ∈ decimal n) : 48 ≤ u.toNat ∧ u.toNat ≤ 57 := by
  obtain ⟨c, printed, rfl⟩ := mem_map.mp member
  have digit := Nat.isDigit_of_mem_toDigits (by decide) (by decide) printed
  rw [digitUnit_toNat digit]
  exact Char.isDigit_iff_toNat.mp digit

theorem decimal_injective : Function.Injective decimal := by
  intro m n same
  have read : ∀ k, (decimal k).map (fun u => Char.ofNat u.toNat) = Nat.toDigits 10 k := by
    intro k
    rw [decimal, map_map]
    refine (map_congr_left ?_).trans (map_id _)
    intro c printed
    have digit := Nat.isDigit_of_mem_toDigits (by decide) (by decide) printed
    simp only [Function.comp_apply, digitUnit_toNat digit, Char.ofNat_toNat, id]
  have digits : Nat.toDigits 10 m = Nat.toDigits 10 n := by rw [← read m, ← read n, same]
  simpa using congrArg (fun ds => Nat.ofDigitChars 10 ds 0) digits

theorem unit_of_mem_ofInt (member : u ∈ (Str.ofInt n).units) : u = 45 ∨ 48 ≤ u.toNat ∧ u.toNat ≤ 57 := by
  cases n with
  | ofNat => exact Or.inr (digit_of_mem_decimal member)
  | negSucc => exact (mem_cons.mp member).imp_right digit_of_mem_decimal

theorem separator_not_mem_ofInt : (58 : UInt16) ∉ (Str.ofInt n).units :=
  fun member => absurd (unit_of_mem_ofInt member) (by decide)

theorem Str.ofInt_injective : Function.Injective Str.ofInt := by
  have sign : ∀ k l, decimal k ≠ digitUnit '-' :: decimal l := by
    intro k l same
    have bounds := digit_of_mem_decimal (n := k) (by rw [same]; exact mem_cons_self)
    exact absurd bounds (by decide)
  intro m n same
  have units := congrArg Str.units same
  cases m with
  | ofNat k =>
    cases n with
    | ofNat l => exact congrArg Int.ofNat (decimal_injective units)
    | negSucc l => exact absurd units (sign _ _)
  | negSucc k =>
    cases n with
    | ofNat l => exact absurd units.symm (sign _ _)
    | negSucc l =>
      have digits := decimal_injective (List.cons.inj units).2
      exact congrArg Int.negSucc (by omega)

theorem Str.ofInt_inj : Str.ofInt m = Str.ofInt n ↔ m = n := Str.ofInt_injective.eq_iff

/-- `String::compare` of the core library. The code only uses that it is a total order, so the
model takes the order as a parameter; `shortlex` and `lexicographic` are the two orders on code
units that the library has documented. -/
class StrOrder where
  compare : Str → Str → Ordering
  trans : Std.TransCmp compare
  lawful : Std.LawfulEqCmp compare

namespace StrOrder

attribute [instance] StrOrder.trans StrOrder.lawful

/-- Shorter strings first, strings of one length by their first different code unit. -/
@[reducible] def shortlex : StrOrder where
  compare := compareLex (compareOn fun s : Str => s.units.length) (compareOn fun s : Str => s.units)
  trans := inferInstance
  lawful := ⟨by
    intro s t same
    have units := (compareLex_eq_eq.mp same).2
    exact Str.ext (eq_of_compare units)⟩

variable [StrOrder]

theorem swapped (s t : Str) : compare s t = (compare t s).swap := Std.OrientedCmp.eq_swap

instance : LinearOrder Str where
  le s t := compare s t ≠ .gt
  lt s t := compare s t = .lt
  le_refl s := by simp [Std.ReflCmp.compare_self]
  le_trans s t u := by
    simp only [ne_eq, ← Ordering.isLE_iff_ne_gt]
    exact Std.TransCmp.isLE_trans
  lt_iff_le_not_ge s t := by
    rw [swapped t s]
    cases compare s t <;> simp
  le_antisymm s t below above := by
    rw [swapped t s] at above
    cases order : compare s t with
    | eq => exact eq_of_compare order
    | lt => simp [order] at above
    | gt => exact absurd order below
  le_total s t := by
    rw [swapped t s]
    cases compare s t <;> simp
  toDecidableLE s t := inferInstanceAs (Decidable (compare s t ≠ .gt))
  toDecidableLT s t := inferInstanceAs (Decidable (compare s t = .lt))
  toDecidableEq := inferInstance
  compare := compare
  compare_eq_compareOfLessAndEq s t := by
    unfold compareOfLessAndEq
    split
    · assumption
    · rename_i notBelow
      split
      · rename_i same
        rw [same]
        exact Std.ReflCmp.compare_self
      · rename_i different
        cases order : compare s t with
        | lt => exact absurd order notBelow
        | eq => exact absurd (eq_of_compare order) different
        | gt => rfl

end StrOrder

namespace Shortlex

attribute [scoped instance] StrOrder.shortlex

end Shortlex

end ConvergeAudit.Moon
