import Mathlib.Data.Int.Notation
import Mathlib.Tactic.NormNum

/-!
The result of every operation on `Int` goes through `wrap`: the identity when integers are read as unbounded,
reduction to 32 bits for the machine type.
-/

namespace ConvergeAudit.Moon

structure Arithmetic where
  wrap : ℤ → ℤ

namespace Arithmetic

def unbounded : Arithmetic := ⟨id⟩

def int32 : Arithmetic := ⟨fun n => n.bmod (2 ^ 32)⟩

section
variable (arith : Arithmetic) (a b : ℤ)

def add : ℤ := arith.wrap (a + b)

def sub : ℤ := arith.wrap (a - b)

def mul : ℤ := arith.wrap (a * b)

end

def neg (arith : Arithmetic) (a : ℤ) : ℤ := arith.wrap (-a)

@[simp] theorem unbounded_add (a b : ℤ) : unbounded.add a b = a + b := by
  simp only [add, unbounded, id]

@[simp] theorem unbounded_sub (a b : ℤ) : unbounded.sub a b = a - b := by
  simp only [sub, unbounded, id]

@[simp] theorem unbounded_mul (a b : ℤ) : unbounded.mul a b = a * b := by
  simp only [mul, unbounded, id]

@[simp] theorem unbounded_neg : unbounded.neg a = -a := by
  simp only [neg, unbounded, id]

theorem int32_wrap_eq (low : -2 ^ 31 ≤ n) (high : n < 2 ^ 31) : int32.wrap n = n := by
  refine Int.bmod_eq_of_le ?_ ?_ <;> norm_num <;> omega

end Arithmetic

/-- The values of the machine type. -/
def IsInt32 (n : ℤ) : Prop := -2 ^ 31 ≤ n ∧ n < 2 ^ 31
  deriving Decidable

namespace Arithmetic

/-- Keeps every result that the machine type can hold. What it makes of other results is left open. -/
def ExactInt32 (arith : Arithmetic) : Prop := ∀ n, IsInt32 n → arith.wrap n = n

theorem exactInt32_int32 : int32.ExactInt32 := fun _ fits => int32_wrap_eq fits.1 fits.2

section
variable {arith : Arithmetic} (exact : arith.ExactInt32)
include exact

theorem ExactInt32.add (fits : IsInt32 (a + b)) : arith.add a b = a + b := exact _ fits

theorem ExactInt32.sub (fits : IsInt32 (a - b)) : arith.sub a b = a - b := exact _ fits

theorem ExactInt32.mul (fits : IsInt32 (a * b)) : arith.mul a b = a * b := exact _ fits

theorem ExactInt32.neg (fits : IsInt32 (-a)) : arith.neg a = -a := exact _ fits

end

theorem int32_add_eq (fits : IsInt32 (a + b)) : int32.add a b = a + b := int32_wrap_eq fits.1 fits.2

end Arithmetic

end ConvergeAudit.Moon
