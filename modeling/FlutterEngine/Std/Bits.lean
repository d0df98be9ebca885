import Mathlib.Algebra.Order.Ring.Nat
import Mathlib.Data.Nat.Bitwise

/-!
# Bits of numbers

Masks and disjoint unions of bits as arithmetic.
-/

namespace FlutterEngine.Std

namespace Bits

variable {lower width shift : Nat}

/-- Where the bits do not overlap, their union is the sum. -/
theorem or_shiftLeft (upper : Nat) (fits : lower < 2 ^ width) :
    lower ||| upper <<< width = lower + upper * 2 ^ width := by
  rw [Nat.or_comm, ← Nat.shiftLeft_add_eq_or_of_lt fits, Nat.shiftLeft_eq, Nat.add_comm]

theorem shiftLeft_or (upper : Nat) (fits : lower < 2 ^ width) :
    upper <<< width ||| lower = upper * 2 ^ width + lower := by
  rw [← Nat.shiftLeft_add_eq_or_of_lt fits, Nat.shiftLeft_eq]

theorem mask (number width : Nat) : number &&& (2 ^ width - 1) = number % 2 ^ width :=
  Nat.and_two_pow_sub_one_eq_mod number width

/-- What a mask leaves of bits moved up, with bits below them. -/
theorem shiftLeft_mask_or (upper width : Nat) (fits : lower < 2 ^ shift) :
    (upper <<< shift &&& (2 ^ (shift + width) - 1)) ||| lower =
      upper % 2 ^ width * 2 ^ shift + lower := by
  rw [mask, Nat.shiftLeft_eq, Nat.mul_comm, Nat.pow_add, Nat.mul_mod_mul_left, Nat.mul_comm,
    ← Nat.shiftLeft_eq, shiftLeft_or _ fits, Nat.shiftLeft_eq]

/-- The upper bits of a number. -/
theorem upperMask_eq_iff {number : Nat} (fits : number < 2 ^ (shift + width)) (upper : Nat) :
    number &&& ((2 ^ width - 1) <<< shift) = upper <<< shift ↔ number / 2 ^ shift = upper := by
  have high : (number &&& ((2 ^ width - 1) <<< shift)) >>> shift = number / 2 ^ shift := by
    rw [Nat.shiftRight_and_distrib, Nat.shiftLeft_shiftRight, mask, Nat.shiftRight_eq_div_pow]
    refine Nat.mod_eq_of_lt (Nat.div_lt_of_lt_mul ?_)
    rwa [← Nat.pow_add]
  have low : (number &&& ((2 ^ width - 1) <<< shift)) % 2 ^ shift = 0 := by
    rw [Nat.and_mod_two_pow, Nat.shiftLeft_eq, Nat.mul_mod_left]
    exact Nat.and_zero _
  have whole := Nat.div_add_mod (number &&& ((2 ^ width - 1) <<< shift)) (2 ^ shift)
  rw [Nat.shiftRight_eq_div_pow] at high
  rw [low, high, Nat.add_zero, Nat.mul_comm, ← Nat.shiftLeft_eq] at whole
  rw [← whole, Nat.shiftLeft_eq, Nat.shiftLeft_eq]
  exact Nat.mul_left_inj (Nat.two_pow_pos shift).ne'

end Bits

end FlutterEngine.Std
