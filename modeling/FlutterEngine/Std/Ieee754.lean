import Mathlib.Data.Nat.Log
import Mathlib.Tactic.Ring

/-!
# Floating-point numbers as their bits

The ordering of IEEE 754 binary interchange formats, read off the bits: the sign
and the magnitude bits make an integer that orders the numbers, the two zeros
meeting at 0, and magnitudes above that of infinity are not numbers.
-/

namespace FlutterEngine.Std.Ieee754

variable {width : Nat}

/-- The magnitude bits of infinity with this many exponent and fraction bits. -/
def infinity (exponentBits fractionBits : Nat) : Nat := (2 ^ exponentBits - 1) * 2 ^ fractionBits

/-- The magnitude bits of binary32's infinity. -/
def infinity32 : Nat := infinity 8 23

/-- The magnitude bits of binary64's infinity. -/
def infinity64 : Nat := infinity 11 52

def magnitude (bits : BitVec width) : Nat := bits.toNat % 2 ^ (width - 1)

def isNaN (infinity : Nat) (bits : BitVec width) : Bool := infinity < magnitude bits

/-- The integer that orders the numbers. -/
def key (bits : BitVec width) : Int := if bits.msb then -magnitude bits else magnitude bits

/-- Which number is less; `eq` also when one is not a number. -/
def cmp (infinity : Nat) (left right : BitVec width) : Ordering :=
  if isNaN infinity left || isNaN infinity right then .eq else compare (key left) (key right)

theorem cmp_swap (infinity : Nat) (left right : BitVec width) :
    (cmp infinity left right).swap = cmp infinity right left := by
  unfold cmp
  rw [Bool.or_comm]
  split
  · rfl
  · exact Std.OrientedOrd.eq_swap.symm

/-- `==`, which nothing that is not a number passes. -/
def equal (infinity : Nat) (left right : BitVec width) : Bool :=
  !isNaN infinity left && !isNaN infinity right && key left == key right

/-! ## Integers among the binary64 numbers -/

/-- A binary64 number as its bits. -/
abbrev Binary64 := BitVec 64

namespace Binary64

variable (bits : Binary64)

def negativeZero : Binary64 := BitVec.ofNat 64 (2 ^ 63)

def exponent : Nat := magnitude bits / 2 ^ 52

/-- The fraction bits below the implied leading one of a normal number. -/
def significand : Nat := 2 ^ 52 + magnitude bits % 2 ^ 52

def signed (value : Nat) : Int := if bits.msb then -value else value

/-- The integer the number is, if it is one; both zeros are 0. -/
def toInt? : Option Int :=
  -- Below one.
  if exponent bits < 1023 then if magnitude bits = 0 then some 0 else none
  else if exponent bits < 1075 then
    if significand bits % 2 ^ (1075 - exponent bits) = 0 then
      some (signed bits (significand bits / 2 ^ (1075 - exponent bits)))
    else none
  -- Infinite, or not a number.
  else if exponent bits = 2047 then none
  else some (signed bits (significand bits * 2 ^ (exponent bits - 1075)))

/-- The greatest integer below which all integers are numbers. -/
def maxSafeInteger : Int := 2 ^ 53 - 1

def IsSafe (value : Int) : Prop := -maxSafeInteger ≤ value ∧ value ≤ maxSafeInteger

instance (value : Int) : Decidable (IsSafe value) := inferInstanceAs (Decidable (_ ∧ _))

/-- The magnitude bits of a positive integer of at most 53 bits. -/
def magnitudeOfNat (value : Nat) : Nat :=
  (Nat.log 2 value + 1023) * 2 ^ 52 + (value * 2 ^ (52 - Nat.log 2 value) - 2 ^ 52)

/-- The number that is this safe integer. -/
def ofInt (value : Int) : Binary64 :=
  if value = 0 then 0
  else BitVec.ofNat 64 ((if value < 0 then 2 ^ 63 else 0) + magnitudeOfNat value.natAbs)

/-! ### Safe integers are written as themselves -/

theorem toNat_eq : bits.toNat = (if bits.msb then 2 ^ 63 else 0) + magnitude bits := by
  have bound := bits.isLt
  have sign := BitVec.msb_eq_decide bits
  unfold magnitude
  split
  · have high : 2 ^ 63 ≤ bits.toNat := by simp_all
    omega
  · have low : bits.toNat < 2 ^ 63 := by simp_all
    omega

theorem magnitude_lt : magnitude bits < 2 ^ 63 := Nat.mod_lt _ (by decide)

theorem le_significand : 2 ^ 52 ≤ significand bits := Nat.le_add_right _ _

theorem significand_lt : significand bits < 2 ^ 53 := by
  have low := Nat.mod_lt (magnitude bits) (by decide : 2 ^ 52 > 0)
  unfold significand
  omega

theorem magnitude_eq : magnitude bits = exponent bits * 2 ^ 52 + (significand bits - 2 ^ 52) := by
  have split := Nat.div_add_mod (magnitude bits) (2 ^ 52)
  unfold exponent significand
  omega

/-- How far an integer is shifted to become a significand fixes its logarithm. -/
theorem log_of_shifted {value shift : Nat} (within : shift ≤ 52)
    (lower : 2 ^ 52 ≤ value * 2 ^ shift) (upper : value * 2 ^ shift < 2 ^ 53) :
    Nat.log 2 value = 52 - shift := by
  have positive : 0 < 2 ^ shift := Nat.two_pow_pos shift
  have scale : ∀ power, 2 ^ (power - shift + shift) = 2 ^ (power - shift) * 2 ^ shift :=
    fun power => Nat.pow_add 2 (power - shift) shift
  refine Nat.log_eq_of_pow_le_of_lt_pow ?_ ?_
  · refine Nat.le_of_mul_le_mul_right (c := 2 ^ shift) ?_ positive
    rw [← scale, Nat.sub_add_cancel within]
    exact lower
  · refine Nat.lt_of_mul_lt_mul_right (a := 2 ^ shift) ?_
    rw [← Nat.sub_add_comm within, ← scale, Nat.sub_add_cancel (by omega)]
    exact upper

theorem shifted_of_lt {value : Nat} (positive : 0 < value) (bound : value < 2 ^ 53) :
    Nat.log 2 value ≤ 52 ∧ 2 ^ 52 ≤ value * 2 ^ (52 - Nat.log 2 value) ∧
      value * 2 ^ (52 - Nat.log 2 value) < 2 ^ 53 := by
  have small : Nat.log 2 value ≤ 52 := Nat.lt_succ_iff.mp (Nat.log_lt_of_lt_pow (by omega) bound)
  have lower := Nat.pow_log_le_self 2 (by omega : value ≠ 0)
  have upper := Nat.lt_pow_succ_log_self Nat.one_lt_two value
  have scale : ∀ power, Nat.log 2 value ≤ power →
      2 ^ (power - Nat.log 2 value) * 2 ^ Nat.log 2 value = 2 ^ power := fun power more => by
    rw [← Nat.pow_add, Nat.sub_add_cancel more]
  refine ⟨small, ?_, ?_⟩
  · calc 2 ^ 52 = 2 ^ (52 - Nat.log 2 value) * 2 ^ Nat.log 2 value := (scale 52 small).symm
      _ ≤ 2 ^ (52 - Nat.log 2 value) * value := Nat.mul_le_mul_left _ lower
      _ = value * 2 ^ (52 - Nat.log 2 value) := Nat.mul_comm _ _
  · calc value * 2 ^ (52 - Nat.log 2 value)
        < 2 ^ (Nat.log 2 value + 1) * 2 ^ (52 - Nat.log 2 value) :=
          Nat.mul_lt_mul_of_pos_right upper (Nat.two_pow_pos _)
      _ = 2 ^ 53 := by rw [← Nat.pow_add]; congr 1; omega

theorem magnitudeOfNat_lt {value : Nat} (positive : 0 < value) (bound : value < 2 ^ 53) :
    magnitudeOfNat value < 2 ^ 63 := by
  obtain ⟨small, lower, upper⟩ := shifted_of_lt positive bound
  unfold magnitudeOfNat
  omega

theorem magnitudeOfNat_of_shifted {value : Nat} (shift : Nat) (within : shift ≤ 52)
    (lower : 2 ^ 52 ≤ value * 2 ^ shift) (upper : value * 2 ^ shift < 2 ^ 53) :
    magnitudeOfNat value = (1075 - shift) * 2 ^ 52 + (value * 2 ^ shift - 2 ^ 52) := by
  have exponent : 52 - shift + 1023 = 1075 - shift := by omega
  unfold magnitudeOfNat
  rw [log_of_shifted within lower upper, Nat.sub_sub_self within, exponent]

/-- The magnitude bits of a number that is a safe integer other than 0. -/
theorem magnitude_of_toInt? {value : Int} (integer : toInt? bits = some value) (safe : IsSafe value)
    (positive : magnitude bits ≠ 0) :
    value = signed bits value.natAbs ∧ 0 < value.natAbs ∧
      magnitude bits = magnitudeOfNat value.natAbs := by
  have lower := le_significand bits
  have upper := significand_lt bits
  have absolute : ∀ natural, (signed bits natural).natAbs = natural := by
    intro natural
    unfold signed
    split <;> simp
  unfold toInt? at integer
  split at integer
  · cases integer
  rename_i notBelow
  split at integer
  · rename_i fractional
    split at integer <;> cases integer
    rename_i whole
    have shifted := Nat.div_mul_cancel (Nat.dvd_of_mod_eq_zero whole)
    rw [absolute]
    refine ⟨rfl, Nat.pos_of_ne_zero fun zero => ?_, ?_⟩
    · rw [zero, Nat.zero_mul] at shifted
      omega
    · rw [magnitudeOfNat_of_shifted (1075 - exponent bits) (by omega) (by omega) (by omega),
        shifted, magnitude_eq]
      omega
  · split at integer <;> cases integer
    rw [absolute]
    have bound : significand bits * 2 ^ (exponent bits - 1075) < 2 ^ 53 := by
      have natAbs := absolute (significand bits * 2 ^ (exponent bits - 1075))
      unfold IsSafe maxSafeInteger at safe
      omega
    have least : exponent bits = 1075 := by
      by_contra other
      have two : 2 ^ 1 ≤ 2 ^ (exponent bits - 1075) := Nat.pow_le_pow_right (by decide) (by omega)
      have twice := Nat.mul_le_mul_left (significand bits) two
      omega
    rw [least, Nat.sub_self, Nat.pow_zero, Nat.mul_one]
    refine ⟨rfl, by omega, ?_⟩
    rw [magnitudeOfNat_of_shifted 0 (by omega) (by omega) (by omega), magnitude_eq, least]
    omega

/-- A number that is a safe integer, other than negative zero, is the number of this integer. -/
theorem ofInt_of_toInt? {value : Int} (integer : toInt? bits = some value) (safe : IsSafe value)
    (notNegativeZero : bits ≠ negativeZero) : ofInt value = bits := by
  have whole := toNat_eq bits
  refine BitVec.eq_of_toNat_eq ?_
  by_cases zero : magnitude bits = 0
  · have isZero : value = 0 := by simpa [toInt?, exponent, zero] using integer.symm
    have plus : bits.msb = false := by
      refine Bool.eq_false_iff.mpr fun minus => notNegativeZero (BitVec.eq_of_toNat_eq ?_)
      rw [whole, zero, minus]
      rfl
    rw [whole, zero, plus, isZero]
    rfl
  · obtain ⟨sign, positive, same⟩ := magnitude_of_toInt? bits integer safe zero
    have nonzero : value ≠ 0 := by omega
    have below := magnitude_lt bits
    have negative : value < 0 ↔ bits.msb = true := by
      unfold signed at sign
      by_cases minus : bits.msb = true
      · rw [if_pos minus] at sign
        exact iff_of_true (by omega) minus
      · rw [if_neg minus] at sign
        exact iff_of_false (by omega) minus
    rw [ofInt, if_neg nonzero, whole, same]
    rw [same] at below
    by_cases minus : bits.msb = true
    · rw [if_pos (negative.mpr minus), if_pos minus, BitVec.toNat_ofNat]
      omega
    · rw [if_neg (mt negative.mp minus), if_neg minus, BitVec.toNat_ofNat]
      omega

/-- The number of a safe integer is this integer. -/
theorem toInt?_ofInt {value : Int} (safe : IsSafe value) : toInt? (ofInt value) = some value := by
  by_cases zero : value = 0
  · rw [zero]
    decide
  have bound : value.natAbs < 2 ^ 53 := by
    unfold IsSafe maxSafeInteger at safe
    omega
  have positive : 0 < value.natAbs := Int.natAbs_pos.mpr zero
  obtain ⟨small, lower, upper⟩ := shifted_of_lt positive bound
  have fits := magnitudeOfNat_lt positive bound
  have natural : (ofInt value).toNat =
      (if value < 0 then 2 ^ 63 else 0) + magnitudeOfNat value.natAbs := by
    rw [ofInt, if_neg zero, BitVec.toNat_ofNat]
    split <;> omega
  have magnitude : magnitude (ofInt value) = magnitudeOfNat value.natAbs := by
    rw [Ieee754.magnitude, natural]
    split <;> omega
  have exponent : exponent (ofInt value) = Nat.log 2 value.natAbs + 1023 := by
    unfold Binary64.exponent
    rw [magnitude]
    unfold magnitudeOfNat
    omega
  have significand : significand (ofInt value) = value.natAbs * 2 ^ (52 - Nat.log 2 value.natAbs) := by
    unfold Binary64.significand
    rw [magnitude]
    unfold magnitudeOfNat
    omega
  have sign : signed (ofInt value) value.natAbs = value := by
    have msb : (ofInt value).msb = decide (value < 0) := by
      rw [BitVec.msb_eq_decide, natural]
      split <;> simp <;> omega
    unfold signed
    rw [msb]
    by_cases negative : value < 0
    · rw [if_pos (decide_eq_true negative)]
      omega
    · rw [if_neg (by simpa using negative)]
      omega
  rw [toInt?, exponent, significand, if_neg (by omega)]
  split
  · have shift : 1075 - (Nat.log 2 value.natAbs + 1023) = 52 - Nat.log 2 value.natAbs := by omega
    rw [shift, Nat.mul_mod_left, if_pos rfl, Nat.mul_div_cancel _ (Nat.two_pow_pos _), sign]
  · have most : Nat.log 2 value.natAbs = 52 := by omega
    rw [if_neg (by omega), most, Nat.sub_self, Nat.pow_zero, Nat.mul_one, Nat.mul_one, sign]

end Binary64

end FlutterEngine.Std.Ieee754
