import Mathlib.Tactic.Positivity

/-!
# Signed integers of a fixed width

Two's complement integers as whole numbers between two limits. Arithmetic is checked: what
is out of range is no integer of the type.
-/

namespace FlutterEngine.Std

/-- The integers with this many bits besides the sign. -/
abbrev SignedInt (bits : Nat) : Type := {value : Int // -2 ^ bits ≤ value ∧ value < 2 ^ bits}

namespace SignedInt

variable {bits : Nat}

/-- The limits are on different sides of 0. -/
theorem limit_pos (bits : Nat) : (0 : Int) < 2 ^ bits := by positivity

def lowest : SignedInt bits := ⟨-2 ^ bits, by have := limit_pos bits; omega⟩

def highest : SignedInt bits := ⟨2 ^ bits - 1, by have := limit_pos bits; omega⟩

/-- The whole number, unless it is out of range. -/
def checked (value : Int) : Option (SignedInt bits) :=
  if inRange : -2 ^ bits ≤ value ∧ value < 2 ^ bits then some ⟨value, inRange⟩ else none

def add? (first second : SignedInt bits) : Option (SignedInt bits) :=
  checked (first.1 + second.1)

def sub? (first second : SignedInt bits) : Option (SignedInt bits) :=
  checked (first.1 - second.1)

/-- The whole number, or the limit that it is beyond. -/
def clamp (value : Int) : SignedInt bits :=
  ⟨max (-2 ^ bits) (min (2 ^ bits - 1) value), by have := limit_pos bits; omega⟩

variable {value : Int}

theorem checked_of_inRange (inRange : -2 ^ bits ≤ value ∧ value < 2 ^ bits) :
    (checked value : Option (SignedInt bits)) = some ⟨value, inRange⟩ := dif_pos inRange

/-- What is in range is not clamped. -/
theorem checked_eq_clamp (inRange : -2 ^ bits ≤ value ∧ value < 2 ^ bits) :
    (checked value : Option (SignedInt bits)) = some (clamp value) := by
  rw [checked_of_inRange inRange, Option.some.injEq, clamp, Subtype.mk.injEq]
  omega

theorem clamp_of_lt (below : value < -2 ^ bits) : (clamp value : SignedInt bits) = lowest := by
  have positive := limit_pos bits
  rw [clamp, lowest, Subtype.mk.injEq]
  omega

theorem clamp_of_ge (above : 2 ^ bits ≤ value) : (clamp value : SignedInt bits) = highest := by
  have positive := limit_pos bits
  rw [clamp, highest, Subtype.mk.injEq]
  omega

end SignedInt

end FlutterEngine.Std
