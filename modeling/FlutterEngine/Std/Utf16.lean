import Mathlib.Algebra.Order.Ring.Int
import Mathlib.Data.List.Basic

/-!
# UTF-16

A `Char` is a Unicode scalar value, so a well-formed text is the encoding of a list of
them. A boundary of the text is the length of an encoded prefix.
-/

namespace FlutterEngine.Std.Utf16

/-- A high surrogate, the first of a pair. -/
def isHighSurrogate (unit : UInt16) : Bool := 0xD800 ≤ unit.toNat && unit.toNat ≤ 0xDBFF

/-- A low surrogate, the second of a pair. -/
def isLowSurrogate (unit : UInt16) : Bool := 0xDC00 ≤ unit.toNat && unit.toNat ≤ 0xDFFF

/-- The code point of a surrogate pair. -/
def combine (high low : UInt16) : Nat :=
  (high.toNat - 0xD800) * 0x400 + (low.toNat - 0xDC00) + 0x10000

/-- The code units of a code point. -/
def encodeChar (char : Char) : List UInt16 :=
  if char.toNat < 0x10000 then [.ofNat char.toNat]
  else
    [.ofNat (0xD800 + (char.toNat - 0x10000) / 0x400),
      .ofNat (0xDC00 + (char.toNat - 0x10000) % 0x400)]

def encode (text : List Char) : List UInt16 := text.flatMap encodeChar

/-- How many code units a code point takes. -/
def width (char : Char) : Nat := if char.toNat < 0x10000 then 1 else 2

/-- How many code units a text takes. -/
def units (text : List Char) : Nat := (text.map width).sum

theorem width_eq (char : Char) :
    width char = 1 ∧ char.toNat < 0x10000 ∨ width char = 2 ∧ 0x10000 ≤ char.toNat := by
  unfold width
  split <;> omega

theorem width_pos (char : Char) : 0 < width char := by
  have := width_eq char
  omega

/-- A code point of the basic plane is its only unit, which is no surrogate. -/
theorem encodeChar_basic {char : Char} (basic : char.toNat < 0x10000) :
    ∃ unit, encodeChar char = [unit] ∧ unit.toNat = char.toNat ∧
      isHighSurrogate unit = false ∧ isLowSurrogate unit = false := by
  have same : (UInt16.ofNat char.toNat).toNat = char.toNat := UInt16.toNat_ofNat_of_lt' basic
  have valid := char.valid
  have value : char.val.toNat = char.toNat := rfl
  refine ⟨.ofNat char.toNat, if_pos basic, same, ?_, ?_⟩
  · rw [isHighSurrogate, same, Bool.and_eq_false_iff, decide_eq_false_iff_not,
      decide_eq_false_iff_not]
    rcases valid with low | ⟨above, -⟩ <;> omega
  · rw [isLowSurrogate, same, Bool.and_eq_false_iff, decide_eq_false_iff_not,
      decide_eq_false_iff_not]
    rcases valid with low | ⟨above, -⟩ <;> omega

/-- A supplementary code point is a surrogate pair. -/
theorem encodeChar_supplementary {char : Char} (supplementary : 0x10000 ≤ char.toNat) :
    ∃ high low, encodeChar char = [high, low] ∧ combine high low = char.toNat ∧
      isHighSurrogate high = true ∧ isLowSurrogate low = true := by
  have most : char.toNat < 0x110000 := by
    have value : char.val.toNat = char.toNat := rfl
    rcases char.valid with low | ⟨-, most⟩ <;> omega
  have high : (UInt16.ofNat (0xD800 + (char.toNat - 0x10000) / 0x400)).toNat =
      0xD800 + (char.toNat - 0x10000) / 0x400 := UInt16.toNat_ofNat_of_lt' (by
    have size : UInt16.size = 65536 := rfl
    omega)
  have low : (UInt16.ofNat (0xDC00 + (char.toNat - 0x10000) % 0x400)).toNat =
      0xDC00 + (char.toNat - 0x10000) % 0x400 := UInt16.toNat_ofNat_of_lt' (by
    have size : UInt16.size = 65536 := rfl
    omega)
  refine ⟨_, _, if_neg (by omega), ?_, ?_, ?_⟩
  · rw [combine, high, low]
    omega
  · rw [isHighSurrogate, high, Bool.and_eq_true, decide_eq_true_iff, decide_eq_true_iff]
    omega
  · rw [isLowSurrogate, low, Bool.and_eq_true, decide_eq_true_iff, decide_eq_true_iff]
    omega

@[simp] theorem encode_nil : encode [] = [] := rfl

@[simp] theorem encode_cons (char : Char) (rest : List Char) :
    encode (char :: rest) = encodeChar char ++ encode rest := rfl

@[simp] theorem encode_append (left right : List Char) :
    encode (left ++ right) = encode left ++ encode right := List.flatMap_append

@[simp] theorem units_nil : units [] = 0 := rfl

@[simp] theorem units_cons (char : Char) (rest : List Char) :
    units (char :: rest) = width char + units rest := by simp [units]

@[simp] theorem units_append (left right : List Char) :
    units (left ++ right) = units left + units right := by simp [units]

@[simp] theorem units_reverse (text : List Char) : units text.reverse = units text := by
  simp [units, List.sum_reverse]

@[simp] theorem length_encodeChar (char : Char) : (encodeChar char).length = width char := by
  unfold encodeChar width
  split <;> rfl

@[simp] theorem length_encode (text : List Char) : (encode text).length = units text := by
  induction text with
  | nil => rfl
  | cons char rest ih => rw [encode_cons, List.length_append, length_encodeChar, ih, units_cons]

/-- A text of code points takes no unit only when it is empty. -/
theorem units_eq_zero {text : List Char} : units text = 0 ↔ text = [] := by
  cases text with
  | nil => simp
  | cons char rest =>
    have := width_pos char
    simp
    omega

/-- What stands from a boundary on. -/
theorem encode_getElem? (before after : List Char) (char : Char) (index : Nat) :
    (encode (before ++ char :: after))[units before + index]? =
      (encodeChar char ++ encode after)[index]? := by
  rw [encode_append, encode_cons, ← length_encode, List.getElem?_append_right (Nat.le_add_right ..),
    Nat.add_sub_cancel_left]

/-- The place between two code points of a text. -/
def IsBoundary (text : List Char) (offset : Int) : Prop :=
  ∃ before after, text = before ++ after ∧ offset = units before

end FlutterEngine.Std.Utf16
