import FlutterEngine.Std.Utf16
import FlutterEngine.Std.Bits

/-!
# Code points of a Dart string

`unicode_range.dart`. A string is its code units. The cache of a lookup is left out: it holds
what the search has found before.
-/

namespace FlutterEngine.WebText

/-- A Dart `String`. -/
abbrev DartString := List UInt16

def isUtf16Surrogate (char : UInt16) : Bool := char &&& 0xF800 = 0xD800

def combineSurrogatePair (hi lo : UInt16) : Nat :=
  let x := (hi.toNat &&& 63) <<< 10 ||| (lo.toNat &&& 1023)
  let w := (hi.toNat >>> 6) &&& 31
  (w + 1) <<< 16 ||| x

/-- The code point that begins at an index, none outside the text. -/
def getCodePoint (text : DartString) (index : Nat) : Option Nat :=
  match text.drop index with
  | [] => none
  | [char] => some char.toNat
  | char :: next :: _ =>
    if isUtf16Surrogate char then some (combineSurrogatePair char next) else some char.toNat

/-- `start` and `stop` included. -/
structure UnicodeRange (Property : Type) where
  start : Nat
  stop : Nat
  property : Property

/-- `UnicodePropertyLookup`. -/
structure UnicodePropertyLookup (Property : Type) where
  ranges : List (UnicodeRange Property)
  defaultProperty : Property

namespace UnicodePropertyLookup

variable {Property : Type} (lookup : UnicodePropertyLookup Property)

/-- The loop of `_binarySearch`. Each round leaves fewer ranges, so one round for each is enough. -/
def binarySearch (value : Nat) : Nat → Nat → Nat → Option (UnicodeRange Property)
  | 0, _, _ => none
  | rounds + 1, min, max =>
    if min < max then
      let mid := min + (max - min) / 2
      match lookup.ranges[mid]? with
      | none => none
      | some range =>
        if value < range.start then binarySearch value rounds min mid
        else if range.stop < value then binarySearch value rounds (mid + 1) max
        else some range
    else none

def findForChar : Option Nat → Property
  | none => lookup.defaultProperty
  | some char =>
    match lookup.binarySearch char lookup.ranges.length 0 lookup.ranges.length with
    | none => lookup.defaultProperty
    | some range => range.property

theorem mem_of_binarySearch {value rounds min max : Nat} {range : UnicodeRange Property}
    (found : lookup.binarySearch value rounds min max = some range) :
    range ∈ lookup.ranges ∧ range.start ≤ value ∧ value ≤ range.stop := by
  induction rounds generalizing min max with
  | zero => cases found
  | succ rounds ih =>
    unfold binarySearch at found
    split at found
    · dsimp only at found
      split at found
      · cases found
      · next known at_mid =>
          split at found
          · exact ih found
          · split at found
            · exact ih found
            · next begins ends =>
                cases found
                exact ⟨List.mem_of_getElem? at_mid, not_lt.mp begins, not_lt.mp ends⟩
    · cases found

/-- A code point in none of the ranges has the default property. -/
theorem findForChar_eq_default {char : Nat}
    (outside : ∀ range ∈ lookup.ranges, ¬ (range.start ≤ char ∧ char ≤ range.stop)) :
    lookup.findForChar (some char) = lookup.defaultProperty := by
  unfold findForChar
  dsimp only
  cases found : lookup.binarySearch char lookup.ranges.length 0 lookup.ranges.length with
  | none => rfl
  | some range =>
    obtain ⟨mem, within⟩ := lookup.mem_of_binarySearch found
    exact absurd within (outside range mem)

end UnicodePropertyLookup

/-! ## Surrogates -/

open FlutterEngine.Std.Utf16

theorem le_combineSurrogatePair (hi lo : UInt16) : 0x10000 ≤ combineSurrogatePair hi lo := by
  unfold combineSurrogatePair
  refine le_trans ?_ Nat.left_le_or
  rw [Nat.shiftLeft_eq]
  omega

/-- The five upper bits of a surrogate. -/
theorem isUtf16Surrogate_iff_upper (char : UInt16) :
    isUtf16Surrogate char = true ↔ char.toNat / 2 ^ 11 = 27 := by
  rw [isUtf16Surrogate, decide_eq_true_iff, ← UInt16.toNat_inj, UInt16.toNat_and]
  exact Std.Bits.upperMask_eq_iff (show char.toNat < 2 ^ (11 + 5) from char.toNat_lt) 27

theorem isUtf16Surrogate_iff (char : UInt16) :
    isUtf16Surrogate char = true ↔ isHighSurrogate char = true ∨ isLowSurrogate char = true := by
  rw [isUtf16Surrogate_iff_upper, isHighSurrogate, isLowSurrogate, Bool.and_eq_true,
    Bool.and_eq_true]
  simp only [decide_eq_true_iff]
  omega

variable {text : DartString} {index : Nat} {char : UInt16}

/-- A surrogate that is not the last unit is combined with the next one, even if they are no
pair. -/
theorem getCodePoint_surrogate
    (at_index : text[index]? = some char) (surrogate : isUtf16Surrogate char = true) :
    ∃ codePoint, getCodePoint text index = some codePoint ∧
      (0x10000 ≤ codePoint ∨ codePoint = char.toNat ∧ text.length = index + 1) := by
  have drop : text.drop index = char :: text.drop (index + 1) :=
    List.drop_eq_getElem?_toList_append.trans (by rw [at_index]; rfl)
  unfold getCodePoint
  rw [drop]
  cases rest : text.drop (index + 1) with
  | nil =>
    have within := (List.getElem?_eq_some_iff.mp at_index).1
    exact ⟨_, rfl, .inr ⟨rfl, le_antisymm (List.drop_eq_nil_iff.mp rest) within⟩⟩
  | cons next later =>
    dsimp only
    rw [if_pos surrogate]
    exact ⟨_, rfl, .inl (le_combineSurrogatePair char next)⟩

/-- The code point at a unit that is no surrogate. -/
theorem getCodePoint_basic
    (at_index : text[index]? = some char) (basic : isUtf16Surrogate char = false) :
    getCodePoint text index = some char.toNat := by
  have drop : text.drop index = char :: text.drop (index + 1) :=
    List.drop_eq_getElem?_toList_append.trans (by rw [at_index]; rfl)
  unfold getCodePoint
  rw [drop]
  cases text.drop (index + 1) with
  | nil => rfl
  | cons next later =>
    dsimp only
    rw [basic]
    exact if_neg Bool.false_ne_true

/-! ## Well-formed text -/

/-- The code point that begins at a boundary. -/
theorem getCodePoint_encode (before after : List Char) (char : Char) :
    ∃ codePoint, getCodePoint (encode (before ++ char :: after)) (units before) = some codePoint ∧
      (0xFFFF < codePoint ↔ width char = 2) := by
  have at_index : (encode (before ++ char :: after))[units before]? =
      (encodeChar char ++ encode after)[0]? := encode_getElem? before after char 0
  obtain ⟨width_eq, basic⟩ | ⟨width_eq, supplementary⟩ := width_eq char
  · obtain ⟨unit, units_eq, value, high, low⟩ := encodeChar_basic basic
    have basic_unit : isUtf16Surrogate unit = false := by
      refine (Bool.not_eq_true _).mp fun surrogate => ?_
      rw [isUtf16Surrogate_iff, high, low] at surrogate
      exact surrogate.elim Bool.false_ne_true Bool.false_ne_true
    rw [units_eq] at at_index
    refine ⟨_, getCodePoint_basic at_index basic_unit, ?_⟩
    omega
  · obtain ⟨high, low, units_eq, -, is_high, -⟩ := encodeChar_supplementary supplementary
    rw [units_eq] at at_index
    obtain ⟨codePoint, found, combined | ⟨-, last⟩⟩ :=
      getCodePoint_surrogate at_index ((isUtf16Surrogate_iff high).mpr (.inl is_high))
    · exact ⟨codePoint, found, iff_of_true (by omega) width_eq⟩
    · rw [length_encode, units_append, units_cons] at last
      omega

/-- A place in a text is a boundary, or it lies inside a surrogate pair. -/
theorem isBoundary_or_inside {chars : List Char} (within : index ≤ units chars) :
    IsBoundary chars index ∨ ∃ before high low, index = before + 1 ∧
      (encode chars)[before]? = some high ∧ (encode chars)[before + 1]? = some low ∧
        isHighSurrogate high = true ∧ isLowSurrogate low = true := by
  induction chars generalizing index with
  | nil =>
    refine .inl ⟨[], [], rfl, ?_⟩
    rw [Nat.le_zero.mp within]
    rfl
  | cons char chars ih =>
    rw [units_cons] at within
    by_cases later : width char ≤ index
    · have shift : ∀ place, (encode (char :: chars))[width char + place]? =
          (encode chars)[place]? := by
        intro place
        rw [encode_cons, ← length_encodeChar, List.getElem?_append_right (Nat.le_add_right ..),
          Nat.add_sub_cancel_left]
      obtain ⟨rest, rfl⟩ := Nat.exists_eq_add_of_le later
      obtain ⟨before, after, rfl, boundary⟩ | ⟨before, high, low, rfl, at_high, at_low, pair⟩ :=
        ih (Nat.add_le_add_iff_left.mp within)
      · refine .inl ⟨char :: before, after, rfl, ?_⟩
        rw [units_cons, Int.natCast_add, boundary, Int.natCast_add]
      · refine .inr ⟨width char + before, high, low, by omega, ?_, ?_, pair⟩
        · rw [shift, at_high]
        · rw [Nat.add_assoc, shift, at_low]
    · obtain ⟨width_eq, -⟩ | ⟨width_eq, supplementary⟩ := width_eq char
      · have zero : index = 0 := by omega
        exact .inl ⟨[], char :: chars, rfl, by rw [zero]; rfl⟩
      · obtain ⟨high, low, units_eq, -, pair⟩ := encodeChar_supplementary supplementary
        cases index with
        | zero => exact .inl ⟨[], char :: chars, rfl, rfl⟩
        | succ index =>
          have one : index = 0 := by omega
          subst one
          refine .inr ⟨0, high, low, rfl, ?_, ?_, pair⟩ <;> rw [encode_cons, units_eq] <;> rfl

end FlutterEngine.WebText
