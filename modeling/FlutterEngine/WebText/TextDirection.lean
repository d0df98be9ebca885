import FlutterEngine.Std.Tilings
import FlutterEngine.WebText.UnicodeRange

/-!
# Bidi fragments

`text_direction.dart`: maximal ranges of one direction.
-/

namespace FlutterEngine.WebText

open FlutterEngine.Std

inductive TextDirection where
  | rtl
  | ltr
deriving DecidableEq, Repr

inductive FragmentFlow where
  | ltr
  | rtl
  | previous
  | sandwich
deriving DecidableEq, Repr

structure BidiFragment where
  start : Nat
  stop : Nat
  textDirection : Option TextDirection
  fragmentFlow : FragmentFlow
deriving DecidableEq, Repr

instance : Ranged BidiFragment := ⟨BidiFragment.start, BidiFragment.stop⟩

/-- `_textDirectionLookup`. -/
def textDirectionLookup : UnicodePropertyLookup (Option TextDirection) where
  ranges :=
    [⟨65, 90, some .ltr⟩, ⟨97, 122, some .ltr⟩, ⟨0x00C0, 0x00D6, some .ltr⟩,
      ⟨0x00D8, 0x00F6, some .ltr⟩, ⟨0x00F8, 0x02B8, some .ltr⟩, ⟨0x0300, 0x0590, some .ltr⟩,
      ⟨0x0591, 0x06EF, some .rtl⟩, ⟨0x06FA, 0x08FF, some .rtl⟩, ⟨0x0900, 0x1FFF, some .ltr⟩,
      ⟨0x200E, 0x200E, some .ltr⟩, ⟨0x200F, 0x200F, some .rtl⟩, ⟨0x2C00, 0xD801, some .ltr⟩,
      ⟨0xD802, 0xD803, some .rtl⟩, ⟨0xD804, 0xD839, some .ltr⟩, ⟨0xD83A, 0xD83B, some .rtl⟩,
      ⟨0xD83C, 0xDBFF, some .ltr⟩, ⟨0xF900, 0xFB1C, some .ltr⟩, ⟨0xFB1D, 0xFDFF, some .rtl⟩,
      ⟨0xFE00, 0xFE6F, some .ltr⟩, ⟨0xFE70, 0xFEFC, some .rtl⟩, ⟨0xFEFD, 0xFFFF, some .ltr⟩]
  defaultProperty := none

def isDigit (codePoint : Nat) : Bool := 48 ≤ codePoint && codePoint ≤ 57

def isMashriqiDigit (codePoint : Nat) : Bool := 0x660 ≤ codePoint && codePoint ≤ 0x660 + 9

/-- `_getTextDirection`, called within the text. -/
def getTextDirection (text : DartString) (i : Nat) : Option TextDirection :=
  match getCodePoint text i with
  | none => none
  | some codePoint =>
    if isDigit codePoint || isMashriqiDigit codePoint then some .ltr
    else textDirectionLookup.findForChar (some codePoint)

/-- `_getFragmentFlow`, called within the text. -/
def getFragmentFlow (text : DartString) (i : Nat) : FragmentFlow :=
  match getCodePoint text i with
  | none => .sandwich
  | some codePoint =>
    if isDigit codePoint then .previous
    else if isMashriqiDigit codePoint then .rtl
    else
      match textDirectionLookup.findForChar (some codePoint) with
      | some .ltr => .ltr
      | some .rtl => .rtl
      | none => .sandwich

/-- The loop of `_computeBidiFragments` over that many more indices, and the last fragment. -/
def bidiFragmentsFrom (text : DartString) (fragmentStart : Nat)
    (textDirection : Option TextDirection) (fragmentFlow : FragmentFlow) (i : Nat) :
    Nat → List BidiFragment
  | 0 => [⟨fragmentStart, i, textDirection, fragmentFlow⟩]
  | more + 1 =>
    let charTextDirection := getTextDirection text i
    if charTextDirection ≠ textDirection then
      ⟨fragmentStart, i, textDirection, fragmentFlow⟩ ::
        bidiFragmentsFrom text i charTextDirection (getFragmentFlow text i) (i + 1) more
    else
      bidiFragmentsFrom text fragmentStart textDirection
        (if fragmentFlow = .previous then getFragmentFlow text i else fragmentFlow) (i + 1) more

/-- `_computeBidiFragments`. -/
def computeBidiFragments (text : DartString) : List BidiFragment :=
  if text.isEmpty then [⟨0, 0, none, .previous⟩]
  else
    bidiFragmentsFrom text 0 (getTextDirection text 0) (getFragmentFlow text 0) 1
      (text.length - 1)

/-! ## Tiling -/

variable {text : DartString}

theorem bidiFragmentsFrom_ne_nil (fragmentStart : Nat) (textDirection : Option TextDirection)
    (fragmentFlow : FragmentFlow) (i more : Nat) :
    bidiFragmentsFrom text fragmentStart textDirection fragmentFlow i more ≠ [] := by
  induction more generalizing fragmentStart textDirection fragmentFlow i with
  | zero => exact List.cons_ne_nil _ _
  | succ more ih =>
    unfold bidiFragmentsFrom
    dsimp only
    split
    · exact List.cons_ne_nil _ _
    · exact ih _ _ _ _

variable {fragmentStart i : Nat} {fragment : BidiFragment}

/-- The fragments that are still to come, none of them empty. -/
theorem tiles_bidiFragmentsFrom (text : DartString) (begun : fragmentStart < i)
    (textDirection : Option TextDirection) (fragmentFlow : FragmentFlow) (more : Nat) :
    Tiles fragmentStart (i + more)
        (bidiFragmentsFrom text fragmentStart textDirection fragmentFlow i more) ∧
      ∀ fragment ∈ bidiFragmentsFrom text fragmentStart textDirection fragmentFlow i more,
        fragment.start < fragment.stop := by
  induction more generalizing fragmentStart textDirection fragmentFlow i with
  | zero =>
    refine ⟨tiles_cons.mpr ⟨rfl, begun.le, tiles_nil.mpr rfl⟩, fun fragment mem => ?_⟩
    rw [List.mem_singleton.mp mem]
    exact begun
  | succ more ih =>
    unfold bidiFragmentsFrom
    dsimp only
    rw [show i + (more + 1) = i + 1 + more by omega]
    split
    · obtain ⟨tiles, filled⟩ := ih (Nat.lt_succ_self i) (getTextDirection text i)
        (getFragmentFlow text i)
      refine ⟨tiles_cons.mpr ⟨rfl, begun.le, tiles⟩, fun fragment mem => ?_⟩
      rcases List.mem_cons.mp mem with rfl | later
      · exact begun
      · exact filled fragment later
    · exact ih (begun.trans (Nat.lt_succ_self i)) ..

theorem tiles_computeBidiFragments (text : DartString) :
    Tiles 0 text.length (computeBidiFragments text) := by
  unfold computeBidiFragments
  split
  · next empty =>
      rw [List.isEmpty_iff.mp empty]
      exact tiles_cons.mpr ⟨rfl, le_rfl, tiles_nil.mpr rfl⟩
  · next filled =>
      have some : 0 < text.length :=
        List.length_pos_iff.mpr fun empty => filled (List.isEmpty_iff.mpr empty)
      have tiles := (tiles_bidiFragmentsFrom text Nat.zero_lt_one
        (getTextDirection text 0) (getFragmentFlow text 0) (text.length - 1)).1
      rwa [Nat.add_sub_cancel' some] at tiles

/-- One fragment only ends where the text does. -/
theorem countP_stop_computeBidiFragments (text : DartString) :
    (computeBidiFragments text).countP (fun fragment => fragment.stop = text.length) = 1 := by
  have tiles := tiles_computeBidiFragments text
  unfold computeBidiFragments at *
  split
  · next empty => simp [List.isEmpty_iff.mp empty]
  · next filled =>
      rw [if_neg filled] at tiles
      exact tiles.countP_stop_eq_one (bidiFragmentsFrom_ne_nil _ _ _ _ _)
        (tiles_bidiFragmentsFrom text Nat.zero_lt_one ..).2

/-! ## Surrogate pairs -/

open FlutterEngine.Std.Utf16

/-- No range has a low surrogate or a code point of a pair. -/
theorem textDirectionLookup_eq_none {codePoint : Nat}
    (outside : 0xDC00 ≤ codePoint ∧ codePoint ≤ 0xDFFF ∨ 0x10000 ≤ codePoint) :
    textDirectionLookup.findForChar (some codePoint) = none := by
  refine textDirectionLookup.findForChar_eq_default fun range mem within => ?_
  have ranges : ∀ range ∈ textDirectionLookup.ranges,
      range.stop < 0x10000 ∧ (range.stop < 0xDC00 ∨ 0xDFFF < range.start) := by
    decide
  have apart := ranges range mem
  omega

/-- Neither unit of a surrogate pair has a direction. -/
theorem getTextDirection_pair {index : Nat} {high low : UInt16}
    (at_high : text[index]? = some high) (at_low : text[index + 1]? = some low)
    (is_high : isHighSurrogate high = true) (is_low : isLowSurrogate low = true) :
    getTextDirection text index = none ∧ getTextDirection text (index + 1) = none := by
  have undirected : ∀ {index codePoint}, getCodePoint text index = some codePoint →
      (0xDC00 ≤ codePoint ∧ codePoint ≤ 0xDFFF ∨ 0x10000 ≤ codePoint) →
        getTextDirection text index = none := by
    intro index codePoint found outside
    have digits : (isDigit codePoint || isMashriqiDigit codePoint) = false := by
      simp only [isDigit, isMashriqiDigit, Bool.or_eq_false_iff, Bool.and_eq_false_iff,
        decide_eq_false_iff_not]
      omega
    unfold getTextDirection
    rw [found]
    dsimp only
    rw [digits, if_neg Bool.false_ne_true]
    exact textDirectionLookup_eq_none outside
  have range : 0xDC00 ≤ low.toNat ∧ low.toNat ≤ 0xDFFF := by
    rwa [isLowSurrogate, Bool.and_eq_true, decide_eq_true_iff, decide_eq_true_iff] at is_low
  constructor
  · obtain ⟨codePoint, found, combined | ⟨-, last⟩⟩ :=
      getCodePoint_surrogate at_high ((isUtf16Surrogate_iff high).mpr (.inl is_high))
    · exact undirected found (.inr combined)
    · have within := (List.getElem?_eq_some_iff.mp at_low).1
      omega
  · obtain ⟨codePoint, found, combined | ⟨rfl, -⟩⟩ :=
      getCodePoint_surrogate at_low ((isUtf16Surrogate_iff low).mpr (.inr is_low))
    · exact undirected found (.inr combined)
    · exact undirected found (.inl range)

/-- A fragment ends where the direction changes, or at the end. -/
theorem direction_changes {textDirection : Option TextDirection}
    (fragmentFlow : FragmentFlow) (more : Nat)
    (known : textDirection = getTextDirection text (i - 1)) (begun : 0 < i)
    (mem : fragment ∈ bidiFragmentsFrom text fragmentStart textDirection fragmentFlow i more) :
    fragment.stop = i + more ∨ 0 < fragment.stop ∧
      getTextDirection text fragment.stop ≠ getTextDirection text (fragment.stop - 1) := by
  induction more generalizing fragmentStart textDirection fragmentFlow i with
  | zero =>
    rw [List.mem_singleton.mp mem]
    exact .inl rfl
  | succ more ih =>
    unfold bidiFragmentsFrom at mem
    dsimp only at mem
    rw [show i + (more + 1) = i + 1 + more by omega]
    split at mem
    · next changes =>
        rcases List.mem_cons.mp mem with rfl | later
        · exact .inr ⟨begun, known ▸ changes⟩
        · exact ih _ rfl (Nat.succ_pos i) later
    · next same => exact ih _ (not_not.mp same).symm (Nat.succ_pos i) mem

theorem isBoundary_stop_bidi {chars : List Char}
    (mem : fragment ∈ computeBidiFragments (encode chars)) : IsBoundary chars fragment.stop := by
  have within := ((tiles_computeBidiFragments (encode chars)).mem mem).2.2
  rw [length_encode] at within
  obtain boundary | ⟨before, high, low, split, at_high, at_low, is_high, is_low⟩ :=
    isBoundary_or_inside within
  · exact boundary
  · have undirected := getTextDirection_pair at_high at_low is_high is_low
    change fragment.stop = before + 1 at split
    have inside := (List.getElem?_eq_some_iff.mp at_low).1
    unfold computeBidiFragments at mem
    split at mem
    · next empty =>
        rw [List.isEmpty_iff.mp empty] at inside
        exact absurd inside (Nat.not_lt_zero _)
    · obtain last | ⟨-, changes⟩ := direction_changes _ _ rfl Nat.zero_lt_one mem
      · omega
      · rw [split, Nat.add_sub_cancel, undirected.1, undirected.2] at changes
        exact absurd rfl changes

end FlutterEngine.WebText
