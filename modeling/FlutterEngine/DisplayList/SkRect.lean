import Mathlib.Algebra.Order.Ring.Int
import FlutterEngine.Std.Ieee754

/-!
# Skia's rectangles of floating-point numbers

`SkRect` is Skia's. What the display list uses of it is a parameter, `SkRects`, with
the documented behaviour of the operations on rectangles that are not empty; a
rectangle with an edge that is not a number is empty. `binary32Rects` shows that
binary32 edges compared as numbers behave so.
-/

namespace FlutterEngine.DisplayList

open FlutterEngine.Std

/-- A type of rectangles with the operations of `SkRect`. The edges are what the order
of the coordinates is read off. -/
structure SkRects (Rect : Type) where
  isEmpty : Rect → Bool
  /-- What `setEmpty` sets. -/
  empty : Rect
  join : Rect → Rect → Rect
  intersects : Rect → Rect → Bool
  left : Rect → Int
  top : Rect → Int
  right : Rect → Int
  bottom : Rect → Int
  isEmpty_empty : isEmpty empty = true
  /-- Empty is a rectangle of no width or no height. -/
  sorted : ∀ rect, isEmpty rect = false → left rect < right rect ∧ top rect < bottom rect
  /-- Two rectangles intersect when they share an area. -/
  intersects_iff : ∀ first second, isEmpty first = false → isEmpty second = false →
    (intersects first second = true ↔
      max (left first) (left second) < min (right first) (right second) ∧
        max (top first) (top second) < min (bottom first) (bottom second))
  /-- An empty rectangle becomes the other one. -/
  join_empty : ∀ first second, isEmpty first = true → isEmpty second = false →
    join first second = second
  /-- Two rectangles become their bounds. -/
  join_edges : ∀ first second, isEmpty first = false → isEmpty second = false →
    isEmpty (join first second) = false ∧
      left (join first second) = min (left first) (left second) ∧
      top (join first second) = min (top first) (top second) ∧
      right (join first second) = max (right first) (right second) ∧
      bottom (join first second) = max (bottom first) (bottom second)

namespace SkRects

variable {Rect : Type} (skia : SkRects Rect)

/-- A rectangle that is not empty intersects itself. -/
theorem intersects_self {rect : Rect} (filled : skia.isEmpty rect = false) :
    skia.intersects rect rect = true := by
  rw [skia.intersects_iff rect rect filled filled, max_self, max_self, min_self, min_self]
  exact skia.sorted rect filled

/-- What intersects a rectangle intersects each rectangle around it. -/
theorem intersects_of_edges {inner outer query : Rect} (innerFilled : skia.isEmpty inner = false)
    (outerFilled : skia.isEmpty outer = false) (filled : skia.isEmpty query = false)
    (left : skia.left outer ≤ skia.left inner) (top : skia.top outer ≤ skia.top inner)
    (right : skia.right inner ≤ skia.right outer) (bottom : skia.bottom inner ≤ skia.bottom outer)
    (hits : skia.intersects inner query = true) : skia.intersects outer query = true := by
  obtain ⟨across, down⟩ := (skia.intersects_iff inner query innerFilled filled).mp hits
  apply (skia.intersects_iff outer query outerFilled filled).mpr
  constructor
  · exact (max_le_max_right _ left).trans_lt (across.trans_le (min_le_min_right _ right))
  · exact (max_le_max_right _ top).trans_lt (down.trans_le (min_le_min_right _ bottom))

/-- Every rectangle that intersects `inner` intersects `outer`. -/
def Encloses (outer inner : Rect) : Prop :=
  skia.isEmpty inner = false ∧ skia.isEmpty outer = false ∧
    ∀ query, skia.isEmpty query = false → skia.intersects inner query = true →
      skia.intersects outer query = true

theorem Encloses.trans {outer middle inner : Rect} (first : skia.Encloses outer middle)
    (second : skia.Encloses middle inner) : skia.Encloses outer inner :=
  ⟨second.1, first.2.1, fun query filled hits =>
    first.2.2 query filled (second.2.2 query filled hits)⟩

theorem encloses_refl {rect : Rect} (filled : skia.isEmpty rect = false) : skia.Encloses rect rect :=
  ⟨filled, filled, fun _ _ hits => hits⟩

/-- A join encloses what is joined, and what the joined rectangle enclosed before. -/
theorem encloses_join (first : Rect) {second : Rect} (filled : skia.isEmpty second = false) :
    skia.Encloses (skia.join first second) second ∧
      ∀ inner, skia.Encloses first inner → skia.Encloses (skia.join first second) inner := by
  cases firstEmpty : skia.isEmpty first with
  | true =>
    rw [skia.join_empty first second firstEmpty filled]
    refine ⟨skia.encloses_refl filled, fun inner encloses => ?_⟩
    rw [encloses.2.1] at firstEmpty
    cases firstEmpty
  | false =>
    obtain ⟨joined, left, top, right, bottom⟩ := skia.join_edges first second firstEmpty filled
    constructor
    · refine ⟨filled, joined, fun query queryFilled => ?_⟩
      apply skia.intersects_of_edges filled joined queryFilled
      · exact left ▸ min_le_right _ _
      · exact top ▸ min_le_right _ _
      · exact right ▸ le_max_right _ _
      · exact bottom ▸ le_max_right _ _
    · intro inner encloses
      refine Encloses.trans skia ⟨firstEmpty, joined, fun query queryFilled => ?_⟩ encloses
      apply skia.intersects_of_edges firstEmpty joined queryFilled
      · exact left ▸ min_le_left _ _
      · exact top ▸ min_le_left _ _
      · exact right ▸ le_max_left _ _
      · exact bottom ▸ le_max_left _ _

end SkRects

/-! ## Rectangles of binary32 numbers -/

/-- A rectangle with its edges as binary32 bits. -/
structure Binary32Rect where
  left : BitVec 32
  top : BitVec 32
  right : BitVec 32
  bottom : BitVec 32
deriving DecidableEq, Repr

namespace Binary32Rect

open Ieee754

/-- `left < right` of numbers; false when one is not a number. -/
def lt (left right : BitVec 32) : Bool :=
  !isNaN infinity32 left && !isNaN infinity32 right && decide (key left < key right)

/-- `std::max`. -/
def greater (left right : BitVec 32) : BitVec 32 := if lt left right then right else left

/-- `std::min`. -/
def lesser (left right : BitVec 32) : BitVec 32 := if lt right left then right else left

def isEmpty (rect : Binary32Rect) : Bool := !(lt rect.left rect.right && lt rect.top rect.bottom)

def intersects (first second : Binary32Rect) : Bool :=
  lt (greater first.left second.left) (lesser first.right second.right) &&
    lt (greater first.top second.top) (lesser first.bottom second.bottom)

def join (first second : Binary32Rect) : Binary32Rect :=
  if second.isEmpty then first
  else if first.isEmpty then second
  else ⟨lesser first.left second.left, lesser first.top second.top,
    greater first.right second.right, greater first.bottom second.bottom⟩

/-- A rectangle that is not empty has numbers for edges, in order. -/
theorem isEmpty_eq_false {rect : Binary32Rect} : rect.isEmpty = false ↔
    (isNaN infinity32 rect.left = false ∧ isNaN infinity32 rect.right = false ∧
        key rect.left < key rect.right) ∧
      isNaN infinity32 rect.top = false ∧ isNaN infinity32 rect.bottom = false ∧
        key rect.top < key rect.bottom := by
  simp [isEmpty, lt, and_assoc]

section Numbers

variable {left right : BitVec 32} (leftNumber : isNaN infinity32 left = false)
  (rightNumber : isNaN infinity32 right = false)

include leftNumber rightNumber

theorem lt_iff : lt left right = true ↔ key left < key right := by
  simp [lt, leftNumber, rightNumber]

theorem greater_spec : isNaN infinity32 (greater left right) = false ∧
    key (greater left right) = max (key left) (key right) := by
  unfold greater
  by_cases less : lt left right = true
  · rw [if_pos less, max_eq_right ((lt_iff leftNumber rightNumber).mp less).le]
    exact ⟨rightNumber, rfl⟩
  · rw [if_neg less, max_eq_left (not_lt.mp (mt (lt_iff leftNumber rightNumber).mpr less))]
    exact ⟨leftNumber, rfl⟩

theorem lesser_spec : isNaN infinity32 (lesser left right) = false ∧
    key (lesser left right) = min (key left) (key right) := by
  unfold lesser
  by_cases less : lt right left = true
  · rw [if_pos less, min_eq_right ((lt_iff rightNumber leftNumber).mp less).le]
    exact ⟨rightNumber, rfl⟩
  · rw [if_neg less, min_eq_left (not_lt.mp (mt (lt_iff rightNumber leftNumber).mpr less))]
    exact ⟨leftNumber, rfl⟩

end Numbers

end Binary32Rect

/-- The rectangles of binary32 numbers. -/
def binary32Rects : SkRects Binary32Rect where
  isEmpty := Binary32Rect.isEmpty
  empty := ⟨0, 0, 0, 0⟩
  join := Binary32Rect.join
  intersects := Binary32Rect.intersects
  left rect := Ieee754.key rect.left
  top rect := Ieee754.key rect.top
  right rect := Ieee754.key rect.right
  bottom rect := Ieee754.key rect.bottom
  isEmpty_empty := by decide
  sorted rect filled := by
    obtain ⟨⟨-, -, across⟩, -, -, down⟩ := Binary32Rect.isEmpty_eq_false.mp filled
    exact ⟨across, down⟩
  intersects_iff first second firstFilled secondFilled := by
    obtain ⟨⟨left, right, -⟩, top, bottom, -⟩ := Binary32Rect.isEmpty_eq_false.mp firstFilled
    obtain ⟨⟨left', right', -⟩, top', bottom', -⟩ := Binary32Rect.isEmpty_eq_false.mp secondFilled
    obtain ⟨leftNumber, leftKey⟩ := Binary32Rect.greater_spec left left'
    obtain ⟨rightNumber, rightKey⟩ := Binary32Rect.lesser_spec right right'
    obtain ⟨topNumber, topKey⟩ := Binary32Rect.greater_spec top top'
    obtain ⟨bottomNumber, bottomKey⟩ := Binary32Rect.lesser_spec bottom bottom'
    rw [Binary32Rect.intersects, Bool.and_eq_true, Binary32Rect.lt_iff leftNumber rightNumber,
      Binary32Rect.lt_iff topNumber bottomNumber, leftKey, rightKey, topKey, bottomKey]
  join_empty first second firstEmpty secondFilled := by
    simp [Binary32Rect.join, firstEmpty, secondFilled]
  join_edges first second firstFilled secondFilled := by
    obtain ⟨⟨left, right, across⟩, top, bottom, down⟩ := Binary32Rect.isEmpty_eq_false.mp firstFilled
    obtain ⟨⟨left', right', across'⟩, top', bottom', down'⟩ :=
      Binary32Rect.isEmpty_eq_false.mp secondFilled
    obtain ⟨leftNumber, leftKey⟩ := Binary32Rect.lesser_spec left left'
    obtain ⟨rightNumber, rightKey⟩ := Binary32Rect.greater_spec right right'
    obtain ⟨topNumber, topKey⟩ := Binary32Rect.lesser_spec top top'
    obtain ⟨bottomNumber, bottomKey⟩ := Binary32Rect.greater_spec bottom bottom'
    have joined : first.join second = ⟨Binary32Rect.lesser first.left second.left,
        Binary32Rect.lesser first.top second.top, Binary32Rect.greater first.right second.right,
        Binary32Rect.greater first.bottom second.bottom⟩ := by
      simp [Binary32Rect.join, firstFilled, secondFilled]
    rw [joined]
    refine ⟨Binary32Rect.isEmpty_eq_false.mpr ⟨⟨leftNumber, rightNumber, ?_⟩, topNumber,
      bottomNumber, ?_⟩, leftKey, topKey, rightKey, bottomKey⟩
    · rw [leftKey, rightKey]
      exact (min_le_left _ _).trans_lt (across.trans_le (le_max_left _ _))
    · rw [topKey, bottomKey]
      exact (min_le_left _ _).trans_lt (down.trans_le (le_max_left _ _))

end FlutterEngine.DisplayList
