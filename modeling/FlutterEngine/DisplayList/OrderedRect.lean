import Mathlib.Data.Set.BooleanAlgebra
import Mathlib.Order.CompletePartialOrder
import Mathlib.Order.Interval.Set.LinearOrder
import Mathlib.Order.MinMax
import FlutterEngine.DisplayList.DlPaint

/-!
# Skia's rectangles of ordered coordinates

`SkRect` with coordinates of a linear order: what it is to be empty, to intersect and to be
joined, as sets of points. A point on the left or the top edge is in the rectangle, one on
the right or the bottom edge is not.
-/

namespace FlutterEngine.DisplayList.SkRect

variable {Scalar : Type} [LinearOrder Scalar]

/-- `SkRect::isEmpty`. -/
def isEmpty (rect : SkRect Scalar) : Bool :=
  !(decide (rect.fLeft < rect.fRight) && decide (rect.fTop < rect.fBottom))

/-- `SkRect::intersects`. -/
def intersects (first second : SkRect Scalar) : Bool :=
  decide (max first.fLeft second.fLeft < min first.fRight second.fRight) &&
    decide (max first.fTop second.fTop < min first.fBottom second.fBottom)

/-- `SkRect::join`. -/
def join (rect other : SkRect Scalar) : SkRect Scalar :=
  if other.isEmpty then rect
  else if rect.isEmpty then other
  else ⟨min rect.fLeft other.fLeft, min rect.fTop other.fTop,
    max rect.fRight other.fRight, max rect.fBottom other.fBottom⟩

def points (rect : SkRect Scalar) : Set (Scalar × Scalar) :=
  Set.Ico rect.fLeft rect.fRight ×ˢ Set.Ico rect.fTop rect.fBottom

/-- One rectangle is below another when its points are in the other. -/
instance : Preorder (SkRect Scalar) := Preorder.lift points

variable {first second rect : SkRect Scalar}

theorem le_iff : first ≤ second ↔ first.points ⊆ second.points := Iff.rfl

theorem isEmpty_eq_false :
    rect.isEmpty = false ↔ rect.fLeft < rect.fRight ∧ rect.fTop < rect.fBottom := by
  simp [isEmpty]

theorem isEmpty_iff_points : rect.isEmpty = true ↔ rect.points = ∅ := by
  rw [points, Set.prod_eq_empty_iff, Set.Ico_eq_empty_iff, Set.Ico_eq_empty_iff,
    ← Bool.not_eq_false, isEmpty_eq_false, not_and_or]

theorem le_of_isEmpty (empty : first.isEmpty = true) (second : SkRect Scalar) : first ≤ second := by
  rw [le_iff, isEmpty_iff_points.mp empty]
  exact Set.empty_subset _

theorem isEmpty_of_le (within : first ≤ second) (filled : first.isEmpty = false) :
    second.isEmpty = false := by
  rw [← Bool.not_eq_true, isEmpty_iff_points] at filled ⊢
  exact fun empty => filled (Set.subset_eq_empty within empty)

/-- Rectangles that are not empty are ordered by their edges. -/
theorem le_iff_edges (filled : first.isEmpty = false) :
    first ≤ second ↔ (second.fLeft ≤ first.fLeft ∧ first.fRight ≤ second.fRight) ∧
      second.fTop ≤ first.fTop ∧ first.fBottom ≤ second.fBottom := by
  obtain ⟨across, down⟩ := isEmpty_eq_false.mp filled
  have nonempty : (Set.Ico first.fLeft first.fRight ×ˢ
      Set.Ico first.fTop first.fBottom).Nonempty :=
    (Set.nonempty_Ico.mpr across).prod (Set.nonempty_Ico.mpr down)
  rw [le_iff, points, points, Set.prod_subset_prod_iff' nonempty,
    Set.Ico_subset_Ico_iff across, Set.Ico_subset_Ico_iff down]

theorem intersects_iff_edges : first.intersects second = true ↔
    max first.fLeft second.fLeft < min first.fRight second.fRight ∧
      max first.fTop second.fTop < min first.fBottom second.fBottom := by
  rw [intersects, Bool.and_eq_true, decide_eq_true_eq, decide_eq_true_eq]

/-- Rectangles intersect when they share a point. -/
theorem intersects_iff :
    first.intersects second = true ↔ (first.points ∩ second.points).Nonempty := by
  rw [intersects_iff_edges, points, points, Set.prod_inter_prod, Set.Ico_inter_Ico,
    Set.Ico_inter_Ico, Set.prod_nonempty_iff, Set.nonempty_Ico, Set.nonempty_Ico]

theorem intersects_mono {other : SkRect Scalar} (within : first ≤ second)
    (meets : other.intersects first = true) : other.intersects second = true := by
  obtain ⟨point, here, there⟩ := intersects_iff.mp meets
  exact intersects_iff.mpr ⟨point, here, within there⟩

theorem isEmpty_join {other : SkRect Scalar} (filled : other.isEmpty = false) :
    (rect.join other).isEmpty = false := by
  obtain ⟨across, down⟩ := isEmpty_eq_false.mp filled
  cases empty : rect.isEmpty with
  | true => rwa [join, filled, if_neg Bool.false_ne_true, if_pos empty]
  | false =>
    rw [join, filled, if_neg Bool.false_ne_true, empty, if_neg Bool.false_ne_true,
      isEmpty_eq_false]
    exact ⟨(min_le_right _ _).trans_lt (across.trans_le (le_max_right _ _)),
      (min_le_right _ _).trans_lt (down.trans_le (le_max_right _ _))⟩

theorem le_join_left (rect other : SkRect Scalar) : rect ≤ rect.join other := by
  cases empty : rect.isEmpty with
  | true => exact le_of_isEmpty empty _
  | false =>
    unfold join
    cases other.isEmpty with
    | true => exact le_rfl
    | false =>
      rw [if_neg Bool.false_ne_true, empty, if_neg Bool.false_ne_true, le_iff_edges empty]
      exact ⟨⟨min_le_left _ _, le_max_left _ _⟩, min_le_left _ _, le_max_left _ _⟩

theorem le_join_right (rect other : SkRect Scalar) : other ≤ rect.join other := by
  cases empty : other.isEmpty with
  | true => exact le_of_isEmpty empty _
  | false =>
    unfold join
    rw [empty, if_neg Bool.false_ne_true]
    cases rect.isEmpty with
    | true => exact le_rfl
    | false =>
      rw [if_neg Bool.false_ne_true, le_iff_edges empty]
      exact ⟨⟨min_le_right _ _, le_max_right _ _⟩, min_le_right _ _, le_max_right _ _⟩

/-- The join is the least rectangle around both. -/
theorem join_le {rect other bound : SkRect Scalar} (left : rect ≤ bound) (right : other ≤ bound) :
    rect.join other ≤ bound := by
  cases otherEmpty : other.isEmpty with
  | true => rwa [join, if_pos otherEmpty]
  | false =>
    cases empty : rect.isEmpty with
    | true => rwa [join, otherEmpty, if_neg Bool.false_ne_true, if_pos empty]
    | false =>
      rw [le_iff_edges empty] at left
      rw [le_iff_edges otherEmpty] at right
      rw [le_iff_edges (isEmpty_join otherEmpty), join, otherEmpty, if_neg Bool.false_ne_true, empty,
        if_neg Bool.false_ne_true]
      exact ⟨⟨le_min left.1.1 right.1.1, max_le left.1.2 right.1.2⟩,
        le_min left.2.1 right.2.1, max_le left.2.2 right.2.2⟩

theorem join_mono_left {small large : SkRect Scalar} (within : small ≤ large)
    (other : SkRect Scalar) : small.join other ≤ large.join other :=
  join_le (within.trans (le_join_left large other)) (le_join_right large other)

/-! ## Coordinates of another order -/

variable {Other : Type} [LinearOrder Other]

/-- The rectangle with each coordinate converted. -/
def map (convert : Scalar → Other) (rect : SkRect Scalar) : SkRect Other :=
  ⟨convert rect.fLeft, convert rect.fTop, convert rect.fRight, convert rect.fBottom⟩

variable {convert : Scalar → Other} (strictMono : StrictMono convert)
include strictMono

theorem isEmpty_map (rect : SkRect Scalar) : (rect.map convert).isEmpty = rect.isEmpty := by
  simp only [isEmpty, map, strictMono.lt_iff_lt]

theorem intersects_map (first second : SkRect Scalar) :
    (first.map convert).intersects (second.map convert) = first.intersects second := by
  have mono := strictMono.monotone
  simp only [intersects, map, ← mono.map_max, ← mono.map_min, strictMono.lt_iff_lt]

theorem map_le_map (first second : SkRect Scalar) :
    first.map convert ≤ second.map convert ↔ first ≤ second := by
  cases empty : first.isEmpty with
  | true =>
    rw [← isEmpty_map strictMono] at empty
    rw [iff_true_left (le_of_isEmpty empty _)]
    exact le_of_isEmpty (isEmpty_map strictMono first ▸ empty) _
  | false =>
    have filled : (first.map convert).isEmpty = false := (isEmpty_map strictMono first).trans empty
    rw [le_iff_edges filled, le_iff_edges empty]
    simp only [map, strictMono.le_iff_le]

end FlutterEngine.DisplayList.SkRect
