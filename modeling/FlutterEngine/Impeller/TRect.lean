import FlutterEngine.Std.HalfOpenBoxes
import FlutterEngine.Impeller.SaturatedMath

/-!
# Rectangles

`TRect` of `rect.h` over an ordered type, and its arithmetic over signed integers. A
rectangle stands for the points from its left and top edges on and before its right and
bottom edges, of which an empty one has none.
-/

namespace FlutterEngine.Impeller

open FlutterEngine.Std

structure TPoint (T : Type) where
  x : T
  y : T
deriving DecidableEq, Repr

structure TSize (T : Type) where
  width : T
  height : T
deriving DecidableEq, Repr

structure TRect (T : Type) where
  left : T
  top : T
  right : T
  bottom : T
deriving DecidableEq, Repr

namespace TRect

section Ordered

variable {T : Type} [LinearOrder T] (rect o : TRect T)

def isEmpty : Bool := !(decide (rect.left < rect.right) && decide (rect.top < rect.bottom))

/-- `Contains` of a point. -/
def containsPoint (p : TPoint T) : Bool :=
  !rect.isEmpty && decide (p.x ≥ rect.left) && decide (p.y ≥ rect.top) &&
    decide (p.x < rect.right) && decide (p.y < rect.bottom)

def contains : Bool :=
  !rect.isEmpty && (o.isEmpty || (decide (o.left ≥ rect.left) && decide (o.top ≥ rect.top) &&
    decide (o.right ≤ rect.right) && decide (o.bottom ≤ rect.bottom)))

def union : TRect T :=
  if rect.isEmpty then o
  else if o.isEmpty then rect
  else
    { left := min rect.left o.left
      top := min rect.top o.top
      right := max rect.right o.right
      bottom := max rect.bottom o.bottom }

def intersectsWithRect : Bool :=
  !rect.isEmpty && !o.isEmpty && decide (rect.left < o.right) && decide (rect.top < o.bottom) &&
    decide (rect.right > o.left) && decide (rect.bottom > o.top)

def intersection : Option (TRect T) :=
  if rect.intersectsWithRect o then
    some
      { left := max rect.left o.left
        top := max rect.top o.top
        right := min rect.right o.right
        bottom := min rect.bottom o.bottom }
  else none

/-- The part of `Cutout` for a cutter as high as the rectangle. -/
def cutoutAcross : TRect T :=
  if o.top ≤ rect.top ∧ o.bottom ≥ rect.bottom then
    if o.left ≤ rect.left ∧ o.right > rect.left then { rect with left := o.right }
    else if o.right ≥ rect.right ∧ o.left < rect.right then { rect with right := o.left }
    else rect
  else rect

def cutout : Option (TRect T) :=
  if rect.isEmpty then none
  else if o.left ≤ rect.left ∧ o.right ≥ rect.right then
    if o.top ≤ rect.top ∧ o.bottom ≥ rect.bottom then none
    else if o.top ≤ rect.top ∧ o.bottom > rect.top then some { rect with top := o.bottom }
    else if o.bottom ≥ rect.bottom ∧ o.top < rect.bottom then some { rect with bottom := o.top }
    else some (rect.cutoutAcross o)
  else some (rect.cutoutAcross o)

end Ordered

/-! ## Arithmetic -/

section Signed

variable {bits : Nat} (rect : TRect (SignedInt bits))

def makeXYWH (x y width height : SignedInt bits) : Option (TRect (SignedInt bits)) :=
  (Saturated.add x width).bind fun right =>
    (Saturated.add y height).map fun bottom => ⟨x, y, right, bottom⟩

def getWidth : Option (SignedInt bits) := Saturated.sub rect.right rect.left

def getHeight : Option (SignedInt bits) := Saturated.sub rect.bottom rect.top

def shift (dx dy : SignedInt bits) : Option (TRect (SignedInt bits)) :=
  (Saturated.add rect.left dx).bind fun left =>
    (Saturated.add rect.top dy).bind fun top =>
      (Saturated.add rect.right dx).bind fun right =>
        (Saturated.add rect.bottom dy).map fun bottom => ⟨left, top, right, bottom⟩

/-- `Shift` by a point. -/
def shiftBy (offset : TPoint (SignedInt bits)) : Option (TRect (SignedInt bits)) :=
  rect.shift offset.x offset.y

def expand (left top right bottom : SignedInt bits) : Option (TRect (SignedInt bits)) :=
  (Saturated.sub rect.left left).bind fun newLeft =>
    (Saturated.sub rect.top top).bind fun newTop =>
      (Saturated.add rect.right right).bind fun newRight =>
        (Saturated.add rect.bottom bottom).map fun newBottom =>
          ⟨newLeft, newTop, newRight, newBottom⟩

/-- `Expand` by one amount on all sides. -/
def expandAll (amount : SignedInt bits) : Option (TRect (SignedInt bits)) :=
  rect.expand amount amount amount amount

/-- `Expand` by an amount across and one down. -/
def expandBy (horizontalAmount verticalAmount : SignedInt bits) :
    Option (TRect (SignedInt bits)) :=
  rect.expand horizontalAmount verticalAmount horizontalAmount verticalAmount

/-- `Expand` by a point. -/
def expandByPoint (amount : TPoint (SignedInt bits)) : Option (TRect (SignedInt bits)) :=
  rect.expandBy amount.x amount.y

/-- `Expand` by a size. -/
def expandBySize (amount : TSize (SignedInt bits)) : Option (TRect (SignedInt bits)) :=
  rect.expandBy amount.width amount.height

end Signed

/-! ## Points -/

section Points

open Set

variable {T : Type} [LinearOrder T] {rect o : TRect T}

/-- The points from the left and top edges on and before the right and bottom edges. -/
def points (rect : TRect T) : Set (T × T) := Ico rect.left rect.right ×ˢ Ico rect.top rect.bottom

theorem isEmpty_eq_false :
    rect.isEmpty = false ↔ rect.left < rect.right ∧ rect.top < rect.bottom := by
  simp [isEmpty]

theorem points_nonempty : rect.points.Nonempty ↔ rect.isEmpty = false := by
  rw [points, prod_nonempty_iff, nonempty_Ico, nonempty_Ico, isEmpty_eq_false]

theorem points_eq_empty : rect.points = ∅ ↔ rect.isEmpty = true := by
  rw [← not_nonempty_iff_eq_empty, points_nonempty, Bool.not_eq_false]

theorem containsPoint_iff (p : TPoint T) :
    rect.containsPoint p = true ↔ (p.x, p.y) ∈ rect.points := by
  simp only [containsPoint, Bool.and_eq_true, Bool.not_eq_true', decide_eq_true_eq, points,
    mem_prod, mem_Ico, isEmpty_eq_false]
  constructor
  · rintro ⟨⟨⟨⟨-, left⟩, top⟩, right⟩, bottom⟩
    exact ⟨⟨left, right⟩, top, bottom⟩
  · rintro ⟨⟨left, right⟩, top, bottom⟩
    exact ⟨⟨⟨⟨⟨left.trans_lt right, top.trans_lt bottom⟩, left⟩, top⟩, right⟩, bottom⟩

/-- `Contains` of a rectangle. -/
theorem contains_iff : rect.contains o = true ↔ rect.points.Nonempty ∧ o.points ⊆ rect.points := by
  rw [points_nonempty]
  cases empty : o.isEmpty with
  | true =>
    have nothing := points_eq_empty.mpr empty
    simp [contains, empty, nothing]
  | false =>
    obtain ⟨across, down⟩ := isEmpty_eq_false.mp empty
    have filled : (Ico o.left o.right ×ˢ Ico o.top o.bottom).Nonempty :=
      points_nonempty.mpr empty
    have edges : o.points ⊆ rect.points ↔ (rect.left ≤ o.left ∧ o.right ≤ rect.right) ∧
        rect.top ≤ o.top ∧ o.bottom ≤ rect.bottom := by
      rw [points, points, prod_subset_prod_iff' filled, Ico_subset_Ico_iff across,
        Ico_subset_Ico_iff down]
    rw [edges]
    simp only [contains, empty, Bool.and_eq_true, Bool.not_eq_true', Bool.false_or,
      decide_eq_true_eq]
    tauto

theorem points_inter : rect.points ∩ o.points =
    Ico (max rect.left o.left) (min rect.right o.right) ×ˢ
      Ico (max rect.top o.top) (min rect.bottom o.bottom) := by
  rw [points, points, prod_inter_prod, Ico_inter_Ico, Ico_inter_Ico]

theorem intersectsWithRect_iff :
    rect.intersectsWithRect o = true ↔ (rect.points ∩ o.points).Nonempty := by
  rw [points_inter, prod_nonempty_iff, nonempty_Ico, nonempty_Ico]
  simp only [intersectsWithRect, Bool.and_eq_true, Bool.not_eq_true', decide_eq_true_eq,
    isEmpty_eq_false, max_lt_iff, lt_min_iff]
  tauto

theorem intersection_eq_some {both : TRect T} (intersection : rect.intersection o = some both) :
    both.points = rect.points ∩ o.points := by
  obtain ⟨-, same⟩ := Option.ite_none_right_eq_some.mp intersection
  cases same
  exact points_inter.symm

theorem intersection_eq_none : rect.intersection o = none ↔ rect.points ∩ o.points = ∅ := by
  rw [intersection, ← not_nonempty_iff_eq_empty, ← intersectsWithRect_iff]
  split <;> simp_all

/-- The rectangle is the smallest that has all points of the region. -/
def IsSmallest (rect : TRect T) (region : Set (T × T)) : Prop :=
  region ⊆ rect.points ∧ ∀ other : TRect T, region ⊆ other.points → rect.points ⊆ other.points

/-- It is when its points are the least box around the region. -/
theorem isSmallest_of_isLeast {region : Set (T × T)}
    (least : IsLeast (boxesAround region) rect.points) : rect.IsSmallest region := by
  refine ⟨least.1.2, fun other around => least.2 ⟨⟨_, _, _, _, rfl⟩, around⟩⟩

theorem isSmallest_points : rect.IsSmallest rect.points := ⟨subset_rfl, fun _ around => around⟩

theorem union_isSmallest : (rect.union o).IsSmallest (rect.points ∪ o.points) := by
  unfold union
  cases empty : rect.isEmpty with
  | true =>
    rw [points_eq_empty.mpr empty, empty_union, if_pos rfl]
    exact isSmallest_points
  | false =>
    rw [if_neg Bool.false_ne_true]
    cases empty' : o.isEmpty with
    | true =>
      rw [points_eq_empty.mpr empty', union_empty, if_pos rfl]
      exact isSmallest_points
    | false =>
      rw [if_neg Bool.false_ne_true]
      obtain ⟨across, down⟩ := isEmpty_eq_false.mp empty
      obtain ⟨across', down'⟩ := isEmpty_eq_false.mp empty'
      exact isSmallest_of_isLeast (isLeast_union across down across' down')

/-! ## Cutouts -/

/-- What is left of a region: nothing exactly when it has no points, and else the smallest
rectangle that has all of them. -/
def IsRest (rest : Option (TRect T)) (region : Set (T × T)) : Prop :=
  match rest with
  | none => region = ∅
  | some rest => region.Nonempty ∧ rest.IsSmallest region

theorem isRest_of_spans {region : Set (T × T)} {rest : TRect T}
    (across : Spans (Prod.fst '' region) rest.left rest.right)
    (down : Spans (Prod.snd '' region) rest.top rest.bottom) : IsRest (some rest) region :=
  ⟨image_nonempty.mp ⟨_, across.start⟩, isSmallest_of_isLeast (isLeast_boxesAround across down)⟩

/-- With a column to spare, only a cutter as high as the rectangle can take its left or its
right away. -/
theorem isRest_cutoutAcross (across : rect.left < rect.right) (down : rect.top < rect.bottom)
    (uncovered : ¬(o.left ≤ rect.left ∧ rect.right ≤ o.right)) :
    IsRest (some (rect.cutoutAcross o)) (rect.points \ o.points) := by
  have rows : Prod.snd '' (rect.points \ o.points) = Ico rect.top rect.bottom :=
    snd_image_diff (diff_nonempty_of_not_covered across uncovered)
  have downSpans : Spans (Prod.snd '' (rect.points \ o.points)) rect.top rect.bottom := by
    rw [rows]
    exact spans_Ico down
  unfold cutoutAcross
  split
  · next high =>
      have columns : Prod.fst '' (rect.points \ o.points) =
          Ico rect.left rect.right \ Ico o.left o.right :=
        fst_image_diff_of_subset (nonempty_Ico.mpr down) (Ico_subset_Ico high.1 high.2)
      split
      · next start =>
          have ends : o.right < rect.right := not_le.mp fun past => uncovered ⟨start.1, past⟩
          refine isRest_of_spans ?_ downSpans
          rw [columns]
          exact spans_diff_start start.1 start.2 ends
      · next start =>
          split
          · next stop =>
              have begins : rect.left < o.left := not_le.mp fun past => uncovered ⟨past, stop.1⟩
              refine isRest_of_spans ?_ downSpans
              rw [columns]
              exact spans_diff_end stop.1 begins stop.2
          · next stop =>
              refine isRest_of_spans ?_ downSpans
              rw [columns]
              exact spans_diff_between across start stop
  · next low =>
      refine isRest_of_spans ?_ downSpans
      have columns : Prod.fst '' (rect.points \ o.points) = Ico rect.left rect.right :=
        fst_image_diff (diff_nonempty_of_not_covered down low)
      rw [columns]
      exact spans_Ico across

theorem isRest_cutout : IsRest (rect.cutout o) (rect.points \ o.points) := by
  unfold cutout
  cases empty : rect.isEmpty with
  | true =>
    rw [points_eq_empty.mpr empty, if_pos rfl]
    exact empty_sdiff _
  | false =>
    obtain ⟨across, down⟩ := isEmpty_eq_false.mp empty
    rw [if_neg Bool.false_ne_true]
    split
    · next wide =>
        have taken : Ico rect.left rect.right ⊆ Ico o.left o.right :=
          Ico_subset_Ico wide.1 wide.2
        split
        · next high =>
            exact sdiff_eq_empty.mpr (prod_mono taken (Ico_subset_Ico high.1 high.2))
        · next low =>
            have columns : Prod.fst '' (rect.points \ o.points) = Ico rect.left rect.right :=
              fst_image_diff (diff_nonempty_of_not_covered down low)
            have rows : Prod.snd '' (rect.points \ o.points) =
                Ico rect.top rect.bottom \ Ico o.top o.bottom :=
              snd_image_diff_of_subset (nonempty_Ico.mpr across) taken
            have acrossSpans :
                Spans (Prod.fst '' (rect.points \ o.points)) rect.left rect.right := by
              rw [columns]
              exact spans_Ico across
            split
            · next start =>
                have ends : o.bottom < rect.bottom := not_le.mp fun past => low ⟨start.1, past⟩
                refine isRest_of_spans acrossSpans ?_
                rw [rows]
                exact spans_diff_start start.1 start.2 ends
            · next start =>
                split
                · next stop =>
                    have begins : rect.top < o.top := not_le.mp fun past => low ⟨past, stop.1⟩
                    refine isRest_of_spans acrossSpans ?_
                    rw [rows]
                    exact spans_diff_end stop.1 begins stop.2
                · next stop =>
                    rw [cutoutAcross, if_neg low]
                    refine isRest_of_spans acrossSpans ?_
                    rw [rows]
                    exact spans_diff_between down start stop
    · next narrow => exact isRest_cutoutAcross across down narrow

end Points

/-! ## All of it -/

section Whole

open SignedInt

/-- The operations on two rectangles agree with those on their points. -/
structure AgreesWithPoints {T : Type} [LinearOrder T] (rect o : TRect T) : Prop where
  containsPoint : ∀ p, rect.containsPoint p = true ↔ (p.x, p.y) ∈ rect.points
  contains : rect.contains o = true ↔ rect.points.Nonempty ∧ o.points ⊆ rect.points
  intersectsWithRect : rect.intersectsWithRect o = true ↔ (rect.points ∩ o.points).Nonempty
  noIntersection : rect.intersection o = none ↔ rect.points ∩ o.points = ∅
  intersection : ∀ both, rect.intersection o = some both →
    both.points = rect.points ∩ o.points
  union : (rect.union o).IsSmallest (rect.points ∪ o.points)
  cutout : IsRest (rect.cutout o) (rect.points \ o.points)

theorem agreesWithPoints {T : Type} [LinearOrder T] (rect o : TRect T) :
    rect.AgreesWithPoints o where
  containsPoint := containsPoint_iff
  contains := contains_iff
  intersectsWithRect := intersectsWithRect_iff
  noIntersection := intersection_eq_none
  intersection _ := intersection_eq_some
  union := union_isSmallest
  cutout := isRest_cutout

variable {bits : Nat}

/-- The rectangle with these edges, as far as the type reaches. -/
def clamped (left top right bottom : Int) : TRect (SignedInt bits) :=
  ⟨clamp left, clamp top, clamp right, clamp bottom⟩

theorem shift_eq (rect : TRect (SignedInt bits)) (dx dy : SignedInt bits) :
    rect.shift dx dy = some (clamped (rect.left.1 + dx.1) (rect.top.1 + dy.1)
      (rect.right.1 + dx.1) (rect.bottom.1 + dy.1)) := by
  simp [shift, Saturated.add_eq, clamped]

theorem expand_eq (rect : TRect (SignedInt bits)) (left top right bottom : SignedInt bits) :
    rect.expand left top right bottom = some (clamped (rect.left.1 - left.1)
      (rect.top.1 - top.1) (rect.right.1 + right.1) (rect.bottom.1 + bottom.1)) := by
  simp [expand, Saturated.add_eq, Saturated.sub_eq, clamped]

/-- The arithmetic on a rectangle is that of whole numbers, clamped to the type, and does
not overflow. -/
structure Saturates (rect : TRect (SignedInt bits)) : Prop where
  makeXYWH : ∀ x y width height : SignedInt bits, makeXYWH x y width height =
    some ⟨x, y, clamp (x.1 + width.1), clamp (y.1 + height.1)⟩
  getWidth : rect.getWidth = some (clamp (rect.right.1 - rect.left.1))
  getHeight : rect.getHeight = some (clamp (rect.bottom.1 - rect.top.1))
  shift : ∀ dx dy : SignedInt bits, rect.shift dx dy = some (clamped (rect.left.1 + dx.1)
    (rect.top.1 + dy.1) (rect.right.1 + dx.1) (rect.bottom.1 + dy.1))
  shiftBy : ∀ offset : TPoint (SignedInt bits), rect.shiftBy offset =
    some (clamped (rect.left.1 + offset.x.1) (rect.top.1 + offset.y.1)
      (rect.right.1 + offset.x.1) (rect.bottom.1 + offset.y.1))
  expand : ∀ left top right bottom : SignedInt bits, rect.expand left top right bottom =
    some (clamped (rect.left.1 - left.1) (rect.top.1 - top.1) (rect.right.1 + right.1)
      (rect.bottom.1 + bottom.1))
  expandAll : ∀ amount : SignedInt bits, rect.expandAll amount =
    some (clamped (rect.left.1 - amount.1) (rect.top.1 - amount.1) (rect.right.1 + amount.1)
      (rect.bottom.1 + amount.1))
  expandBy : ∀ across down : SignedInt bits, rect.expandBy across down =
    some (clamped (rect.left.1 - across.1) (rect.top.1 - down.1) (rect.right.1 + across.1)
      (rect.bottom.1 + down.1))
  expandByPoint : ∀ amount : TPoint (SignedInt bits), rect.expandByPoint amount =
    some (clamped (rect.left.1 - amount.x.1) (rect.top.1 - amount.y.1)
      (rect.right.1 + amount.x.1) (rect.bottom.1 + amount.y.1))
  expandBySize : ∀ amount : TSize (SignedInt bits), rect.expandBySize amount =
    some (clamped (rect.left.1 - amount.width.1) (rect.top.1 - amount.height.1)
      (rect.right.1 + amount.width.1) (rect.bottom.1 + amount.height.1))

theorem saturates (rect : TRect (SignedInt bits)) : rect.Saturates where
  makeXYWH _ _ _ _ := by simp [makeXYWH, Saturated.add_eq]
  getWidth := Saturated.sub_eq _ _
  getHeight := Saturated.sub_eq _ _
  shift := rect.shift_eq
  shiftBy _ := rect.shift_eq _ _
  expand := rect.expand_eq
  expandAll _ := rect.expand_eq _ _ _ _
  expandBy _ _ := rect.expand_eq _ _ _ _
  expandByPoint _ := rect.expand_eq _ _ _ _
  expandBySize _ := rect.expand_eq _ _ _ _

/-- Rectangles of signed integers of any width are right about their points, and their
arithmetic saturates. -/
theorem agreesWithPoints_and_saturates (rect o : TRect (SignedInt bits)) :
    rect.AgreesWithPoints o ∧ rect.Saturates :=
  ⟨agreesWithPoints rect o, saturates rect⟩

end Whole

end TRect

end FlutterEngine.Impeller
