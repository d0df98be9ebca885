import FlutterEngine.DisplayList.AccumulatedBounds

/-!
# Whole numbers between two infinities

A toolkit whose scalars are whole numbers with an infinity at both ends, whose shapes are
rectangles and whose matrices are translations.
-/

namespace FlutterEngine.DisplayList.WholeNumbers

/-- A whole number, or one of the infinities at both ends. -/
abbrev Coordinate : Type := {value : Int // -2 ^ 31 ≤ value ∧ value ≤ 2 ^ 31}

/-- Arithmetic stops at the infinities. -/
def saturate (value : Int) : Coordinate :=
  ⟨max (-2 ^ 31) (min (2 ^ 31) value), by omega⟩

abbrev payloads : Payloads where
  __ := plainPayloads
  Scalar := Coordinate
  RRect := SkRect Coordinate
  Path := SkRect Coordinate
  literal number := saturate number

instance : SkScalar payloads.Scalar where
  beq first second := decide (first.1 = second.1)
  add first second := saturate (first.1 + second.1)
  sub first second := saturate (first.1 - second.1)
  mul first second := saturate (first.1 * second.1)
  decidableLE first second := inferInstanceAs (Decidable (first.1 ≤ second.1))
  decidableLT first second := inferInstanceAs (Decidable (first.1 < second.1))

def isEmpty (rect : SkRect Coordinate) : Bool :=
  !(decide (rect.fLeft.1 < rect.fRight.1) && decide (rect.fTop.1 < rect.fBottom.1))

def intersection (first second : SkRect Coordinate) : SkRect Coordinate where
  fLeft := max first.fLeft second.fLeft
  fTop := max first.fTop second.fTop
  fRight := min first.fRight second.fRight
  fBottom := min first.fBottom second.fBottom

def union (first second : SkRect Coordinate) : SkRect Coordinate where
  fLeft := min first.fLeft second.fLeft
  fTop := min first.fTop second.fTop
  fRight := max first.fRight second.fRight
  fBottom := max first.fBottom second.fBottom

theorem isEmpty_eq_false {rect : SkRect Coordinate} :
    isEmpty rect = false ↔ rect.fLeft.1 < rect.fRight.1 ∧ rect.fTop.1 < rect.fBottom.1 := by
  simp [isEmpty]

theorem coe_max (first second : Coordinate) : (max first second).1 = max first.1 second.1 :=
  Subtype.mono_coe _ |>.map_max

theorem coe_min (first second : Coordinate) : (min first second).1 = min first.1 second.1 :=
  Subtype.mono_coe _ |>.map_min

def rects : SkRects (SkRect Coordinate) where
  isEmpty := isEmpty
  empty := ⟨saturate 0, saturate 0, saturate 0, saturate 0⟩
  join first second :=
    if isEmpty second then first else if isEmpty first then second else union first second
  intersects first second := !isEmpty (intersection first second)
  left rect := rect.fLeft.1
  top rect := rect.fTop.1
  right rect := rect.fRight.1
  bottom rect := rect.fBottom.1
  isEmpty_empty := by decide
  sorted _ := isEmpty_eq_false.mp
  intersects_iff first second _ _ := by
    rw [Bool.not_eq_true', isEmpty_eq_false]
    simp only [intersection, coe_max, coe_min]
  join_empty first second firstEmpty filled := by simp [firstEmpty, filled]
  join_edges first second firstFilled filled := by
    have ⟨across, down⟩ := isEmpty_eq_false.mp firstFilled
    have ⟨across', down'⟩ := isEmpty_eq_false.mp filled
    rw [if_neg (Bool.eq_false_iff.mp filled), if_neg (Bool.eq_false_iff.mp firstFilled)]
    refine ⟨isEmpty_eq_false.mpr ⟨?_, ?_⟩, coe_min _ _, coe_min _ _, coe_max _ _, coe_max _ _⟩
    · rw [union, coe_min, coe_max]
      omega
    · rw [union, coe_min, coe_max]
      omega

/-- Matrices are the offsets they translate by. -/
def translateRect (offset : Coordinate × Coordinate) (rect : SkRect Coordinate) :
    SkRect Coordinate :=
  ⟨saturate (rect.fLeft.1 + offset.1.1), saturate (rect.fTop.1 + offset.2.1),
    saturate (rect.fRight.1 + offset.1.1), saturate (rect.fBottom.1 + offset.2.1)⟩

def geometry : SkGeometry Coordinate (SkRect Coordinate) (SkRect Coordinate) where
  literal number := saturate number
  isEmpty := isEmpty
  intersect first second :=
    if isEmpty (intersection first second) then none else some (intersection first second)
  intersects first second := !isEmpty (intersection first second)
  roundOut rect := rect
  round rect := ⟨rect.fLeft.1, rect.fTop.1, rect.fRight.1, rect.fBottom.1⟩
  isEmptyIRect rect := !(decide (rect.fLeft < rect.fRight) && decide (rect.fTop < rect.fBottom))
  ofIRect rect :=
    ⟨saturate rect.fLeft, saturate rect.fTop, saturate rect.fRight, saturate rect.fBottom⟩
  isRect _ := true
  getBounds rect := rect
  isInverseFillType _ := false
  pathBounds rect := rect
  pathIsRect rect := some rect
  SkMatrix := Coordinate × Coordinate
  identity := (saturate 0, saturate 0)
  preTranslate offset tx ty := (saturate (offset.1.1 + tx.1), saturate (offset.2.1 + ty.1))
  preScale offset _ _ := offset
  preSkew offset _ _ := offset
  preRotate offset _ := offset
  preConcat offset other :=
    (saturate (offset.1.1 + other.1.1), saturate (offset.2.1 + other.2.1))
  skew _ _ := (saturate 0, saturate 0)
  rotateDeg _ := (saturate 0, saturate 0)
  makeAll _ _ tx _ _ ty _ _ _ := (tx, ty)
  hasPerspective _ := false
  mapRect offset rect := (translateRect offset rect, true)
  invert offset := some (saturate (-offset.1.1), saturate (-offset.2.1))
  SkM44 := Coordinate × Coordinate
  identity44 := (saturate 0, saturate 0)
  ofMatrix offset := offset
  asM33 offset := offset
  makeM44 _ _ _ tx _ _ _ ty _ _ _ _ _ _ _ _ := (tx, ty)
  rc offset row column :=
    match row, column with
    | 0, 3 => offset.1
    | 1, 3 => offset.2
    | row, column => if row = column then saturate 1 else saturate 0
  preTranslate44 offset tx ty := (saturate (offset.1.1 + tx.1), saturate (offset.2.1 + ty.1))
  preScale44 offset _ _ := offset
  preConcat44 offset other :=
    (saturate (offset.1.1 + other.1.1), saturate (offset.2.1 + other.2.1))
  invert44 offset := some (saturate (-offset.1.1), saturate (-offset.2.1))

/-- Everything that is drawn is safe and of no size. -/
def kit : Toolkit payloads where
  __ := geometry
  infinity := saturate (2 ^ 31)
  negInfinity := saturate (-2 ^ 31)
  half := saturate 1
  minStrokeWidth := saturate 1
  sqrt2 := saturate 1
  nearlyZero := saturate 0
  isFinite value := decide (-2 ^ 31 < value.1 ∧ value.1 < 2 ^ 31)
  mod first second := saturate (first.1 % second.1)
  kMaxCullRect := ⟨saturate (-10 ^ 9), saturate (-10 ^ 9), saturate (10 ^ 9), saturate (10 ^ 9)⟩
  rects := rects
  rectIsFinite rect := [rect.fLeft, rect.fTop, rect.fRight, rect.fBottom].all
    fun value => decide (-2 ^ 31 < value.1 ∧ value.1 < 2 ^ 31)
  contains outer inner := decide (outer.fLeft.1 ≤ inner.fLeft.1 ∧ outer.fTop.1 ≤ inner.fTop.1 ∧
    inner.fRight.1 ≤ outer.fRight.1 ∧ inner.fBottom.1 ≤ outer.fBottom.1)
  roundOutIRect rect := ⟨rect.fLeft.1, rect.fTop.1, rect.fRight.1, rect.fBottom.1⟩
  rrectIsOval _ := false
  ofOval rect := rect
  pathIsOval _ := none
  pathIsRRect _ := none
  toQuad _ _ _ := []
  scaleMatrix _ _ := (saturate 0, saturate 0)
  shadowBounds path _ _ _ := path
  verticesBounds _ := rects.empty
  textBlobBounds _ := rects.empty
  textFrameBounds _ := rects.empty
  imageWidth _ := saturate 0
  imageHeight _ := saturate 0
  imageIsUIThreadSafe _ := true
  imageColorSourceEquals _ _ := true
  gradientEquals _ _ := true
  runtimeEffectEquals _ _ := true
  colorSourceIsOpaque _ := true
  colorSourceIsUIThreadSafe _ := true
  colorFilterEquals _ _ := true
  colorFilterModifiesTransparentBlack _ := false
  imageFilterEquals _ _ := true
  imageFilterIsPod _ := true
  imageFilterModifiesTransparentBlack _ := false
  mapLocalBounds _ rect := (rect, true)
  mapDeviceBounds _ rect _ := (rect, true)
  pathEffectEquals _ _ := true
  effectBounds _ rect := some rect
  maskFilterEquals _ _ := true
  blurSigma _ := saturate 0
  opCount _ _ := 0
  nestedBytes _ := 0
  nestedBounds _ := rects.empty
  nestedRects _ _ := none
  nestedCanApplyGroupOpacity _ := true
  nestedIsUIThreadSafe _ := true
  nestedModifiesTransparentBlack _ := false
  recordSize _ := 16

theorem boundsLaws : BoundsLaws kit where
  irrefl scalar := lt_irrefl (scalar : Coordinate)
  trans first second := lt_trans (α := Coordinate) first second
  le_of_lt less := le_of_lt (α := Coordinate) less
  lt_infinity := by
    intro first second less
    have below : first.1 < second.1 := less
    change first.1 < (2 : Int) ^ 31
    omega
  negInfinity_lt := by
    intro first second less
    have below : first.1 < second.1 := less
    change (-2 : Int) ^ 31 < second.1
    omega
  intersect_area := by
    intro first second both intersected
    obtain ⟨filled, same⟩ := Option.ite_none_left_eq_some.mp intersected
    cases same
    exact isEmpty_eq_false.mp (Bool.eq_false_iff.mpr filled)
  filled across down := isEmpty_eq_false.mpr ⟨across, down⟩

def square (start size : Nat) : SkRect Coordinate :=
  ⟨saturate start, saturate start, saturate (start + size), saturate (start + size)⟩

end FlutterEngine.DisplayList.WholeNumbers
