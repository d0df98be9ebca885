import Mathlib.Data.Rat.Floor
import FlutterEngine.DisplayList.MatrixClipTracker

/-!
# The cull rectangle against the true clip

With exact coordinates, the device points that survive a clip. Edges have no
area: a clip keeps what is strictly inside, a difference clip takes its edges away too,
and under a matrix without an inverse nothing has an area. An anti-aliased clip keeps
every pixel that it leaves some coverage.
-/

namespace FlutterEngine.DisplayList

/-- A point of the plane. -/
abbrev Point : Type := Rat × Rat

/-! ## Areas -/

/-- What is strictly inside a shape, and what is inside or on its edge. -/
structure Area where
  fills : Set Point
  covers : Set Point

namespace SkRect

def area (rect : SkRect Rat) : Area where
  fills := { point | (rect.fLeft < point.1 ∧ point.1 < rect.fRight) ∧
    rect.fTop < point.2 ∧ point.2 < rect.fBottom }
  covers := { point | (rect.fLeft ≤ point.1 ∧ point.1 ≤ rect.fRight) ∧
    rect.fTop ≤ point.2 ∧ point.2 ≤ rect.fBottom }

/-- Inside, or on the left or the top edge, as a pixel is. -/
def Holds (rect : SkRect Rat) (point : Point) : Prop :=
  (rect.fLeft ≤ point.1 ∧ point.1 < rect.fRight) ∧ rect.fTop ≤ point.2 ∧ point.2 < rect.fBottom

theorem holds_of_fills {rect : SkRect Rat} {point : Point} (fills : point ∈ rect.area.fills) :
    rect.Holds point := ⟨⟨fills.1.1.le, fills.1.2⟩, fills.2.1.le, fills.2.2⟩

theorem covers_of_holds {rect : SkRect Rat} {point : Point} (holds : rect.Holds point) :
    point ∈ rect.area.covers := ⟨⟨holds.1.1, holds.1.2.le⟩, holds.2.1, holds.2.2.le⟩

end SkRect

/-- The inside of the pixel of a device point. -/
def pixel (point : Point) : Set Point :=
  { other | ((⌊point.1⌋ : Rat) < other.1 ∧ other.1 < ⌊point.1⌋ + 1) ∧
    (⌊point.2⌋ : Rat) < other.2 ∧ other.2 < ⌊point.2⌋ + 1 }

section Meaning

variable {RRect Path : Type} (sk : SkGeometry Rat RRect Path)

/-- Where matrices draw points, and the areas of the shapes that are not rectangles. -/
structure Drawing where
  maps : sk.SkMatrix → Point → Point → Prop
  rrectArea : RRect → Area
  /-- Of the path when it is filled, also when its fill type is inverse. -/
  pathArea : Path → Area

variable {sk}

/-- Two spans overlap. -/
def Overlap (first second : SkRect Rat) : Prop :=
  max first.fLeft second.fLeft < min first.fRight second.fRight ∧
    max first.fTop second.fTop < min first.fBottom second.fBottom

variable {point : Point}

theorem overlap_of_holds {first second : SkRect Rat} (inFirst : first.Holds point)
    (inSecond : second.Holds point) : Overlap first second :=
  ⟨(max_le inFirst.1.1 inSecond.1.1).trans_lt (lt_min inFirst.1.2 inSecond.1.2),
    (max_le inFirst.2.1 inSecond.2.1).trans_lt (lt_min inFirst.2.2 inSecond.2.2)⟩

/-- Skia's geometry on exact coordinates. -/
structure ExactGeometry (drawing : Drawing sk) : Prop where
  literal_eq : ∀ number, sk.literal number = number
  isEmpty_iff : ∀ rect, sk.isEmpty rect = true ↔
    ¬(rect.fLeft < rect.fRight ∧ rect.fTop < rect.fBottom)
  intersects_iff : ∀ first second, sk.intersects first second = true ↔ Overlap first second
  /-- Rectangles that overlap intersect in what they share. -/
  intersect_overlap : ∀ first second, Overlap first second →
    sk.intersect first second = some
      ⟨max first.fLeft second.fLeft, max first.fTop second.fTop,
        min first.fRight second.fRight, min first.fBottom second.fBottom⟩
  roundOut_eq : ∀ rect,
    sk.roundOut rect = ⟨⌊rect.fLeft⌋, ⌊rect.fTop⌋, ⌈rect.fRight⌉, ⌈rect.fBottom⌉⟩
  /-- The mapped bounds are around what the matrix draws. -/
  mapRect_fills : ∀ matrix rect point image, sk.hasPerspective matrix = false →
    (sk.invert matrix).isSome = true → point ∈ rect.area.fills →
    drawing.maps matrix point image → image ∈ (sk.mapRect matrix rect).1.area.fills
  mapRect_bounds : ∀ matrix rect point image, sk.hasPerspective matrix = false →
    point ∈ rect.area.covers → drawing.maps matrix point image →
    image ∈ (sk.mapRect matrix rect).1.area.covers
  /-- A matrix that maps rectangles to rectangles draws all of the mapped bounds. -/
  mapRect_covers : ∀ matrix rect mapped, sk.hasPerspective matrix = false →
    sk.isEmpty rect = false → sk.mapRect matrix rect = (mapped, true) →
    (sk.invert matrix).isSome = true ∧
      ∀ image ∈ mapped.area.covers, ∃ point ∈ rect.area.covers, drawing.maps matrix point image
  /-- Without perspective in its last row an `SkM44` has none as an `SkMatrix`. -/
  asM33_perspective : ∀ m44, sk.rc m44 3 0 = 0 → sk.rc m44 3 1 = 0 → sk.rc m44 3 3 = 1 →
    sk.hasPerspective (sk.asM33 m44) = false
  rrect_fills : ∀ rrect, (drawing.rrectArea rrect).fills ⊆ (sk.getBounds rrect).area.fills
  rrect_covers : ∀ rrect, sk.isRect rrect = true →
    (sk.getBounds rrect).area.covers ⊆ (drawing.rrectArea rrect).covers
  path_fills : ∀ path, (drawing.pathArea path).fills ⊆ (sk.pathBounds path).area.fills
  path_covers : ∀ path rect, sk.pathIsRect path = some rect →
    rect.area.covers ⊆ (drawing.pathArea path).covers

/-! ## The true clip -/

namespace Drawing

variable (drawing : Drawing sk) (matrix : TrackedMatrix sk)

/-- The device points a set of points is drawn at. -/
def image (points : Set Point) : Set Point :=
  { image | matrix.canBeInverted = true ∧
    ∃ point ∈ points, drawing.maps matrix.matrix3x3 point image }

/-- The device points that are inside the clip or, for a difference, outside it. -/
def region (area : Area) : ClipOp → Set Point
  | .intersect => drawing.image matrix area.fills
  | .difference => (drawing.image matrix area.covers)ᶜ

/-- An inverse path is what is outside the path. -/
def pathRegion (path : Path) (op : ClipOp) : Set Point :=
  match op, sk.isInverseFillType path with
  | .intersect, false => drawing.region matrix (drawing.pathArea path) .intersect
  | .intersect, true => drawing.region matrix (drawing.pathArea path) .difference
  | .difference, false => drawing.region matrix (drawing.pathArea path) .difference
  | .difference, true => drawing.region matrix (drawing.pathArea path) .intersect

end Drawing

/-- What a clip to a region leaves visible: the pixels with some coverage when it is
anti-aliased. -/
def survivors (isAA : Bool) (region : Set Point) : Set Point :=
  if isAA then { point | ∃ other ∈ pixel point, other ∈ region } else region

theorem survivors_mono {isAA : Bool} {small large : Set Point} (subset : small ⊆ large) :
    survivors isAA small ⊆ survivors isAA large := by
  cases isAA with
  | false => exact subset
  | true => exact fun _ ⟨other, near, inside⟩ => ⟨other, near, subset inside⟩

theorem Drawing.region_mono (drawing : Drawing sk) (matrix : TrackedMatrix sk)
    {first second : Area} {op : ClipOp} (fills : first.fills ⊆ second.fills)
    (covers : op = .difference → second.covers ⊆ first.covers) :
    drawing.region matrix first op ⊆ drawing.region matrix second op := by
  cases op with
  | intersect => exact fun _ ⟨inverse, point, inside, maps⟩ => ⟨inverse, point, fills inside, maps⟩
  | difference =>
    exact fun _ outside ⟨inverse, point, inside, maps⟩ =>
      outside ⟨inverse, point, covers rfl inside, maps⟩

/-! ## One clip -/

section Axis

/-- A pixel that reaches strictly past a left or top edge is right of it rounded out. -/
theorem floor_le_of_pixel {edge coordinate inside : Rat} (past : edge < inside)
    (near : inside < ⌊coordinate⌋ + 1) : (⌊edge⌋ : Rat) ≤ coordinate := by
  have before : edge < ((⌊coordinate⌋ + 1 : Int) : Rat) := by
    push_cast
    linarith
  have rounded : ⌊edge⌋ ≤ ⌊coordinate⌋ := Int.lt_add_one_iff.mp (Int.floor_lt.mpr before)
  calc (⌊edge⌋ : Rat) ≤ ⌊coordinate⌋ := by exact_mod_cast rounded
    _ ≤ coordinate := Int.floor_le coordinate

/-- A pixel that begins strictly before a right or bottom edge is left of it rounded out. -/
theorem lt_ceil_of_pixel {edge coordinate inside : Rat} (before : inside < edge)
    (near : (⌊coordinate⌋ : Rat) < inside) : coordinate < (⌈edge⌉ : Rat) := by
  have below : ⌊coordinate⌋ < ⌈edge⌉ := Int.lt_ceil.mpr (near.trans before)
  calc coordinate < ⌊coordinate⌋ + 1 := Int.lt_floor_add_one coordinate
    _ ≤ ⌈edge⌉ := by exact_mod_cast below

end Axis

namespace ExactGeometry

variable {drawing : Drawing sk} (exact : ExactGeometry drawing)
include exact

theorem not_holds_of_isEmpty {rect : SkRect Rat} (empty : sk.isEmpty rect = true) (point : Point) :
    ¬rect.Holds point := fun holds =>
  (exact.isEmpty_iff rect).mp empty
    ⟨holds.1.1.trans_lt holds.1.2, holds.2.1.trans_lt holds.2.2⟩

theorem intersect_holds {first second : SkRect Rat} (inFirst : first.Holds point)
    (inSecond : second.Holds point) (otherwise : SkRect Rat) :
    ((sk.intersect first second).getD otherwise).Holds point := by
  rw [exact.intersect_overlap first second (overlap_of_holds inFirst inSecond)]
  exact ⟨⟨max_le inFirst.1.1 inSecond.1.1, lt_min inFirst.1.2 inSecond.1.2⟩,
    max_le inFirst.2.1 inSecond.2.1, lt_min inFirst.2.2 inSecond.2.2⟩

/-- A pixel that a rectangle covers in part is in it rounded out. -/
theorem roundOut_holds {rect : SkRect Rat} {other : Point} (near : other ∈ pixel point)
    (fills : other ∈ rect.area.fills) : (sk.roundOut rect).Holds point := by
  rw [exact.roundOut_eq]
  exact ⟨⟨floor_le_of_pixel fills.1.1 near.1.2, lt_ceil_of_pixel fills.1.2 near.1.1⟩,
    floor_le_of_pixel fills.2.1 near.2.2, lt_ceil_of_pixel fills.2.2 near.2.1⟩

end ExactGeometry

/-- Whether a difference clip to this rectangle takes anything off the cull rectangle. -/
def slices (sk : SkGeometry Rat RRect Path) (rect cull : SkRect Rat) : Bool :=
  sk.intersects rect cull &&
    (TrackedData.spansWidth rect cull &&
        (decide (rect.fTop ≤ cull.fTop) || decide (cull.fBottom ≤ rect.fBottom)) ||
      TrackedData.spansHeight rect cull &&
        (decide (rect.fLeft ≤ cull.fLeft) || decide (cull.fRight ≤ rect.fRight)))

/-- A cull span keeps a place that the rectangle is apart from, so it does not become empty. -/
theorem kept_of_apart {start stop low high place : Rat} (above : low ≤ place) (below : place < high)
    (apart : start ≤ low ∨ high ≤ stop → start ≤ place → stop ≤ place) :
    (if start ≤ low then stop else low) ≤ place ∧
      place < if high ≤ stop then start else high := by
  constructor
  · split
    · next reaches => exact apart (.inl reaches) (reaches.trans above)
    · exact above
  · split
    · next reaches =>
        refine not_le.mp fun past => ?_
        exact absurd (apart (.inr reaches) past) (not_le.mpr (below.trans_le reaches))
    · exact below

variable {rect cull : SkRect Rat} {left top right bottom : Int}

theorem sliceRows_holds (inside : cull.Holds point)
    (spans : TrackedData.spansWidth rect cull = true)
    (outside : rect.fTop ≤ cull.fTop ∨ cull.fBottom ≤ rect.fBottom → ¬rect.Holds point) :
    (TrackedData.sliceRows sk rect cull).Holds point := by
  obtain ⟨⟨left, right⟩, top, bottom⟩ := inside
  simp only [TrackedData.spansWidth, Bool.and_eq_true, decide_eq_true_eq] at spans
  have across : rect.fLeft ≤ point.1 ∧ point.1 < rect.fRight :=
    ⟨spans.1.trans left, right.trans_le spans.2⟩
  have kept := kept_of_apart top bottom fun reaches below =>
    not_lt.mp fun above => outside reaches ⟨across, below, above⟩
  rw [TrackedData.sliceRows, if_pos (kept.1.trans_lt kept.2)]
  exact ⟨⟨left, right⟩, kept⟩

theorem sliceColumns_holds (inside : cull.Holds point)
    (spans : TrackedData.spansHeight rect cull = true)
    (outside : rect.fLeft ≤ cull.fLeft ∨ cull.fRight ≤ rect.fRight → ¬rect.Holds point) :
    (TrackedData.sliceColumns sk rect cull).Holds point := by
  obtain ⟨⟨left, right⟩, top, bottom⟩ := inside
  simp only [TrackedData.spansHeight, Bool.and_eq_true, decide_eq_true_eq] at spans
  have down : rect.fTop ≤ point.2 ∧ point.2 < rect.fBottom :=
    ⟨spans.1.trans top, bottom.trans_le spans.2⟩
  have kept := kept_of_apart left right fun reaches past =>
    not_lt.mp fun before => outside reaches ⟨⟨past, before⟩, down⟩
  rw [TrackedData.sliceColumns, if_pos (kept.1.trans_lt kept.2)]
  exact ⟨kept, top, bottom⟩

/-- The slice keeps every point that the rectangle does not hold. -/
theorem slice_holds (inside : cull.Holds point)
    (outside : slices sk rect cull = true → ¬rect.Holds point) :
    (TrackedData.slice sk rect cull).Holds point := by
  unfold TrackedData.slice
  cases meets : sk.intersects rect cull with
  | false => exact inside
  | true =>
    simp only [slices, meets, Bool.true_and, Bool.or_eq_true, Bool.and_eq_true,
      decide_eq_true_eq] at outside
    simp only [Bool.not_true, Bool.false_eq_true, if_false]
    split
    · next spans => exact sliceRows_holds inside spans fun reaches => outside (.inl ⟨spans, reaches⟩)
    · split
      · next spans =>
          exact sliceColumns_holds inside spans fun reaches => outside (.inr ⟨spans, reaches⟩)
      · exact inside

/-- The pixels that the rounded bounds of an anti-aliased difference clip slice off the
cull rectangle are covered by the bounds before they were rounded. -/
def CoversSlices (data : TrackedData sk) (clip : SkRect Rat) : Prop :=
  data.matrix.hasPerspective = false → sk.isEmpty clip = false →
    ∀ mapped, data.matrix.mapRect clip = (mapped, true) → sk.isEmptyIRect (sk.round mapped) = false →
      slices sk (sk.ofIRect (sk.round mapped)) data.cullRect = true →
        ∀ point, data.cullRect.Holds point → (sk.ofIRect (sk.round mapped)).Holds point →
          pixel point ⊆ mapped.area.covers

/-- A rectangle with whole edges covers all of the pixels it holds. -/
theorem pixel_subset_covers (holds : (⟨left, top, right, bottom⟩ : SkRect Rat).Holds point) :
    pixel point ⊆ (⟨left, top, right, bottom⟩ : SkRect Rat).area.covers := by
  have starts : ∀ {edge : Int} {coordinate inside : Rat}, edge ≤ coordinate →
      (⌊coordinate⌋ : Rat) < inside → (edge : Rat) ≤ inside := fun past near =>
    (Int.cast_le.mpr (Int.le_floor.mpr past)).trans near.le
  have ends : ∀ {edge : Int} {coordinate inside : Rat}, coordinate < edge →
      inside < ⌊coordinate⌋ + 1 → inside ≤ (edge : Rat) := fun before near =>
    near.le.trans (by exact_mod_cast Int.floor_lt.mpr before)
  rintro other ⟨⟨left', right'⟩, top', bottom'⟩
  exact ⟨⟨starts holds.1.1 left', ends holds.1.2 right'⟩, starts holds.2.1 top',
    ends holds.2.2 bottom'⟩

variable {clip : SkRect Rat}

/-- Bounds with whole edges, which rounding leaves alone, cover what they slice off. -/
theorem CoversSlices.of_whole {data : TrackedData sk}
    (maps : (data.matrix.mapRect clip).1 = ⟨left, top, right, bottom⟩)
    (rounds : sk.ofIRect (sk.round ⟨left, top, right, bottom⟩) = ⟨left, top, right, bottom⟩) :
    CoversSlices data clip := by
  intro _ _ mapped mapped_eq _ _ point _ holds
  rw [mapped_eq] at maps
  subst maps
  rw [rounds] at holds
  exact pixel_subset_covers holds

section Clip

variable {drawing : Drawing sk} (exact : ExactGeometry drawing) {data : TrackedData sk}
include exact

/-- The tracked matrix has no perspective as an `SkMatrix` either. -/
theorem ExactGeometry.matrix3x3_perspective {matrix : TrackedMatrix sk}
    (flat : matrix.hasPerspective = false) : sk.hasPerspective matrix.matrix3x3 = false := by
  cases matrix with
  | data3x3 matrix => exact flat
  | data4x4 m44 =>
    simp only [TrackedMatrix.hasPerspective, exact.literal_eq, Bool.or_eq_false_iff,
      bne_eq_false_iff_eq, Nat.cast_zero, Nat.cast_one] at flat
    exact exact.asM33_perspective m44 flat.1.1.1 flat.1.1.2 flat.2

theorem ExactGeometry.clipIntersect_holds {isAA : Bool} (inside : data.cullRect.Holds point)
    (survives : point ∈ survivors isAA (drawing.region data.matrix clip.area .intersect)) :
    (data.clippedRect clip .intersect isAA).Holds point := by
  simp only [TrackedData.clippedRect]
  split
  · exact inside
  split
  · exact inside
  next flat =>
  have flat := exact.matrix3x3_perspective (Bool.eq_false_iff.mpr flat)
  have mapped : ∀ image ∈ drawing.region data.matrix clip.area .intersect,
      image ∈ (data.matrix.mapRect clip).1.area.fills := fun image ⟨inverse, point, fills, maps⟩ =>
    exact.mapRect_fills _ _ _ _ flat inverse fills maps
  have filled : sk.isEmpty clip = false := by
    have region : (drawing.region data.matrix clip.area .intersect).Nonempty := by
      cases isAA with
      | false => exact ⟨point, survives⟩
      | true =>
        obtain ⟨other, -, inside⟩ := survives
        exact ⟨other, inside⟩
    obtain ⟨image, -, point, fills, -⟩ := region
    refine Bool.eq_false_iff.mpr fun empty => ?_
    exact exact.not_holds_of_isEmpty empty point (SkRect.holds_of_fills fills)
  simp only [filled, Bool.false_eq_true, if_false]
  cases isAA with
  | false => exact exact.intersect_holds inside (SkRect.holds_of_fills (mapped _ survives)) _
  | true =>
    obtain ⟨other, near, region⟩ := survives
    exact exact.intersect_holds inside (exact.roundOut_holds near (mapped _ region)) _

theorem ExactGeometry.clipDifference_holds {isAA : Bool}
    (covers : isAA = true → CoversSlices data clip) (inside : data.cullRect.Holds point)
    (survives : point ∈ survivors isAA (drawing.region data.matrix clip.area .difference)) :
    (data.clippedRect clip .difference isAA).Holds point := by
  simp only [TrackedData.clippedRect]
  split
  · exact inside
  split
  · exact inside
  next perspective =>
  have perspective := Bool.eq_false_iff.mpr perspective
  split
  · exact inside
  next filled =>
  have filled := Bool.eq_false_iff.mpr filled
  split
  · exact inside
  next mapped maps =>
  obtain ⟨inverse, drawn⟩ :=
    exact.mapRect_covers _ _ _ (exact.matrix3x3_perspective perspective) filled maps
  have outside : ∀ image ∈ drawing.region data.matrix clip.area .difference,
      image ∉ mapped.area.covers := fun image region covered => region ⟨inverse, drawn image covered⟩
  cases isAA with
  | false =>
    refine slice_holds inside fun _ holds => ?_
    exact outside point survives (SkRect.covers_of_holds holds)
  | true =>
    obtain ⟨other, near, region⟩ := survives
    simp only [if_true]
    split
    · exact inside
    next rounded =>
    refine slice_holds inside fun reaches holds => outside other region ?_
    exact covers rfl perspective filled mapped maps (Bool.eq_false_iff.mpr rounded) reaches point
      inside holds near

end Clip

end Meaning

/-! ## Translations

The geometry above on the matrices that only translate, where rounded rectangles and paths
are rectangles.
-/

namespace Translations

/-- To the nearest whole number, halves up. -/
def roundToInt (coordinate : Rat) : Int := ⌊coordinate + 1 / 2⌋

def translateRect (offset : Point) (rect : SkRect Rat) : SkRect Rat :=
  ⟨rect.fLeft + offset.1, rect.fTop + offset.2, rect.fRight + offset.1, rect.fBottom + offset.2⟩

def intersection (first second : SkRect Rat) : SkRect Rat :=
  ⟨max first.fLeft second.fLeft, max first.fTop second.fTop,
    min first.fRight second.fRight, min first.fBottom second.fBottom⟩

def isEmpty (rect : SkRect Rat) : Bool :=
  !(decide (rect.fLeft < rect.fRight) && decide (rect.fTop < rect.fBottom))

/-- The entries of the matrix of a translation. -/
def entry (offset : Point) : Nat → Nat → Rat
  | 0, 3 => offset.1
  | 1, 3 => offset.2
  | row, column => if row = column then 1 else 0

/-- Matrices are the offsets they translate by. -/
def geometry : SkGeometry Rat (SkRect Rat) (SkRect Rat) where
  literal number := number
  isEmpty := isEmpty
  intersect first second :=
    if isEmpty (intersection first second) then none else some (intersection first second)
  intersects first second := !isEmpty (intersection first second)
  roundOut rect := ⟨⌊rect.fLeft⌋, ⌊rect.fTop⌋, ⌈rect.fRight⌉, ⌈rect.fBottom⌉⟩
  round rect := ⟨roundToInt rect.fLeft, roundToInt rect.fTop, roundToInt rect.fRight,
    roundToInt rect.fBottom⟩
  isEmptyIRect rect := !(decide (rect.fLeft < rect.fRight) && decide (rect.fTop < rect.fBottom))
  ofIRect rect := ⟨rect.fLeft, rect.fTop, rect.fRight, rect.fBottom⟩
  isRect _ := true
  getBounds rect := rect
  isInverseFillType _ := false
  pathBounds rect := rect
  pathIsRect rect := some rect
  SkMatrix := Point
  identity := (0, 0)
  preTranslate offset tx ty := (offset.1 + tx, offset.2 + ty)
  preScale offset _ _ := offset
  preSkew offset _ _ := offset
  preRotate offset _ := offset
  preConcat offset other := (offset.1 + other.1, offset.2 + other.2)
  skew _ _ := (0, 0)
  rotateDeg _ := (0, 0)
  makeAll _ _ tx _ _ ty _ _ _ := (tx, ty)
  hasPerspective _ := false
  mapRect offset rect := (translateRect offset rect, true)
  invert offset := some (-offset.1, -offset.2)
  SkM44 := Point
  identity44 := (0, 0)
  ofMatrix offset := offset
  asM33 offset := offset
  makeM44 _ _ _ tx _ _ _ ty _ _ _ _ _ _ _ _ := (tx, ty)
  rc := entry
  preTranslate44 offset tx ty := (offset.1 + tx, offset.2 + ty)
  preScale44 offset _ _ := offset
  preConcat44 offset other := (offset.1 + other.1, offset.2 + other.2)
  invert44 offset := some (-offset.1, -offset.2)

def drawing : Drawing geometry where
  maps offset point image := image = (point.1 + offset.1, point.2 + offset.2)
  rrectArea := SkRect.area
  pathArea := SkRect.area

theorem isEmpty_eq_false {rect : SkRect Rat} :
    isEmpty rect = false ↔ rect.fLeft < rect.fRight ∧ rect.fTop < rect.fBottom := by
  simp [isEmpty]

theorem exactGeometry : ExactGeometry drawing where
  literal_eq _ := rfl
  isEmpty_iff rect := by
    rw [← Bool.not_eq_false]
    exact not_congr isEmpty_eq_false
  intersects_iff first second := by
    have filled : isEmpty (intersection first second) = false ↔ Overlap first second :=
      isEmpty_eq_false
    rw [← filled]
    exact Bool.not_eq_true' _ |>.to_iff
  intersect_overlap first second overlap := by
    have filled : isEmpty (intersection first second) = false := isEmpty_eq_false.mpr overlap
    exact if_neg (Bool.eq_false_iff.mp filled)
  roundOut_eq _ := rfl
  mapRect_fills offset rect point image _ _ fills maps := by
    obtain ⟨⟨left, right⟩, top, bottom⟩ := fills
    subst maps
    exact ⟨⟨add_lt_add_left left _, add_lt_add_left right _⟩, add_lt_add_left top _,
      add_lt_add_left bottom _⟩
  mapRect_bounds offset rect point image _ covers maps := by
    obtain ⟨⟨left, right⟩, top, bottom⟩ := covers
    subst maps
    exact ⟨⟨add_le_add_left left _, add_le_add_left right _⟩, add_le_add_left top _,
      add_le_add_left bottom _⟩
  mapRect_covers offset rect mapped _ _ maps := by
    cases maps
    refine ⟨rfl, fun image ⟨⟨left, right⟩, top, bottom⟩ => ?_⟩
    refine ⟨(image.1 - offset.1, image.2 - offset.2), ⟨⟨?_, ?_⟩, ?_, ?_⟩, ?_⟩
    · exact le_sub_iff_add_le.mpr left
    · exact sub_le_iff_le_add.mpr right
    · exact le_sub_iff_add_le.mpr top
    · exact sub_le_iff_le_add.mpr bottom
    · exact Prod.ext (sub_add_cancel _ _).symm (sub_add_cancel _ _).symm
  asM33_perspective _ _ _ _ := rfl
  rrect_fills _ := subset_rfl
  rrect_covers _ _ := subset_rfl
  path_fills _ := subset_rfl
  path_covers rect bounds isRect := by
    cases isRect
    exact subset_rfl

end Translations

end FlutterEngine.DisplayList
