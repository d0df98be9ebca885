import FlutterEngine.DisplayList.CullRect
import FlutterEngine.Std.Homogeneous
import Mathlib.LinearAlgebra.Matrix.Adjugate

/-!
# Trackers of either representation agree

With exact arithmetic a tracker that keeps a 3x3 matrix for as long as it can reports what
one reports that keeps a 4x4 matrix from the start.
-/

namespace FlutterEngine.DisplayList

open FlutterEngine.Std

variable {Scalar RRect Path : Type} [CommRing Scalar] [DecidableEq Scalar]
  {sk : SkGeometry Scalar RRect Path}

/-- The entries of Skia's matrices, row by row. -/
structure MatrixEntries (sk : SkGeometry Scalar RRect Path) where
  plane : sk.SkMatrix → Matrix (Fin 3) (Fin 3) Scalar
  space : sk.SkM44 → Matrix (Fin 4) (Fin 4) Scalar

/-- Skia's operations on matrices, with exact arithmetic. -/
structure ExactMatrices (entries : MatrixEntries sk) : Prop where
  literal_zero : sk.literal 0 = 0
  literal_one : sk.literal 1 = 1
  plane_injective : Function.Injective entries.plane
  space_injective : Function.Injective entries.space
  identity : entries.plane sk.identity = 1
  identity44 : entries.space sk.identity44 = 1
  preTranslate : ∀ matrix tx ty, entries.plane (sk.preTranslate matrix tx ty) =
    entries.plane matrix * !![1, 0, tx; 0, 1, ty; 0, 0, 1]
  preScale : ∀ matrix sx sy, entries.plane (sk.preScale matrix sx sy) =
    entries.plane matrix * !![sx, 0, 0; 0, sy, 0; 0, 0, 1]
  preSkew : ∀ matrix skx sky, entries.plane (sk.preSkew matrix skx sky) =
    entries.plane matrix * entries.plane (sk.skew skx sky)
  preRotate : ∀ matrix degrees, entries.plane (sk.preRotate matrix degrees) =
    entries.plane matrix * entries.plane (sk.rotateDeg degrees)
  preConcat : ∀ matrix other, entries.plane (sk.preConcat matrix other) =
    entries.plane matrix * entries.plane other
  makeAll : ∀ a b c d e f g h i, entries.plane (sk.makeAll a b c d e f g h i) =
    !![a, b, c; d, e, f; g, h, i]
  hasPerspective : ∀ matrix, sk.hasPerspective matrix =
    !decide (entries.plane matrix 2 0 = 0 ∧ entries.plane matrix 2 1 = 0 ∧
      entries.plane matrix 2 2 = 1)
  /-- An `SkMatrix` as an `SkM44` leaves the third coordinate alone. -/
  ofMatrix : ∀ matrix, entries.space (sk.ofMatrix matrix) =
    Homogeneous.embed (entries.plane matrix)
  /-- An `SkM44` as an `SkMatrix` is without its third row and column. -/
  asM33 : ∀ m44, entries.plane (sk.asM33 m44) = Homogeneous.project (entries.space m44)
  rc : ∀ m44 (row column : Fin 4), sk.rc m44 row column = entries.space m44 row column
  makeM44 : ∀ a b c d e f g h i j k l m n o q,
    entries.space (sk.makeM44 a b c d e f g h i j k l m n o q) =
      !![a, b, c, d; e, f, g, h; i, j, k, l; m, n, o, q]
  preTranslate44 : ∀ m44 tx ty, entries.space (sk.preTranslate44 m44 tx ty) =
    entries.space m44 * !![1, 0, 0, tx; 0, 1, 0, ty; 0, 0, 1, 0; 0, 0, 0, 1]
  preScale44 : ∀ m44 sx sy, entries.space (sk.preScale44 m44 sx sy) =
    entries.space m44 * !![sx, 0, 0, 0; 0, sy, 0, 0; 0, 0, 1, 0; 0, 0, 0, 1]
  preConcat44 : ∀ m44 other, entries.space (sk.preConcat44 m44 other) =
    entries.space m44 * entries.space other

/-! ## Matrices -/

namespace ExactMatrices

variable {entries : MatrixEntries sk} (exact : ExactMatrices entries)
include exact

theorem asM33_ofMatrix (matrix : sk.SkMatrix) : sk.asM33 (sk.ofMatrix matrix) = matrix := by
  apply exact.plane_injective
  rw [exact.asM33, exact.ofMatrix, Homogeneous.project_embed]

theorem ofMatrix_identity : sk.ofMatrix sk.identity = sk.identity44 := by
  apply exact.space_injective
  rw [exact.ofMatrix, exact.identity, exact.identity44, Homogeneous.embed_one]

theorem ofMatrix_preConcat (matrix other : sk.SkMatrix) :
    sk.ofMatrix (sk.preConcat matrix other) =
      sk.preConcat44 (sk.ofMatrix matrix) (sk.ofMatrix other) := by
  apply exact.space_injective
  rw [exact.ofMatrix, exact.preConcat, exact.preConcat44, exact.ofMatrix, exact.ofMatrix,
    Homogeneous.embed_mul]

theorem ofMatrix_preSkew (matrix : sk.SkMatrix) (skx sky : Scalar) :
    sk.ofMatrix (sk.preSkew matrix skx sky) =
      sk.preConcat44 (sk.ofMatrix matrix) (sk.ofMatrix (sk.skew skx sky)) := by
  rw [← exact.ofMatrix_preConcat]
  exact congrArg sk.ofMatrix
    (exact.plane_injective ((exact.preSkew _ _ _).trans (exact.preConcat _ _).symm))

theorem ofMatrix_preRotate (matrix : sk.SkMatrix) (degrees : Scalar) :
    sk.ofMatrix (sk.preRotate matrix degrees) =
      sk.preConcat44 (sk.ofMatrix matrix) (sk.ofMatrix (sk.rotateDeg degrees)) := by
  rw [← exact.ofMatrix_preConcat]
  exact congrArg sk.ofMatrix
    (exact.plane_injective ((exact.preRotate _ _).trans (exact.preConcat _ _).symm))

theorem ofMatrix_preTranslate (matrix : sk.SkMatrix) (tx ty : Scalar) :
    sk.ofMatrix (sk.preTranslate matrix tx ty) = sk.preTranslate44 (sk.ofMatrix matrix) tx ty := by
  apply exact.space_injective
  rw [exact.ofMatrix, exact.preTranslate, exact.preTranslate44, exact.ofMatrix,
    Homogeneous.embed_mul]
  rfl

theorem ofMatrix_preScale (matrix : sk.SkMatrix) (sx sy : Scalar) :
    sk.ofMatrix (sk.preScale matrix sx sy) = sk.preScale44 (sk.ofMatrix matrix) sx sy := by
  apply exact.space_injective
  rw [exact.ofMatrix, exact.preScale, exact.preScale44, exact.ofMatrix, Homogeneous.embed_mul]
  rfl

theorem ofMatrix_makeAll (a b c d e f g h i : Scalar) :
    sk.ofMatrix (sk.makeAll a b c d e f g h i) =
      sk.makeM44 a b 0 c d e 0 f 0 0 1 0 g h 0 i := by
  apply exact.space_injective
  rw [exact.ofMatrix, exact.makeAll, exact.makeM44]
  rfl

/-- What passes for an `SkMatrix` is one. -/
theorem ofMatrix_asM33 {m44 : sk.SkM44} (flat : TrackedMatrix.is3x3 m44 = true) :
    sk.ofMatrix (sk.asM33 m44) = m44 := by
  apply exact.space_injective
  rw [exact.ofMatrix, exact.asM33]
  apply Homogeneous.embed_project
  have entry := exact.rc m44
  simp only [TrackedMatrix.is3x3, exact.literal_zero, exact.literal_one, Bool.and_eq_true,
    beq_iff_eq] at flat
  obtain ⟨⟨⟨⟨⟨⟨first, second⟩, left⟩, middle⟩, one⟩, right⟩, last⟩ := flat
  constructor
  · ext column
    fin_cases column
    · exact (entry 2 0).symm.trans left
    · exact (entry 2 1).symm.trans middle
    · exact (entry 2 2).symm.trans one
    · exact (entry 2 3).symm.trans right
  · intro row other
    fin_cases row
    · exact (entry 0 2).symm.trans first
    · exact (entry 1 2).symm.trans second
    · exact absurd rfl other
    · exact (entry 3 2).symm.trans last

/-- Perspective is seen in either representation. -/
theorem hasPerspective_ofMatrix (matrix : sk.SkMatrix) :
    (TrackedMatrix.data4x4 (sk.ofMatrix matrix)).hasPerspective = sk.hasPerspective matrix := by
  have entry := exact.rc (sk.ofMatrix matrix)
  rw [exact.ofMatrix] at entry
  have left : sk.rc (sk.ofMatrix matrix) 3 0 = entries.plane matrix 2 0 := entry 3 0
  have middle : sk.rc (sk.ofMatrix matrix) 3 1 = entries.plane matrix 2 1 := entry 3 1
  have depth : sk.rc (sk.ofMatrix matrix) 3 2 = 0 := entry 3 2
  have right : sk.rc (sk.ofMatrix matrix) 3 3 = entries.plane matrix 2 2 := entry 3 3
  rw [TrackedMatrix.hasPerspective, left, middle, depth, right, exact.hasPerspective,
    exact.literal_zero, exact.literal_one, Bool.eq_iff_iff]
  simp only [bne_self_eq_false, Bool.or_false, Bool.or_eq_true, bne_iff_ne, Bool.not_eq_true',
    decide_eq_false_iff_not]
  tauto

end ExactMatrices

/-! ## The copy that upgrades -/

/-- `Data4x4(const Data*)`: the same matrix, kept as 4x4. -/
def TrackedMatrix.upgraded (matrix : TrackedMatrix sk) : TrackedMatrix sk :=
  .data4x4 matrix.matrix4x4

/-- `Data4x4(const Data*)`. -/
def TrackedData.upgraded (data : TrackedData sk) : TrackedData sk :=
  { data with matrix := data.matrix.upgraded }

/-- The tracker with every entry upgraded. -/
def DisplayListMatrixClipTracker.upgraded (tracker : DisplayListMatrixClipTracker sk) :
    DisplayListMatrixClipTracker sk :=
  ⟨tracker.originalCullRect, tracker.current.upgraded, tracker.saved.map TrackedData.upgraded⟩

namespace TrackedMatrix

variable {entries : MatrixEntries sk} (matrix : TrackedMatrix sk)

variable (exact : ExactMatrices entries)
include exact

theorem upgraded_matrix3x3 : matrix.upgraded.matrix3x3 = matrix.matrix3x3 := by
  cases matrix with
  | data3x3 matrix => exact exact.asM33_ofMatrix matrix
  | data4x4 m44 => rfl

theorem upgraded_hasPerspective : matrix.upgraded.hasPerspective = matrix.hasPerspective := by
  cases matrix with
  | data3x3 matrix => exact exact.hasPerspective_ofMatrix matrix
  | data4x4 m44 => rfl

theorem upgraded_transform33 (concatenated : sk.SkMatrix) :
    (matrix.transform33 concatenated).upgraded = matrix.upgraded.transform33 concatenated := by
  cases matrix with
  | data3x3 matrix => exact congrArg data4x4 (exact.ofMatrix_preConcat matrix concatenated)
  | data4x4 m44 => rfl

/-- Concatenating to the 3x3 matrix what passes for one is concatenating all of it. -/
theorem upgraded_transform44 (concatenated : sk.SkM44) :
    (matrix.transform44 concatenated).upgraded = matrix.upgraded.transform44 concatenated := by
  cases matrix with
  | data4x4 m44 => rfl
  | data3x3 matrix =>
    rw [transform44]
    split
    next flat =>
      refine congrArg data4x4 ((exact.ofMatrix_preConcat matrix _).trans ?_)
      rw [exact.ofMatrix_asM33 flat]
      rfl
    next => rfl

theorem upgraded_setTransform44 (target : sk.SkM44) :
    (matrix.setTransform44 target).upgraded = matrix.upgraded.setTransform44 target := by
  cases matrix with
  | data4x4 m44 => rfl
  | data3x3 matrix =>
    rw [setTransform44]
    split
    next flat => exact congrArg data4x4 (exact.ofMatrix_asM33 flat)
    next => rfl

theorem upgraded_transform2DAffine (mxx mxy mxt myx myy myt : Scalar) :
    (matrix.transform2DAffine mxx mxy mxt myx myy myt).upgraded =
      matrix.upgraded.transform2DAffine mxx mxy mxt myx myy myt := by
  cases matrix with
  | data4x4 m44 => rfl
  | data3x3 matrix =>
    refine congrArg data4x4 ((exact.ofMatrix_preConcat matrix _).trans ?_)
    rw [exact.ofMatrix_makeAll, exact.literal_zero, exact.literal_one]
    rfl

theorem upgraded_transformFullPerspective
    (mxx mxy mxz mxt myx myy myz myt mzx mzy mzz mzt mwx mwy mwz mwt : Scalar) :
    (matrix.transformFullPerspective
        mxx mxy mxz mxt myx myy myz myt mzx mzy mzz mzt mwx mwy mwz mwt).upgraded =
      matrix.upgraded.transformFullPerspective
        mxx mxy mxz mxt myx myy myz myt mzx mzy mzz mzt mwx mwy mwz mwt := by
  have whole : matrix.upgraded.transformFullPerspective
        mxx mxy mxz mxt myx myy myz myt mzx mzy mzz mzt mwx mwy mwz mwt =
      matrix.upgraded.transform44
        (sk.makeM44 mxx mxy mxz mxt myx myy myz myt mzx mzy mzz mzt mwx mwy mwz mwt) := rfl
  rw [whole, transformFullPerspective]
  split
  next flat =>
    simp only [Bool.and_eq_true, beq_iff_eq, exact.literal_zero, exact.literal_one] at flat
    obtain ⟨-, ⟨⟨⟨⟨⟨rfl, rfl⟩, rfl⟩, rfl⟩, rfl⟩, rfl⟩, rfl⟩ := flat
    rw [upgraded_transform33 matrix exact, ← exact.ofMatrix_makeAll]
    rfl
  next => exact upgraded_transform44 matrix exact _

/-- Every call that changes the matrix treats both representations alike. -/
theorem upgraded_apply (call : TrackedTransform sk) :
    (call.apply matrix).upgraded = call.apply matrix.upgraded := by
  cases call with
  | translate tx ty =>
    cases matrix with
    | data3x3 matrix => exact congrArg data4x4 (exact.ofMatrix_preTranslate matrix tx ty)
    | data4x4 m44 => rfl
  | scale sx sy =>
    cases matrix with
    | data3x3 matrix => exact congrArg data4x4 (exact.ofMatrix_preScale matrix sx sy)
    | data4x4 m44 => rfl
  | skew skx sky =>
    cases matrix with
    | data3x3 matrix => exact congrArg data4x4 (exact.ofMatrix_preSkew matrix skx sky)
    | data4x4 m44 => rfl
  | rotate degrees =>
    cases matrix with
    | data3x3 matrix => exact congrArg data4x4 (exact.ofMatrix_preRotate matrix degrees)
    | data4x4 m44 => rfl
  | transform33 by33 => exact matrix.upgraded_transform33 exact by33
  | transform44 by44 => exact matrix.upgraded_transform44 exact by44
  | transform2DAffine mxx mxy mxt myx myy myt =>
    exact matrix.upgraded_transform2DAffine exact mxx mxy mxt myx myy myt
  | transformFullPerspective mxx mxy mxz mxt myx myy myz myt mzx mzy mzz mzt mwx mwy mwz mwt =>
    exact matrix.upgraded_transformFullPerspective exact
      mxx mxy mxz mxt myx myy myz myt mzx mzy mzz mzt mwx mwy mwz mwt
  | setTransform33 target => cases matrix <;> rfl
  | setTransform44 target => exact matrix.upgraded_setTransform44 exact target
  | setIdentity =>
    cases matrix with
    | data3x3 matrix => exact congrArg data4x4 exact.ofMatrix_identity
    | data4x4 m44 => rfl
  | inverseTransform other =>
    cases other with
    | data3x3 other =>
      simp only [TrackedTransform.apply, inverseTransform]
      cases sk.invert other with
      | none => rfl
      | some inverse => exact matrix.upgraded_transform33 exact inverse
    | data4x4 m44 =>
      simp only [TrackedTransform.apply, inverseTransform]
      cases sk.invert44 m44 with
      | none => rfl
      | some inverse => exact matrix.upgraded_transform44 exact inverse

end TrackedMatrix

/-! ## Runs -/

section Runs

variable [LE Scalar] [DecidableLE Scalar] [LT Scalar] [DecidableLT Scalar]
  {entries : MatrixEntries sk} (exact : ExactMatrices entries)
include exact

omit [LE Scalar] [DecidableLE Scalar] [LT Scalar] [DecidableLT Scalar] in
theorem TrackedData.upgraded_mapRect (data : TrackedData sk) (rect : SkRect Scalar) :
    data.upgraded.matrix.mapRect rect = data.matrix.mapRect rect :=
  congrArg (fun matrix => sk.mapRect matrix rect) (data.matrix.upgraded_matrix3x3 exact)

/-- Clipping goes by what both representations agree on. -/
theorem TrackedData.upgraded_clipBounds (data : TrackedData sk) (clip : SkRect Scalar)
    (op : ClipOp) (isAA : Bool) :
    (data.clipBounds clip op isAA).upgraded = data.upgraded.clipBounds clip op isAA := by
  have perspective : data.upgraded.matrix.hasPerspective = data.matrix.hasPerspective :=
    data.matrix.upgraded_hasPerspective exact
  have same : data.upgraded.clippedRect clip op isAA = data.clippedRect clip op isAA := by
    simp only [clippedRect, perspective, upgraded_mapRect exact]
    rfl
  rw [clipBounds, clipBounds, same]
  rfl

omit [LE Scalar] [DecidableLE Scalar] [LT Scalar] [DecidableLT Scalar] in
theorem TrackedData.upgraded_localCullRect (data : TrackedData sk) (kMaxCullRect : SkRect Scalar) :
    data.upgraded.localCullRect kMaxCullRect = data.localCullRect kMaxCullRect := by
  have matrix3x3 : data.upgraded.matrix.matrix3x3 = data.matrix.matrix3x3 :=
    data.matrix.upgraded_matrix3x3 exact
  have perspective : data.upgraded.matrix.hasPerspective = data.matrix.hasPerspective :=
    data.matrix.upgraded_hasPerspective exact
  rw [localCullRect, matrix3x3, perspective]
  rfl

namespace DisplayListMatrixClipTracker

theorem upgraded_clipRect (tracker : DisplayListMatrixClipTracker sk) (rect : SkRect Scalar)
    (op : ClipOp) (isAA : Bool) :
    (tracker.clipRect rect op isAA).upgraded = tracker.upgraded.clipRect rect op isAA := by
  rw [upgraded, clipRect, TrackedData.upgraded_clipBounds exact]
  rfl

omit [CommRing Scalar] [DecidableEq Scalar] [LE Scalar] [DecidableLE Scalar] [LT Scalar]
  [DecidableLT Scalar] exact in
theorem upgraded_restore (tracker : DisplayListMatrixClipTracker sk) :
    tracker.restore.upgraded = tracker.upgraded.restore := by
  obtain ⟨original, current, saved⟩ := tracker
  match saved with
  | [] => rfl
  | [_] => rfl
  | _ :: _ :: _ => rfl

/-- A call on the upgraded tracker is the upgrade of the call, whatever is saved. -/
theorem upgraded_call (tracker : DisplayListMatrixClipTracker sk) (call : TrackerCall sk) :
    (tracker.call call).upgraded = tracker.upgraded.call call := by
  cases call with
  | save => rfl
  | restore => exact tracker.upgraded_restore
  | transform call =>
    have matrix := tracker.current.matrix.upgraded_apply exact call
    exact congrArg tracker.upgraded.withMatrix matrix
  | clipRect rect op isAA => exact tracker.upgraded_clipRect exact rect op isAA
  | clipRRect rrect op isAA =>
    simp only [DisplayListMatrixClipTracker.call, clipRRect]
    split
    · rfl
    · exact tracker.upgraded_clipRect exact _ op isAA
  | clipPath path op isAA =>
    simp only [DisplayListMatrixClipTracker.call, clipPath]
    cases pathOp sk path op with
    | intersect => exact tracker.upgraded_clipRect exact _ .intersect isAA
    | difference =>
      cases sk.pathIsRect path with
      | none => rfl
      | some bounds => exact tracker.upgraded_clipRect exact bounds .difference isAA

theorem upgraded_run (tracker : DisplayListMatrixClipTracker sk) (calls : List (TrackerCall sk)) :
    (tracker.run calls).upgraded = tracker.upgraded.run calls := by
  induction calls generalizing tracker with
  | nil => rfl
  | cons call calls ih =>
    have step := tracker.upgraded_call exact call
    calc (run (tracker.call call) calls).upgraded
        = (tracker.call call).upgraded.run calls := ih (tracker.call call)
      _ = (tracker.upgraded.call call).run calls := congrArg (·.run calls) step

end DisplayListMatrixClipTracker

end Runs

/-! ## Reports -/

namespace DisplayListMatrixClipTracker

section Reports

variable [BEq Scalar] (tracker : DisplayListMatrixClipTracker sk)

/-- The constructor, with the 4x4 representation from the start. -/
def using4x4 (cullRect : SkRect Scalar) (m44 : sk.SkM44) : DisplayListMatrixClipTracker sk :=
  let cull := if sk.isEmpty cullRect then sk.emptyRect else cullRect
  save ⟨cullRect, ⟨.data4x4 m44, cull⟩, []⟩

def matrix4x4 : sk.SkM44 := tracker.current.matrix.matrix4x4

def localCullRect (kMaxCullRect : SkRect Scalar) : SkRect Scalar :=
  tracker.current.localCullRect kMaxCullRect

end Reports

/-- The trackers report the same matrix and the same cull rectangles. -/
structure ReportsSame [BEq Scalar] (lazily full : DisplayListMatrixClipTracker sk) : Prop where
  matrix4x4 : lazily.matrix4x4 = full.matrix4x4
  deviceCullRect : lazily.deviceCullRect = full.deviceCullRect
  localCullRect : ∀ kMaxCullRect, lazily.localCullRect kMaxCullRect = full.localCullRect kMaxCullRect
  isCullRectEmpty : lazily.isCullRectEmpty = full.isCullRectEmpty

variable {entries : MatrixEntries sk}

theorem reportsSame_upgraded (exact : ExactMatrices entries)
    (tracker : DisplayListMatrixClipTracker sk) : ReportsSame tracker tracker.upgraded where
  matrix4x4 := rfl
  deviceCullRect := rfl
  localCullRect kMaxCullRect := (tracker.current.upgraded_localCullRect exact kMaxCullRect).symm
  isCullRectEmpty := rfl

variable [LE Scalar] [DecidableLE Scalar] [LT Scalar] [DecidableLT Scalar]

/-- A tracker that starts with a 3x3 matrix and upgrades when it must reports after any calls
what one that uses 4x4 matrices from the start reports. -/
theorem run_reportsSame (exact : ExactMatrices entries) (cullRect : SkRect Scalar)
    (matrix : sk.SkMatrix) (calls : List (TrackerCall sk)) :
    ReportsSame ((ofMatrix cullRect matrix).run calls)
      ((using4x4 cullRect (sk.ofMatrix matrix)).run calls) := by
  have run := upgraded_run exact (ofMatrix cullRect matrix) calls
  have start : (ofMatrix cullRect matrix).upgraded = using4x4 cullRect (sk.ofMatrix matrix) := rfl
  rw [← start, ← run]
  exact reportsSame_upgraded exact _

end DisplayListMatrixClipTracker

/-! ## Matrices of rational numbers -/

namespace RationalMatrices

abbrev Plane := Matrix (Fin 3) (Fin 3) Rat
abbrev Space := Matrix (Fin 4) (Fin 4) Rat

/-- The entry, of a matrix without others. -/
def rc {n : Nat} (matrix : Matrix (Fin n) (Fin n) Rat) (row column : Nat) : Rat :=
  if inside : row < n ∧ column < n then matrix ⟨row, inside.1⟩ ⟨column, inside.2⟩ else 0

def hasPerspective (matrix : Plane) : Bool :=
  !decide (rc matrix 2 0 = 0 ∧ rc matrix 2 1 = 0 ∧ rc matrix 2 2 = 1)

/-- The image of a point. -/
def mapXY (matrix : Plane) (x y : Rat) : Rat × Rat :=
  let w := rc matrix 2 0 * x + rc matrix 2 1 * y + rc matrix 2 2
  ((rc matrix 0 0 * x + rc matrix 0 1 * y + rc matrix 0 2) / w,
    (rc matrix 1 0 * x + rc matrix 1 1 * y + rc matrix 1 2) / w)

/-- The bounds of the images of the corners. -/
def mapRect (matrix : Plane) (rect : SkRect Rat) : SkRect Rat × Bool :=
  let a := mapXY matrix rect.fLeft rect.fTop
  let b := mapXY matrix rect.fRight rect.fTop
  let c := mapXY matrix rect.fLeft rect.fBottom
  let d := mapXY matrix rect.fRight rect.fBottom
  (⟨min (min a.1 b.1) (min c.1 d.1), min (min a.2 b.2) (min c.2 d.2),
    max (max a.1 b.1) (max c.1 d.1), max (max a.2 b.2) (max c.2 d.2)⟩,
    !hasPerspective matrix && (decide (rc matrix 0 1 = 0 ∧ rc matrix 1 0 = 0) ||
      decide (rc matrix 0 0 = 0 ∧ rc matrix 1 1 = 0)))

/-- By quarter turns. -/
def rotateDeg (degrees : Rat) : Plane :=
  if degrees = 90 then !![0, -1, 0; 1, 0, 0; 0, 0, 1]
  else if degrees = 180 then !![-1, 0, 0; 0, -1, 0; 0, 0, 1]
  else if degrees = 270 then !![0, 1, 0; -1, 0, 0; 0, 0, 1]
  else 1

def skew (skx sky : Rat) : Plane := !![1, skx, 0; sky, 1, 0; 0, 0, 1]

def inverse {n : Nat} (matrix : Matrix (Fin n) (Fin n) Rat) : Option (Matrix (Fin n) (Fin n) Rat) :=
  if matrix.det = 0 then none else some (matrix.det⁻¹ • matrix.adjugate)

def geometry : SkGeometry Rat (SkRect Rat) (SkRect Rat) where
  literal := Translations.geometry.literal
  isEmpty := Translations.geometry.isEmpty
  intersect := Translations.geometry.intersect
  intersects := Translations.geometry.intersects
  roundOut := Translations.geometry.roundOut
  round := Translations.geometry.round
  isEmptyIRect := Translations.geometry.isEmptyIRect
  ofIRect := Translations.geometry.ofIRect
  isRect := Translations.geometry.isRect
  getBounds := Translations.geometry.getBounds
  isInverseFillType := Translations.geometry.isInverseFillType
  pathBounds := Translations.geometry.pathBounds
  pathIsRect := Translations.geometry.pathIsRect
  SkMatrix := Plane
  identity := 1
  preTranslate matrix tx ty := matrix * !![1, 0, tx; 0, 1, ty; 0, 0, 1]
  preScale matrix sx sy := matrix * !![sx, 0, 0; 0, sy, 0; 0, 0, 1]
  preSkew matrix skx sky := matrix * skew skx sky
  preRotate matrix degrees := matrix * rotateDeg degrees
  preConcat matrix other := matrix * other
  skew := skew
  rotateDeg := rotateDeg
  makeAll a b c d e f g h i := !![a, b, c; d, e, f; g, h, i]
  hasPerspective := hasPerspective
  mapRect := mapRect
  invert := inverse
  SkM44 := Space
  identity44 := 1
  ofMatrix := Homogeneous.embed
  asM33 := Homogeneous.project
  makeM44 a b c d e f g h i j k l m n o q := !![a, b, c, d; e, f, g, h; i, j, k, l; m, n, o, q]
  rc := rc
  preTranslate44 m44 tx ty := m44 * !![1, 0, 0, tx; 0, 1, 0, ty; 0, 0, 1, 0; 0, 0, 0, 1]
  preScale44 m44 sx sy := m44 * !![sx, 0, 0, 0; 0, sy, 0, 0; 0, 0, 1, 0; 0, 0, 0, 1]
  preConcat44 m44 other := m44 * other
  invert44 := inverse

def entries : MatrixEntries geometry := ⟨id, id⟩

theorem exactMatrices : ExactMatrices entries where
  literal_zero := Nat.cast_zero
  literal_one := Nat.cast_one
  plane_injective := Function.injective_id
  space_injective := Function.injective_id
  identity := rfl
  identity44 := rfl
  preTranslate _ _ _ := rfl
  preScale _ _ _ := rfl
  preSkew _ _ _ := rfl
  preRotate _ _ := rfl
  preConcat _ _ := rfl
  makeAll _ _ _ _ _ _ _ _ _ := rfl
  hasPerspective _ := rfl
  ofMatrix _ := rfl
  asM33 _ := rfl
  rc _ row column := dif_pos ⟨row.isLt, column.isLt⟩
  makeM44 _ _ _ _ _ _ _ _ _ _ _ _ _ _ _ _ := rfl
  preTranslate44 _ _ _ := rfl
  preScale44 _ _ _ := rfl
  preConcat44 _ _ := rfl

/-- A save, a tilt out of the plane, a clip under it and the restore of the 3x3 entry. -/
def tilted : List (TrackerCall geometry) :=
  [.save, .transform (.translate 5 6),
    .transform (.transformFullPerspective 1 0 0 0 0 0 (-1) 0 0 1 0 0 0 0 0 1),
    .clipRect ⟨0, 0, 10, 10⟩ .intersect true, .restore, .transform (.scale 2 3)]

end RationalMatrices

open DisplayListMatrixClipTracker RationalMatrices in
theorem run_reportsSame_tilted :
    ReportsSame
      ((ofMatrix ⟨0, 0, 100, 100⟩ geometry.identity : DisplayListMatrixClipTracker geometry).run
        tilted)
      ((using4x4 ⟨0, 0, 100, 100⟩ (geometry.ofMatrix geometry.identity)).run tilted) :=
  run_reportsSame exactMatrices _ _ tilted

end FlutterEngine.DisplayList
