import FlutterEngine.DisplayList.DlOpRecords

/-!
# Tracking the transform and the clip

`DisplayListMatrixClipTracker` of `dl_matrix_clip_tracker.cc`. The rectangles, rounded
rectangles, paths and matrices are Skia's; what the tracker calls of them is the
parameter `SkGeometry`.
-/

namespace FlutterEngine.DisplayList

/-- Skia's operations on geometry, over these scalars, rounded rectangles and paths. -/
structure SkGeometry (Scalar RRect Path : Type) where
  /-- A whole number written as a scalar. -/
  literal : Nat → Scalar
  isEmpty : SkRect Scalar → Bool
  /-- `SkRect::intersect`; none when it returns false. -/
  intersect : SkRect Scalar → SkRect Scalar → Option (SkRect Scalar)
  intersects : SkRect Scalar → SkRect Scalar → Bool
  roundOut : SkRect Scalar → SkRect Scalar
  round : SkRect Scalar → SkIRect
  isEmptyIRect : SkIRect → Bool
  /-- `SkRect::set` of whole numbers. -/
  ofIRect : SkIRect → SkRect Scalar
  isRect : RRect → Bool
  getBounds : RRect → SkRect Scalar
  isInverseFillType : Path → Bool
  pathBounds : Path → SkRect Scalar
  /-- `SkPath::isRect` with the rectangle it sets. -/
  pathIsRect : Path → Option (SkRect Scalar)
  SkMatrix : Type
  identity : SkMatrix
  preTranslate : SkMatrix → Scalar → Scalar → SkMatrix
  preScale : SkMatrix → Scalar → Scalar → SkMatrix
  preSkew : SkMatrix → Scalar → Scalar → SkMatrix
  preRotate : SkMatrix → Scalar → SkMatrix
  preConcat : SkMatrix → SkMatrix → SkMatrix
  skew : Scalar → Scalar → SkMatrix
  rotateDeg : Scalar → SkMatrix
  /-- `SkMatrix::MakeAll`, row by row. -/
  makeAll : Scalar → Scalar → Scalar → Scalar → Scalar → Scalar → Scalar → Scalar → Scalar →
    SkMatrix
  hasPerspective : SkMatrix → Bool
  /-- The mapped bounds, and whether the matrix maps rectangles to rectangles. -/
  mapRect : SkMatrix → SkRect Scalar → SkRect Scalar × Bool
  invert : SkMatrix → Option SkMatrix
  SkM44 : Type
  identity44 : SkM44
  /-- `SkM44(const SkMatrix&)`. -/
  ofMatrix : SkMatrix → SkM44
  asM33 : SkM44 → SkMatrix
  /-- `SkM44` of its entries, row by row. -/
  makeM44 : Scalar → Scalar → Scalar → Scalar → Scalar → Scalar → Scalar → Scalar →
    Scalar → Scalar → Scalar → Scalar → Scalar → Scalar → Scalar → Scalar → SkM44
  /-- The entry in this row and column. -/
  rc : SkM44 → Nat → Nat → Scalar
  preTranslate44 : SkM44 → Scalar → Scalar → SkM44
  preScale44 : SkM44 → Scalar → Scalar → SkM44
  preConcat44 : SkM44 → SkM44 → SkM44
  invert44 : SkM44 → Option SkM44

variable {Scalar RRect Path : Type} (sk : SkGeometry Scalar RRect Path)

/-- `SkRect::MakeEmpty`. -/
def SkGeometry.emptyRect : SkRect Scalar :=
  ⟨sk.literal 0, sk.literal 0, sk.literal 0, sk.literal 0⟩

/-- The matrix of a `Data3x3` or of a `Data4x4`. -/
inductive TrackedMatrix where
  | data3x3 (matrix : sk.SkMatrix)
  | data4x4 (m44 : sk.SkM44)

/-- `DisplayListMatrixClipTracker::Data`. -/
structure TrackedData where
  matrix : TrackedMatrix sk
  cullRect : SkRect Scalar

/-- `saved` is what `saved_` holds below the current entry, the latest first. -/
structure DisplayListMatrixClipTracker where
  originalCullRect : SkRect Scalar
  current : TrackedData sk
  saved : List (TrackedData sk)

variable {sk}

/-! ## Matrices -/

namespace TrackedMatrix

variable (matrix : TrackedMatrix sk)

def is4x4 : Bool :=
  match matrix with
  | data3x3 _ => false
  | data4x4 _ => true

/-- `matrix_3x3`. -/
def matrix3x3 : sk.SkMatrix :=
  match matrix with
  | data3x3 matrix => matrix
  | data4x4 m44 => sk.asM33 m44

/-- `matrix_4x4`. -/
def matrix4x4 : sk.SkM44 :=
  match matrix with
  | data3x3 matrix => sk.ofMatrix matrix
  | data4x4 m44 => m44

def translate (tx ty : Scalar) : TrackedMatrix sk :=
  match matrix with
  | data3x3 matrix => data3x3 (sk.preTranslate matrix tx ty)
  | data4x4 m44 => data4x4 (sk.preTranslate44 m44 tx ty)

def scale (sx sy : Scalar) : TrackedMatrix sk :=
  match matrix with
  | data3x3 matrix => data3x3 (sk.preScale matrix sx sy)
  | data4x4 m44 => data4x4 (sk.preScale44 m44 sx sy)

def skew (skx sky : Scalar) : TrackedMatrix sk :=
  match matrix with
  | data3x3 matrix => data3x3 (sk.preSkew matrix skx sky)
  | data4x4 m44 => data4x4 (sk.preConcat44 m44 (sk.ofMatrix (sk.skew skx sky)))

def rotate (degrees : Scalar) : TrackedMatrix sk :=
  match matrix with
  | data3x3 matrix => data3x3 (sk.preRotate matrix degrees)
  | data4x4 m44 => data4x4 (sk.preConcat44 m44 (sk.ofMatrix (sk.rotateDeg degrees)))

/-- `transform(const SkMatrix&)`. -/
def transform33 (concatenated : sk.SkMatrix) : TrackedMatrix sk :=
  match matrix with
  | data3x3 matrix => data3x3 (sk.preConcat matrix concatenated)
  | data4x4 m44 => data4x4 (sk.preConcat44 m44 (sk.ofMatrix concatenated))

/-- `setTransform(const SkMatrix&)`. -/
def setTransform33 (target : sk.SkMatrix) : TrackedMatrix sk :=
  match matrix with
  | data3x3 _ => data3x3 target
  | data4x4 _ => data4x4 (sk.ofMatrix target)

def setIdentity : TrackedMatrix sk :=
  match matrix with
  | data3x3 _ => data3x3 sk.identity
  | data4x4 _ => data4x4 sk.identity44

def mapRect (rect : SkRect Scalar) : SkRect Scalar × Bool := sk.mapRect matrix.matrix3x3 rect

def canBeInverted : Bool := (sk.invert matrix.matrix3x3).isSome

section Entries

variable [BEq Scalar]

def hasPerspective : Bool :=
  match matrix with
  | data3x3 matrix => sk.hasPerspective matrix
  | data4x4 m44 => sk.rc m44 3 0 != sk.literal 0 || sk.rc m44 3 1 != sk.literal 0 ||
      sk.rc m44 3 2 != sk.literal 0 || sk.rc m44 3 3 != sk.literal 1

/-- `is_3x3`: the third row and column are those of the identity. -/
def is3x3 (m44 : sk.SkM44) : Bool :=
  sk.rc m44 0 2 == sk.literal 0 && sk.rc m44 1 2 == sk.literal 0 &&
    sk.rc m44 2 0 == sk.literal 0 && sk.rc m44 2 1 == sk.literal 0 && sk.rc m44 2 2 == sk.literal 1 &&
    sk.rc m44 2 3 == sk.literal 0 && sk.rc m44 3 2 == sk.literal 0

/-- `transform(const SkM44&)` of the tracker, which upgrades when it must. -/
def transform44 (concatenated : sk.SkM44) : TrackedMatrix sk :=
  match matrix with
  | data3x3 matrix =>
    if is3x3 concatenated then data3x3 (sk.preConcat matrix (sk.asM33 concatenated))
    else data4x4 (sk.preConcat44 (sk.ofMatrix matrix) concatenated)
  | data4x4 m44 => data4x4 (sk.preConcat44 m44 concatenated)

/-- `setTransform(const SkM44&)` of the tracker. -/
def setTransform44 (target : sk.SkM44) : TrackedMatrix sk :=
  match matrix with
  | data3x3 _ => if is3x3 target then data3x3 (sk.asM33 target) else data4x4 target
  | data4x4 _ => data4x4 target

def transform2DAffine (mxx mxy mxt myx myy myt : Scalar) : TrackedMatrix sk :=
  let zero := sk.literal 0
  let one := sk.literal 1
  match matrix with
  | data3x3 _ => matrix.transform33 (sk.makeAll mxx mxy mxt myx myy myt zero zero one)
  | data4x4 _ => matrix.transform44
      (sk.makeM44 mxx mxy zero mxt myx myy zero myt zero zero one zero zero zero zero one)

def transformFullPerspective
    (mxx mxy mxz mxt myx myy myz myt mzx mzy mzz mzt mwx mwy mwz mwt : Scalar) : TrackedMatrix sk :=
  if !matrix.is4x4 && (mxz == sk.literal 0 && myz == sk.literal 0 && mzx == sk.literal 0 &&
      mzy == sk.literal 0 && mzz == sk.literal 1 && mzt == sk.literal 0 &&
      mwz == sk.literal 0) then
    matrix.transform33 (sk.makeAll mxx mxy mxt myx myy myt mwx mwy mwt)
  else
    matrix.transform44
      (sk.makeM44 mxx mxy mxz mxt myx myy myz myt mzx mzy mzz mzt mwx mwy mwz mwt)

/-- `inverseTransform`: by the inverse of the other matrix; none when there is none. -/
def inverseTransform (other : TrackedMatrix sk) : Option (TrackedMatrix sk) :=
  match other with
  | data4x4 m44 => (sk.invert44 m44).map matrix.transform44
  | data3x3 other => (sk.invert other).map matrix.transform33

end Entries

end TrackedMatrix

/-! ## Clips -/

namespace TrackedData

variable [BEq Scalar] [LE Scalar] [DecidableLE Scalar] [LT Scalar] [DecidableLT Scalar]
  (data : TrackedData sk)

/-- What is left of the cull rectangle when the difference clip spans its width. -/
def sliceRows (sk : SkGeometry Scalar RRect Path) (rect cull : SkRect Scalar) : SkRect Scalar :=
  let top := if rect.fTop ≤ cull.fTop then rect.fBottom else cull.fTop
  let btm := if cull.fBottom ≤ rect.fBottom then rect.fTop else cull.fBottom
  if top < btm then { cull with fTop := top, fBottom := btm } else sk.emptyRect

/-- What is left of the cull rectangle when the difference clip spans its height. -/
def sliceColumns (sk : SkGeometry Scalar RRect Path) (rect cull : SkRect Scalar) : SkRect Scalar :=
  let lft := if rect.fLeft ≤ cull.fLeft then rect.fRight else cull.fLeft
  let rgt := if cull.fRight ≤ rect.fRight then rect.fLeft else cull.fRight
  if lft < rgt then { cull with fLeft := lft, fRight := rgt } else sk.emptyRect

def spansWidth (rect cull : SkRect Scalar) : Bool :=
  decide (rect.fLeft ≤ cull.fLeft) && decide (cull.fRight ≤ rect.fRight)

def spansHeight (rect cull : SkRect Scalar) : Bool :=
  decide (rect.fTop ≤ cull.fTop) && decide (cull.fBottom ≤ rect.fBottom)

/-- The cull rectangle after the mapped and rounded rectangle is taken away. -/
def slice (sk : SkGeometry Scalar RRect Path) (rect cull : SkRect Scalar) : SkRect Scalar :=
  if !sk.intersects rect cull then cull
  else if spansWidth rect cull then sliceRows sk rect cull
  else if spansHeight rect cull then sliceColumns sk rect cull
  else cull

/-- The cull rectangle after `clipBounds`. -/
def clippedRect (clip : SkRect Scalar) (op : ClipOp) (isAA : Bool) : SkRect Scalar :=
  let cull := data.cullRect
  if sk.isEmpty cull then cull
  else if data.matrix.hasPerspective then cull
  else
    match op with
    | .intersect =>
      if sk.isEmpty clip then sk.emptyRect
      else
        let rect := (data.matrix.mapRect clip).1
        let rect := if isAA then sk.roundOut rect else rect
        (sk.intersect cull rect).getD sk.emptyRect
    | .difference =>
      if sk.isEmpty clip then cull
      else
        match data.matrix.mapRect clip with
        | (_, false) => cull
        | (rect, true) =>
          if isAA then
            let rounded := sk.round rect
            if sk.isEmptyIRect rounded then cull else slice sk (sk.ofIRect rounded) cull
          else slice sk rect cull

def clipBounds (clip : SkRect Scalar) (op : ClipOp) (isAA : Bool) : TrackedData sk :=
  { data with cullRect := data.clippedRect clip op isAA }

/-- `content_culled`. -/
def contentCulled (content : SkRect Scalar) : Bool :=
  if sk.isEmpty data.cullRect || sk.isEmpty content then true
  else if !data.matrix.canBeInverted then true
  else if data.matrix.hasPerspective then false
  else !sk.intersects (data.matrix.mapRect content).1 data.cullRect

/-- `local_cull_rect`, which does not constrict under perspective. -/
def localCullRect (kMaxCullRect : SkRect Scalar) : SkRect Scalar :=
  if sk.isEmpty data.cullRect then data.cullRect
  else
    match sk.invert data.matrix.matrix3x3 with
    | none => sk.emptyRect
    | some inverse =>
      if data.matrix.hasPerspective then kMaxCullRect else (sk.mapRect inverse data.cullRect).1

def resetBounds (cullRect : SkRect Scalar) : TrackedData sk :=
  if sk.isEmpty cullRect then { data with cullRect := sk.emptyRect }
  else
    let rect := (data.matrix.mapRect cullRect).1
    { data with cullRect := if sk.isEmpty rect then sk.emptyRect else rect }

end TrackedData

/-! ## The tracker -/

namespace DisplayListMatrixClipTracker

variable [BEq Scalar] [LE Scalar] [DecidableLE Scalar] [LT Scalar] [DecidableLT Scalar]
  (tracker : DisplayListMatrixClipTracker sk)

def save : DisplayListMatrixClipTracker sk :=
  { tracker with saved := tracker.current :: tracker.saved }

/-- `saved_` keeps its first two entries. -/
def restore : DisplayListMatrixClipTracker sk :=
  match tracker.saved with
  | current :: base :: saved => { tracker with current, saved := base :: saved }
  | _ => tracker

/-- The constructor from an `SkMatrix`. -/
def ofMatrix (cullRect : SkRect Scalar) (matrix : sk.SkMatrix) : DisplayListMatrixClipTracker sk :=
  let cull := if sk.isEmpty cullRect then sk.emptyRect else cullRect
  save ⟨cullRect, ⟨.data3x3 matrix, cull⟩, []⟩

/-- The constructor from an `SkM44`. -/
def ofM44 (cullRect : SkRect Scalar) (m44 : sk.SkM44) : DisplayListMatrixClipTracker sk :=
  let cull := if sk.isEmpty cullRect then sk.emptyRect else cullRect
  let matrix : TrackedMatrix sk :=
    if TrackedMatrix.is3x3 m44 then .data3x3 (sk.asM33 m44) else .data4x4 m44
  save ⟨cullRect, ⟨matrix, cull⟩, []⟩

/-- Back to the first entry. -/
def reset : DisplayListMatrixClipTracker sk :=
  let base := tracker.saved.getLastD tracker.current
  save { tracker with current := base, saved := [] }

def getSaveCount : Nat := tracker.saved.length

def deviceCullRect : SkRect Scalar := tracker.current.cullRect

def baseDeviceCullRect : SkRect Scalar := (tracker.saved.getLastD tracker.current).cullRect

def isCullRectEmpty : Bool := sk.isEmpty tracker.current.cullRect

def contentCulled (content : SkRect Scalar) : Bool := tracker.current.contentCulled content

/-- Change the current matrix. -/
def withMatrix (matrix : TrackedMatrix sk) : DisplayListMatrixClipTracker sk :=
  { tracker with current := { tracker.current with matrix } }

def clipRect (rect : SkRect Scalar) (op : ClipOp) (isAA : Bool) : DisplayListMatrixClipTracker sk :=
  { tracker with current := tracker.current.clipBounds rect op isAA }

def clipRRect (rrect : RRect) (op : ClipOp) (isAA : Bool) : DisplayListMatrixClipTracker sk :=
  if op = .difference ∧ !sk.isRect rrect then tracker
  else tracker.clipRect (sk.getBounds rrect) op isAA

/-- An inverse path turns the operation around. -/
def pathOp (sk : SkGeometry Scalar RRect Path) (path : Path) (op : ClipOp) : ClipOp :=
  if sk.isInverseFillType path then
    match op with
    | .intersect => .difference
    | .difference => .intersect
  else op

def clipPath (path : Path) (op : ClipOp) (isAA : Bool) : DisplayListMatrixClipTracker sk :=
  match pathOp sk path op with
  | .intersect => tracker.clipRect (sk.pathBounds path) .intersect isAA
  | .difference =>
    match sk.pathIsRect path with
    | none => tracker
    | some bounds => tracker.clipRect bounds .difference isAA

def resetCullRect (cullRect : Option (SkRect Scalar)) : DisplayListMatrixClipTracker sk :=
  { tracker with current := tracker.current.resetBounds (cullRect.getD tracker.originalCullRect) }

end DisplayListMatrixClipTracker

/-! ## Calls -/

/-- The calls that change the matrix. -/
inductive TrackedTransform (sk : SkGeometry Scalar RRect Path) where
  | translate (tx ty : Scalar)
  | scale (sx sy : Scalar)
  | skew (skx sky : Scalar)
  | rotate (degrees : Scalar)
  | transform33 (matrix : sk.SkMatrix)
  | transform44 (m44 : sk.SkM44)
  | transform2DAffine (mxx mxy mxt myx myy myt : Scalar)
  | transformFullPerspective
      (mxx mxy mxz mxt myx myy myz myt mzx mzy mzz mzt mwx mwy mwz mwt : Scalar)
  | setTransform33 (matrix : sk.SkMatrix)
  | setTransform44 (m44 : sk.SkM44)
  | setIdentity
  /-- By the inverse of the matrix of another tracker. -/
  | inverseTransform (other : TrackedMatrix sk)

/-- The matrix after the call. -/
def TrackedTransform.apply [BEq Scalar] (matrix : TrackedMatrix sk) : TrackedTransform sk → TrackedMatrix sk
  | translate tx ty => matrix.translate tx ty
  | scale sx sy => matrix.scale sx sy
  | skew skx sky => matrix.skew skx sky
  | rotate degrees => matrix.rotate degrees
  | transform33 by33 => matrix.transform33 by33
  | transform44 by44 => matrix.transform44 by44
  | transform2DAffine mxx mxy mxt myx myy myt =>
    matrix.transform2DAffine mxx mxy mxt myx myy myt
  | transformFullPerspective mxx mxy mxz mxt myx myy myz myt mzx mzy mzz mzt mwx mwy mwz mwt =>
    matrix.transformFullPerspective
      mxx mxy mxz mxt myx myy myz myt mzx mzy mzz mzt mwx mwy mwz mwt
  | setTransform33 target => matrix.setTransform33 target
  | setTransform44 target => matrix.setTransform44 target
  | setIdentity => matrix.setIdentity
  | inverseTransform other => (matrix.inverseTransform other).getD matrix

inductive TrackerCall (sk : SkGeometry Scalar RRect Path) where
  | save
  | restore
  | transform (call : TrackedTransform sk)
  | clipRect (rect : SkRect Scalar) (op : ClipOp) (isAA : Bool)
  | clipRRect (rrect : RRect) (op : ClipOp) (isAA : Bool)
  | clipPath (path : Path) (op : ClipOp) (isAA : Bool)

namespace DisplayListMatrixClipTracker

variable [BEq Scalar] [LE Scalar] [DecidableLE Scalar] [LT Scalar] [DecidableLT Scalar]
  (tracker : DisplayListMatrixClipTracker sk)

def call : TrackerCall sk → DisplayListMatrixClipTracker sk
  | .save => tracker.save
  | .restore => tracker.restore
  | .transform call => tracker.withMatrix (call.apply tracker.current.matrix)
  | .clipRect rect op isAA => tracker.clipRect rect op isAA
  | .clipRRect rrect op isAA => tracker.clipRRect rrect op isAA
  | .clipPath path op isAA => tracker.clipPath path op isAA

def run (calls : List (TrackerCall sk)) : DisplayListMatrixClipTracker sk := calls.foldl call tracker

end DisplayListMatrixClipTracker

end FlutterEngine.DisplayList
