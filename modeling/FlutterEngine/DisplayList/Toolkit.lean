import FlutterEngine.DisplayList.MatrixClipTracker
import FlutterEngine.DisplayList.SkRect

/-!
# What a builder asks of others

Skia's scalars and shapes, the effects of a paint, and the images, texts and display lists
that are drawn. `DisplayListBuilder` only calls these, so they are a parameter, `Toolkit`.
-/

namespace FlutterEngine.DisplayList

/-- Arithmetic and comparisons of `SkScalar`. -/
class SkScalar (Scalar : Type) extends BEq Scalar, LE Scalar, LT Scalar, Add Scalar, Sub Scalar,
    Mul Scalar where
  decidableLE : DecidableLE Scalar
  decidableLT : DecidableLT Scalar

attribute [reducible, instance] SkScalar.decidableLE SkScalar.decidableLT

/-- `std::max`. -/
def stdMax {Scalar : Type} [SkScalar Scalar] (first second : Scalar) : Scalar :=
  if first < second then second else first

/-- `std::min`. -/
def stdMin {Scalar : Type} [SkScalar Scalar] (first second : Scalar) : Scalar :=
  if second < first then second else first

namespace SkRect

variable {Scalar : Type} [SkScalar Scalar] (rect : SkRect Scalar)

def width : Scalar := rect.fRight - rect.fLeft

def height : Scalar := rect.fBottom - rect.fTop

def makeSorted : SkRect Scalar where
  fLeft := stdMin rect.fLeft rect.fRight
  fTop := stdMin rect.fTop rect.fBottom
  fRight := stdMax rect.fLeft rect.fRight
  fBottom := stdMax rect.fTop rect.fBottom

def makeXYWH (x y width height : Scalar) : SkRect Scalar := ⟨x, y, x + width, y + height⟩

def outset (dx dy : Scalar) : SkRect Scalar :=
  ⟨rect.fLeft - dx, rect.fTop - dy, rect.fRight + dx, rect.fBottom + dy⟩

def makeOffset (dx dy : Scalar) : SkRect Scalar :=
  ⟨rect.fLeft + dx, rect.fTop + dy, rect.fRight + dx, rect.fBottom + dy⟩

end SkRect

/-- What `DisplayListBuilder` calls of Skia, of effects and of what it is given to draw. -/
structure Toolkit (p : Payloads) extends SkGeometry p.Scalar p.RRect p.Path where
  infinity : p.Scalar
  negInfinity : p.Scalar
  /-- `0.5f`. -/
  half : p.Scalar
  /-- `0.01`. -/
  minStrokeWidth : p.Scalar
  /-- `SK_ScalarSqrt2`. -/
  sqrt2 : p.Scalar
  /-- `SK_ScalarNearlyZero`. -/
  nearlyZero : p.Scalar
  /-- `SkScalarIsFinite`. -/
  isFinite : p.Scalar → Bool
  /-- `SkScalarMod`. -/
  mod : p.Scalar → p.Scalar → p.Scalar
  /-- `DisplayListBuilder::kMaxCullRect`. -/
  kMaxCullRect : SkRect p.Scalar
  /-- The rectangles of an R-tree. -/
  rects : SkRects (SkRect p.Scalar)
  rectIsFinite : SkRect p.Scalar → Bool
  contains : SkRect p.Scalar → SkRect p.Scalar → Bool
  /-- `SkRect::roundOut` to whole numbers. -/
  roundOutIRect : SkRect p.Scalar → SkIRect
  rrectIsOval : p.RRect → Bool
  /-- `SkRRect::setOval`. -/
  ofOval : SkRect p.Scalar → p.RRect
  /-- `SkPath::isOval` with the rectangle it sets. -/
  pathIsOval : p.Path → Option (SkRect p.Scalar)
  /-- `SkPath::isRRect` with the rounded rectangle it sets. -/
  pathIsRRect : p.Path → Option p.RRect
  /-- `SkRSXform::toQuad` of this width and height. -/
  toQuad : p.RSXform → p.Scalar → p.Scalar → List (SkPoint p.Scalar)
  /-- `SkMatrix::Scale`. -/
  scaleMatrix : p.Scalar → p.Scalar → SkMatrix
  /-- `DlCanvas::ComputeShadowBounds` of a path, elevation and device pixel ratio. -/
  shadowBounds : p.Path → p.Scalar → p.Scalar → SkMatrix → SkRect p.Scalar
  verticesBounds : p.Vertices → SkRect p.Scalar
  textBlobBounds : p.TextBlob → SkRect p.Scalar
  textFrameBounds : p.TextFrame → SkRect p.Scalar
  imageWidth : p.Image → p.Scalar
  imageHeight : p.Image → p.Scalar
  imageIsUIThreadSafe : p.Image → Bool
  imageColorSourceEquals : p.ImageColorSource → p.ImageColorSource → Bool
  gradientEquals : p.Gradient → p.Gradient → Bool
  runtimeEffectEquals : p.RuntimeEffect → p.RuntimeEffect → Bool
  colorSourceIsOpaque : DlColorSource p → Bool
  colorSourceIsUIThreadSafe : DlColorSource p → Bool
  colorFilterEquals : p.ColorFilter → p.ColorFilter → Bool
  /-- `modifies_transparent_black` of a colour filter. -/
  colorFilterModifiesTransparentBlack : p.ColorFilter → Bool
  imageFilterEquals : p.ImageFilter → p.ImageFilter → Bool
  /-- Blur, dilate, erode and matrix filters are copied into their records. -/
  imageFilterIsPod : p.ImageFilter → Bool
  /-- `modifies_transparent_black` of an image filter. -/
  imageFilterModifiesTransparentBlack : p.ImageFilter → Bool
  /-- The output bounds of `map_local_bounds` and what it returns. -/
  mapLocalBounds : p.ImageFilter → SkRect p.Scalar → SkRect p.Scalar × Bool
  /-- The output bounds of `map_device_bounds` and what it returns. -/
  mapDeviceBounds : p.ImageFilter → SkIRect → SkMatrix → SkIRect × Bool
  pathEffectEquals : p.PathEffect → p.PathEffect → Bool
  effectBounds : p.PathEffect → SkRect p.Scalar → Option (SkRect p.Scalar)
  maskFilterEquals : p.MaskFilter → p.MaskFilter → Bool
  /-- The sigma of a blur, the only mask filter. -/
  blurSigma : p.MaskFilter → p.Scalar
  /-- `op_count(nested)` of a display list that is drawn. -/
  opCount : (nested : Bool) → p.Nested → Nat
  /-- `bytes(true)` of a display list that is drawn. -/
  nestedBytes : p.Nested → Nat
  nestedBounds : p.Nested → SkRect p.Scalar
  /-- `searchAndConsolidateRects(query, false)` of its R-tree, if it has one. -/
  nestedRects : p.Nested → SkRect p.Scalar → Option (List (SkRect p.Scalar))
  nestedCanApplyGroupOpacity : p.Nested → Bool
  nestedIsUIThreadSafe : p.Nested → Bool
  nestedModifiesTransparentBlack : p.Nested → Bool
  /-- The aligned size of a record with what is copied behind it. -/
  recordSize : DLOp p → Nat

/-- `Equals` of `dl_comparable.h` on objects at different addresses. -/
def optionEquals {α : Type} (equals : α → α → Bool) : Option α → Option α → Bool
  | none, none => true
  | some first, some second => equals first second
  | _, _ => false

/-- Colour sources of one type are compared by their content. -/
def Toolkit.colorSourceEquals {p : Payloads} (kit : Toolkit p) :
    DlColorSource p → DlColorSource p → Bool
  | .color first, .color second => first == second
  | .image first, .image second => kit.imageColorSourceEquals first second
  | .linearGradient first, .linearGradient second => kit.gradientEquals first second
  | .radialGradient first, .radialGradient second => kit.gradientEquals first second
  | .conicalGradient first, .conicalGradient second => kit.gradientEquals first second
  | .sweepGradient first, .sweepGradient second => kit.gradientEquals first second
  | .runtimeEffect first, .runtimeEffect second => kit.runtimeEffectEquals first second
  | _, _ => false

end FlutterEngine.DisplayList
