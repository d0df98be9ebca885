import Mathlib.Data.List.Basic

/-!
# Rendering attributes

`DlPaint`, its enumerations and colours. What a record carries and the display list
only passes on (scalars, paths, images, effects) is of the types of `Payloads`.
-/

namespace FlutterEngine.DisplayList

/-- The types of what the display list passes on, and the scalars its code writes. -/
structure Payloads where
  Scalar : Type
  RRect : Type
  Path : Type
  RSXform : Type
  Vertices : Type
  Image : Type
  TextBlob : Type
  TextFrame : Type
  /-- A display list drawn inside another one. -/
  Nested : Type
  ImageColorSource : Type
  Gradient : Type
  RuntimeEffect : Type
  ColorFilter : Type
  ImageFilter : Type
  MaskFilter : Type
  PathEffect : Type
  /-- A whole number written as a scalar. -/
  literal : Nat → Scalar

/-- Whole-number scalars and objects without content. -/
abbrev plainPayloads : Payloads where
  Scalar := Int
  RRect := Unit
  Path := Unit
  RSXform := Unit
  Vertices := Unit
  Image := Unit
  TextBlob := Unit
  TextFrame := Unit
  Nested := Unit
  ImageColorSource := Unit
  Gradient := Unit
  RuntimeEffect := Unit
  ColorFilter := Unit
  ImageFilter := Unit
  MaskFilter := Unit
  PathEffect := Unit
  literal := Int.ofNat

structure SkPoint (Scalar : Type) where
  fX : Scalar
  fY : Scalar
deriving DecidableEq, Repr

structure SkRect (Scalar : Type) where
  fLeft : Scalar
  fTop : Scalar
  fRight : Scalar
  fBottom : Scalar
deriving DecidableEq, Repr

/-- `SkIRect`. -/
structure SkIRect where
  fLeft : Int
  fTop : Int
  fRight : Int
  fBottom : Int
deriving DecidableEq, Repr

/-! ## Enumerations and colours -/

inductive DlDrawStyle where
  | fill | stroke | strokeAndFill
deriving DecidableEq, Repr

inductive DlStrokeCap where
  | butt | round | square
deriving DecidableEq, Repr

inductive DlStrokeJoin where
  | miter | round | bevel
deriving DecidableEq, Repr

inductive DlBlendMode where
  | clear | src | dst | srcOver | dstOver | srcIn | dstIn | srcOut | dstOut | srcATop | dstATop
  | xor | plus | modulate | screen
  | overlay | darken | lighten | colorDodge | colorBurn | hardLight | softLight | difference
  | exclusion | multiply
  | hue | saturation | color | luminosity
deriving DecidableEq, Repr

inductive DlFilterMode where
  | nearest | linear
deriving DecidableEq, Repr

inductive DlImageSampling where
  | nearestNeighbor | linear | mipmapLinear | cubic
deriving DecidableEq, Repr

/-- `DlColor`: alpha, red, green and blue from the highest byte down. -/
structure DlColor where
  argb : BitVec 32
deriving DecidableEq, Repr

namespace DlColor

def kTransparent : DlColor := ⟨0x00000000⟩
def kBlack : DlColor := ⟨0xFF000000⟩
def kWhite : DlColor := ⟨0xFFFFFFFF⟩
def kMidGrey : DlColor := ⟨0xFF808080⟩

def getAlpha (color : DlColor) : Nat := (color.argb >>> 24).toNat

def isOpaque (color : DlColor) : Bool := color.getAlpha == 0xFF

def isTransparent (color : DlColor) : Bool := color.getAlpha == 0

def withAlpha (color : DlColor) (alpha : BitVec 8) : DlColor :=
  ⟨(color.argb &&& 0x00FFFFFF) ||| (alpha.setWidth 32 <<< 24)⟩

theorem getAlpha_withAlpha (color : DlColor) (value : BitVec 8) :
    (color.withAlpha value).getAlpha = value.toNat := by
  have masked : (0x00FFFFFF : BitVec 32) >>> 24 = 0#32 := by decide
  have split : (color.withAlpha value).argb >>> 24 =
      (color.argb >>> 24 &&& (0x00FFFFFF : BitVec 32) >>> 24) |||
        (value.setWidth 32 <<< 24) >>> 24 := by
    rw [← BitVec.ushiftRight_and_distrib, ← BitVec.ushiftRight_or_distrib]
    rfl
  have small := value.isLt
  unfold DlColor.getAlpha
  rw [split, masked, BitVec.and_zero, BitVec.zero_or, BitVec.toNat_ushiftRight,
    BitVec.toNat_shiftLeft, BitVec.toNat_setWidth, Nat.shiftLeft_eq, Nat.shiftRight_eq_div_pow]
  omega

end DlColor

/-! ## Paints -/

variable (p : Payloads)

/-- `DlColorSource`. -/
inductive DlColorSource where
  | color (color : DlColor)
  | image (source : p.ImageColorSource)
  | linearGradient (source : p.Gradient)
  | radialGradient (source : p.Gradient)
  | conicalGradient (source : p.Gradient)
  | sweepGradient (source : p.Gradient)
  | runtimeEffect (effect : p.RuntimeEffect)

/-- `DlPaint(DlColor)`; the defaults are those of `DlPaint()`. -/
structure DlPaint where
  blendMode : DlBlendMode := .srcOver
  drawStyle : DlDrawStyle := .fill
  strokeCap : DlStrokeCap := .butt
  strokeJoin : DlStrokeJoin := .miter
  isAntiAlias : Bool := false
  isInvertColors : Bool := false
  color : DlColor := .kBlack
  strokeWidth : p.Scalar := p.literal 0
  strokeMiter : p.Scalar := p.literal 4
  colorSource : Option (DlColorSource p) := none
  colorFilter : Option p.ColorFilter := none
  imageFilter : Option p.ImageFilter := none
  maskFilter : Option p.MaskFilter := none
  pathEffect : Option p.PathEffect := none

end FlutterEngine.DisplayList
