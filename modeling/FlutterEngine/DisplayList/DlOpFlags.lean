import FlutterEngine.DisplayList.DlPaint

/-!
# Attribute flags of the operations

`dl_op_flags.h`: which attributes a drawing method uses, and how they change its bounds.
-/

namespace FlutterEngine.DisplayList

/-- `DisplayListAttributeFlags`; the special geometry flags are among them. -/
structure DisplayListAttributeFlags where
  flags : BitVec 32
deriving DecidableEq, Repr

namespace DisplayListFlags

def kIsNonGeometric : BitVec 32 := 0
def kIsFilledGeometry : BitVec 32 := 1 <<< 0
def kIsStrokedGeometry : BitVec 32 := 1 <<< 1
def kIsDrawnGeometry : BitVec 32 := 1 <<< 2
def kIsAnyGeometryMask : BitVec 32 := kIsFilledGeometry ||| kIsStrokedGeometry ||| kIsDrawnGeometry
def kFloodsSurface : BitVec 32 := 1 <<< 3
def kMayHaveCaps : BitVec 32 := 1 <<< 4
def kMayHaveJoins : BitVec 32 := 1 <<< 5
def kButtCapIsSquare : BitVec 32 := 1 <<< 6
def kMayHaveDiagonalCaps : BitVec 32 := 1 <<< 7
def kMayHaveAcuteJoins : BitVec 32 := 1 <<< 8
def kUsesAntiAlias : BitVec 32 := 1 <<< 10
def kUsesAlpha : BitVec 32 := 1 <<< 11
def kUsesColor : BitVec 32 := 1 <<< 12
def kUsesBlend : BitVec 32 := 1 <<< 13
def kUsesShader : BitVec 32 := 1 <<< 14
def kUsesColorFilter : BitVec 32 := 1 <<< 15
def kUsesPathEffect : BitVec 32 := 1 <<< 16
def kUsesMaskFilter : BitVec 32 := 1 <<< 17
def kUsesImageFilter : BitVec 32 := 1 <<< 18
def kIgnoresPaint : BitVec 32 := 1 <<< 30

end DisplayListFlags

open DisplayListFlags

namespace DisplayListAttributeFlags

variable (flags : DisplayListAttributeFlags)

def hasAny (qFlags : BitVec 32) : Bool := flags.flags &&& qFlags != 0

def ignoresPaint : Bool := flags.hasAny kIgnoresPaint

def appliesAntiAlias : Bool := flags.hasAny kUsesAntiAlias

def appliesColor : Bool := flags.hasAny kUsesColor

def appliesAlpha : Bool := flags.hasAny kUsesAlpha

def appliesAlphaOrColor : Bool := flags.hasAny (kUsesAlpha ||| kUsesColor)

def appliesStyle : Bool := flags.hasAny kIsDrawnGeometry

def appliesShader : Bool := flags.hasAny kUsesShader

def appliesColorFilter : Bool := flags.hasAny kUsesColorFilter

def appliesBlend : Bool := flags.hasAny kUsesBlend

def appliesPathEffect : Bool := flags.hasAny kUsesPathEffect

def appliesMaskFilter : Bool := flags.hasAny kUsesMaskFilter

def appliesImageFilter : Bool := flags.hasAny kUsesImageFilter

def isGeometric : Bool := flags.hasAny kIsAnyGeometryMask

def isStroked (style : DlDrawStyle) : Bool :=
  flags.hasAny kIsStrokedGeometry || (style != .fill && flags.hasAny kIsDrawnGeometry)

/-- `WithPathEffect`: dashes, the only path effect, add caps to stroked geometry. -/
def withPathEffect (hasEffect isStroked : Bool) : DisplayListAttributeFlags :=
  if flags.isGeometric && hasEffect && isStroked then
    ⟨flags.flags ||| (kMayHaveCaps ||| kMayHaveDiagonalCaps)⟩
  else flags

def mayHaveDiagonalCaps : Bool := flags.hasAny kMayHaveDiagonalCaps

def mayHaveAcuteJoins : Bool := flags.hasAny kMayHaveAcuteJoins

end DisplayListAttributeFlags

/-! ## The flags of each operation -/

namespace DisplayListOpFlags

def kBasePaintFlags : BitVec 32 :=
  kUsesColor ||| kUsesAlpha ||| kUsesBlend ||| kUsesShader ||| kUsesColorFilter |||
    kUsesImageFilter

def kBaseStrokeOrFillFlags : BitVec 32 :=
  kIsDrawnGeometry ||| kUsesAntiAlias ||| kUsesMaskFilter ||| kUsesPathEffect

def kBaseStrokeFlags : BitVec 32 :=
  kIsStrokedGeometry ||| kUsesAntiAlias ||| kUsesMaskFilter ||| kUsesPathEffect

def kBaseImageFlags : BitVec 32 :=
  kIsNonGeometric ||| kUsesAlpha ||| kUsesBlend ||| kUsesColorFilter ||| kUsesImageFilter

def kSaveLayerFlags : DisplayListAttributeFlags := ⟨kIgnoresPaint⟩

def kSaveLayerWithPaintFlags : DisplayListAttributeFlags :=
  ⟨kIsNonGeometric ||| kUsesAlpha ||| kUsesBlend ||| kUsesColorFilter ||| kUsesImageFilter⟩

def kDrawPaintFlags : DisplayListAttributeFlags := ⟨kBasePaintFlags ||| kFloodsSurface⟩

def kDrawHVLineFlags : DisplayListAttributeFlags :=
  ⟨kBasePaintFlags ||| kBaseStrokeFlags ||| kMayHaveCaps⟩

def kDrawLineFlags : DisplayListAttributeFlags :=
  ⟨kDrawHVLineFlags.flags ||| kMayHaveDiagonalCaps⟩

def kDrawRectFlags : DisplayListAttributeFlags :=
  ⟨kBasePaintFlags ||| kBaseStrokeOrFillFlags ||| kMayHaveJoins⟩

def kDrawOvalFlags : DisplayListAttributeFlags := ⟨kBasePaintFlags ||| kBaseStrokeOrFillFlags⟩

def kDrawCircleFlags : DisplayListAttributeFlags := ⟨kBasePaintFlags ||| kBaseStrokeOrFillFlags⟩

def kDrawRRectFlags : DisplayListAttributeFlags := ⟨kBasePaintFlags ||| kBaseStrokeOrFillFlags⟩

def kDrawDRRectFlags : DisplayListAttributeFlags := ⟨kBasePaintFlags ||| kBaseStrokeOrFillFlags⟩

def kDrawPathFlags : DisplayListAttributeFlags :=
  ⟨kBasePaintFlags ||| kBaseStrokeOrFillFlags ||| kMayHaveCaps ||| kMayHaveDiagonalCaps |||
    kMayHaveJoins ||| kMayHaveAcuteJoins⟩

def kDrawArcNoCenterFlags : DisplayListAttributeFlags :=
  ⟨kBasePaintFlags ||| kBaseStrokeOrFillFlags ||| kMayHaveCaps ||| kMayHaveDiagonalCaps⟩

def kDrawArcWithCenterFlags : DisplayListAttributeFlags :=
  ⟨kBasePaintFlags ||| kBaseStrokeOrFillFlags ||| kMayHaveJoins ||| kMayHaveAcuteJoins⟩

def kDrawPointsAsPointsFlags : DisplayListAttributeFlags :=
  ⟨kBasePaintFlags ||| kBaseStrokeFlags ||| kMayHaveCaps ||| kButtCapIsSquare⟩

def kDrawPointsAsLinesFlags : DisplayListAttributeFlags :=
  ⟨kBasePaintFlags ||| kBaseStrokeFlags ||| kMayHaveCaps ||| kMayHaveDiagonalCaps⟩

def kDrawPointsAsPolygonFlags : DisplayListAttributeFlags :=
  ⟨kBasePaintFlags ||| kBaseStrokeFlags ||| kMayHaveCaps ||| kMayHaveDiagonalCaps⟩

def kDrawVerticesFlags : DisplayListAttributeFlags :=
  ⟨kIsNonGeometric ||| kUsesAlpha ||| kUsesShader ||| kUsesBlend ||| kUsesColorFilter |||
    kUsesImageFilter⟩

def kDrawImageFlags : DisplayListAttributeFlags := ⟨kIgnoresPaint⟩

def kDrawImageWithPaintFlags : DisplayListAttributeFlags :=
  ⟨kBaseImageFlags ||| kUsesAntiAlias ||| kUsesMaskFilter⟩

def kDrawImageRectFlags : DisplayListAttributeFlags := ⟨kIgnoresPaint⟩

def kDrawImageRectWithPaintFlags : DisplayListAttributeFlags :=
  ⟨kBaseImageFlags ||| kUsesAntiAlias ||| kUsesMaskFilter⟩

def kDrawImageNineFlags : DisplayListAttributeFlags := ⟨kIgnoresPaint⟩

def kDrawImageNineWithPaintFlags : DisplayListAttributeFlags := ⟨kBaseImageFlags⟩

def kDrawAtlasFlags : DisplayListAttributeFlags := ⟨kIgnoresPaint⟩

def kDrawAtlasWithPaintFlags : DisplayListAttributeFlags := ⟨kBaseImageFlags⟩

def kDrawDisplayListFlags : DisplayListAttributeFlags := ⟨kIgnoresPaint⟩

def kDrawTextBlobFlags : DisplayListAttributeFlags :=
  ⟨(kBasePaintFlags ||| kBaseStrokeOrFillFlags ||| kMayHaveJoins) &&& ~~~kUsesAntiAlias⟩

def kDrawShadowFlags : DisplayListAttributeFlags := ⟨kIgnoresPaint⟩

end DisplayListOpFlags

end FlutterEngine.DisplayList
