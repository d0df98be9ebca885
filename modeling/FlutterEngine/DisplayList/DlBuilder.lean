import FlutterEngine.DisplayList.BoundsAccumulator
import FlutterEngine.DisplayList.Canvas
import FlutterEngine.DisplayList.DlOpFlags

/-!
# The state of a display list builder

`DisplayListBuilder` of `dl_builder.cc`: its storage, its stack of layers, and what it
keeps of the paint, the transform, the clip and the bounds. A byte offset into the storage
is the number of records before it. Records are changed through a pointer into the block
they were pushed to, so a change is lost once the records have moved to a new block.
-/

namespace FlutterEngine.DisplayList

/-- `DisplayListBuilder::SaveInfo`. `layerAccumulator` points to an accumulator that the
saves inside a layer share with it. -/
structure SaveInfo (p : Payloads) where
  saveOffset : Nat := 0
  isSaveLayer : Bool := false
  cannotInheritOpacity : Bool := false
  hasCompatibleOp : Bool := false
  filter : Option p.ImageFilter := none
  isUnbounded : Bool := false
  hasDeferredSaveOp : Bool := false
  isNop : Bool := false
  affectsTransparentLayer : Bool := false
  layerAccumulator : Option Nat := none

namespace SaveInfo

variable {p : Payloads} (info : SaveInfo p)

def isGroupOpacityCompatible : Bool := !info.cannotInheritOpacity

def markIncompatible : SaveInfo p := { info with cannotInheritOpacity := true }

def addCompatibleOp : SaveInfo p :=
  if info.cannotInheritOpacity then info
  else if info.hasCompatibleOp then { info with cannotInheritOpacity := true }
  else { info with hasCompatibleOp := true }

def addVisibleOp : SaveInfo p := { info with affectsTransparentLayer := true }

def setUnbounded : SaveInfo p := { info with isUnbounded := true }

end SaveInfo

/-- `DisplayListBuilder::OpResult`. -/
inductive OpResult where
  | noEffect | preservesTransparency | affectsAll
deriving DecidableEq, Repr

/-- `currentLayer` and `parents` are `layer_stack_`, the innermost first. -/
structure DisplayListBuilder {p : Payloads} [SkScalar p.Scalar] (kit : Toolkit p) where
  storage : List (DLOp p) := []
  used : Nat := 0
  allocated : Nat := 0
  renderOpCount : Nat := 0
  opIndex : Nat := 0
  nestedBytes : Nat := 0
  nestedOpCount : Int := 0
  isUIThreadSafe : Bool := true
  currentLayer : SaveInfo p := {}
  parents : List (SaveInfo p) := []
  tracker : DisplayListMatrixClipTracker kit.toSkGeometry
  layerTracker : Option (DisplayListMatrixClipTracker kit.toSkGeometry) := none
  /-- What the layers point to. -/
  layerAccumulators : List (AccumulationRect p.Scalar) := []
  accumulator : BoundsAccumulator p
  currentOpacityCompatibility : Bool := true
  current : DlPaint p := {}

variable {p : Payloads} [SkScalar p.Scalar] {kit : Toolkit p}

namespace DisplayListBuilder

/-- The constructor. -/
def new (kit : Toolkit p) (cullRect : SkRect p.Scalar) (prepareRtree : Bool) :
    DisplayListBuilder kit where
  tracker := .ofMatrix cullRect kit.identity
  accumulator := .blank kit prepareRtree

variable (builder : DisplayListBuilder kit)

/-! ## Storage -/

/-- `DL_BUILDER_PAGE`. -/
def builderPage : Nat := 4096

/-- Whether `Push` moves the records to a new block. -/
def moves (op : DLOp p) : Bool := decide (builder.allocated < builder.used + kit.recordSize op)

def push (op : DLOp p) (renderOpInc : Nat) : DisplayListBuilder kit :=
  let used := builder.used + kit.recordSize op
  { builder with
    storage := builder.storage ++ [op]
    used
    allocated :=
      if builder.moves op then (used + builderPage) / builderPage * builderPage
      else builder.allocated
    renderOpCount := builder.renderOpCount + renderOpInc
    opIndex := builder.opIndex + 1 }

/-- Change the record at this offset. -/
def patch (offset : Nat) (change : DLOp p → DLOp p) : DisplayListBuilder kit :=
  { builder with storage := builder.storage.modify offset change }

/-! ## Layers -/

def updateLayer (update : SaveInfo p → SaveInfo p) : DisplayListBuilder kit :=
  { builder with currentLayer := update builder.currentLayer }

/-- `IsOpacityCompatible`. -/
def isOpacityCompatible (mode : DlBlendMode) : Bool := mode == .srcOver

def updateCurrentOpacityCompatibility : DisplayListBuilder kit :=
  { builder with
    currentOpacityCompatibility :=
      builder.current.colorFilter.isNone && !builder.current.isInvertColors &&
        isOpacityCompatible builder.current.blendMode }

def updateLayerOpacityCompatibility (compatible : Bool) : DisplayListBuilder kit :=
  builder.updateLayer fun info =>
    if compatible then info.addCompatibleOp else info.markIncompatible

def updateLayerResult (result : OpResult) : DisplayListBuilder kit :=
  match result with
  | .noEffect | .preservesTransparency => builder
  | .affectsAll => builder.updateLayer SaveInfo.addVisibleOp

/-! ## Attributes -/

/-- `current_` set by the call, and a record pushed for it. -/
def record (call : AttributeCall p) (op : AttributeOp p) : DisplayListBuilder kit :=
  { builder with current := builder.current.set call }.push (.set op) 0

def onSetInvertColors (invert : Bool) : DisplayListBuilder kit :=
  (builder.record (.setInvertColors invert) (.setInvertColors invert))
    |>.updateCurrentOpacityCompatibility

def onSetBlendMode (mode : DlBlendMode) : DisplayListBuilder kit :=
  (builder.record (.setBlendMode mode) (.setBlendMode mode)).updateCurrentOpacityCompatibility

def setColor (color : DlColor) : DisplayListBuilder kit :=
  if builder.current.color != color then builder.record (.setColor color) (.setColor color)
  else builder

/-- A plain colour becomes the colour; that there is no colour source is not recorded. -/
def onSetColorSource (source : Option (DlColorSource p)) : DisplayListBuilder kit :=
  match source with
  | none => builder.record (.setColorSource none) .clearColorSource
  | some source =>
    let builder := { builder with
      isUIThreadSafe := builder.isUIThreadSafe && kit.colorSourceIsUIThreadSafe source }
    match source with
    | .color color =>
      { builder with current := builder.current.set (.setColorSource none) }.setColor color
    | .image image => builder.record (.setColorSource source) (.setImageColorSource image)
    | .linearGradient _ | .radialGradient _ | .conicalGradient _ | .sweepGradient _ =>
      builder.record (.setColorSource source) (.setPodColorSource source)
    | .runtimeEffect effect =>
      builder.record (.setColorSource source) (.setRuntimeEffectColorSource effect)

def onSetImageFilter (filter : Option p.ImageFilter) : DisplayListBuilder kit :=
  builder.record (.setImageFilter filter) <|
    match filter with
    | none => .clearImageFilter
    | some filter =>
      if kit.imageFilterIsPod filter then .setPodImageFilter filter
      else .setSharedImageFilter filter

def onSetColorFilter (filter : Option p.ColorFilter) : DisplayListBuilder kit :=
  (builder.record (.setColorFilter filter) <|
    match filter with
    | none => .clearColorFilter
    | some filter => .setPodColorFilter filter).updateCurrentOpacityCompatibility

def onSetPathEffect (effect : Option p.PathEffect) : DisplayListBuilder kit :=
  builder.record (.setPathEffect effect) <|
    match effect with
    | none => .clearPathEffect
    | some effect => .setPodPathEffect effect

def onSetMaskFilter (filter : Option p.MaskFilter) : DisplayListBuilder kit :=
  builder.record (.setMaskFilter filter) <|
    match filter with
    | none => .clearMaskFilter
    | some filter => .setPodMaskFilter filter

/-- Whether the setter of the call finds its argument different from the current value. -/
def changes (kit : Toolkit p) (current : DlPaint p) : AttributeCall p → Bool
  | .setAntiAlias aa => current.isAntiAlias != aa
  | .setInvertColors invert => current.isInvertColors != invert
  | .setStrokeCap cap => current.strokeCap != cap
  | .setStrokeJoin join => current.strokeJoin != join
  | .setDrawStyle style => current.drawStyle != style
  | .setStrokeWidth width => current.strokeWidth != width
  | .setStrokeMiter limit => current.strokeMiter != limit
  | .setColor color => current.color != color
  | .setBlendMode mode => current.blendMode != mode
  | .setColorSource source => !optionEquals kit.colorSourceEquals current.colorSource source
  | .setImageFilter filter => !optionEquals kit.imageFilterEquals current.imageFilter filter
  | .setColorFilter filter => !optionEquals kit.colorFilterEquals current.colorFilter filter
  | .setPathEffect effect => !optionEquals kit.pathEffectEquals current.pathEffect effect
  | .setMaskFilter filter => !optionEquals kit.maskFilterEquals current.maskFilter filter

/-- The `onSet` method of the setter. -/
def onSet : AttributeCall p → DisplayListBuilder kit
  | .setAntiAlias aa => builder.record (.setAntiAlias aa) (.setAntiAlias aa)
  | .setInvertColors invert => builder.onSetInvertColors invert
  | .setStrokeCap cap => builder.record (.setStrokeCap cap) (.setStrokeCap cap)
  | .setStrokeJoin join => builder.record (.setStrokeJoin join) (.setStrokeJoin join)
  | .setDrawStyle style => builder.record (.setDrawStyle style) (.setStyle style)
  | .setStrokeWidth width => builder.record (.setStrokeWidth width) (.setStrokeWidth width)
  | .setStrokeMiter limit => builder.record (.setStrokeMiter limit) (.setStrokeMiter limit)
  | .setColor color => builder.record (.setColor color) (.setColor color)
  | .setBlendMode mode => builder.onSetBlendMode mode
  | .setColorSource source => builder.onSetColorSource source
  | .setImageFilter filter => builder.onSetImageFilter filter
  | .setColorFilter filter => builder.onSetColorFilter filter
  | .setPathEffect effect => builder.onSetPathEffect effect
  | .setMaskFilter filter => builder.onSetMaskFilter filter

/-- The setters `setAntiAlias`, `setInvertColors` and so on. -/
def setAttribute (call : AttributeCall p) : DisplayListBuilder kit :=
  if changes kit builder.current call then builder.onSet call else builder

end DisplayListBuilder

open AttributeCall in
/-- The setters that `SetAttributesFromPaint` calls. -/
def attributesFromPaint (paint : DlPaint p) (flags : DisplayListAttributeFlags) :
    List (AttributeCall p) :=
  (if flags.appliesAntiAlias then [setAntiAlias paint.isAntiAlias] else []) ++
  (if flags.appliesAlphaOrColor then [setColor paint.color] else []) ++
  (if flags.appliesBlend then [setBlendMode paint.blendMode] else []) ++
  (if flags.appliesStyle then [setDrawStyle paint.drawStyle] else []) ++
  (if flags.isStroked paint.drawStyle then
    [setStrokeWidth paint.strokeWidth, setStrokeMiter paint.strokeMiter,
      setStrokeCap paint.strokeCap, setStrokeJoin paint.strokeJoin] else []) ++
  (if flags.appliesShader then [setColorSource paint.colorSource] else []) ++
  (if flags.appliesColorFilter then
    [setInvertColors paint.isInvertColors, setColorFilter paint.colorFilter] else []) ++
  (if flags.appliesImageFilter then [setImageFilter paint.imageFilter] else []) ++
  (if flags.appliesPathEffect then [setPathEffect paint.pathEffect] else []) ++
  (if flags.appliesMaskFilter then [setMaskFilter paint.maskFilter] else [])

namespace DisplayListBuilder

variable (builder : DisplayListBuilder kit)

def setAttributesFromPaint (paint : DlPaint p) (flags : DisplayListAttributeFlags) :
    DisplayListBuilder kit :=
  (attributesFromPaint paint flags).foldl setAttribute builder

end DisplayListBuilder

end FlutterEngine.DisplayList
