import FlutterEngine.DisplayList.DlBuilder

/-!
# What an operation affects

Whether a paint has any effect, and the bounds of what an operation draws, of
`dl_builder.cc`.
-/

namespace FlutterEngine.DisplayList

variable {p : Payloads} [SkScalar p.Scalar] {kit : Toolkit p}

namespace DisplayListBuilder

/-! ## The effect of a paint -/

/-- Neither opaque nor transparent. -/
def kAnyColor : DlColor := DlColor.kMidGrey.withAlpha 0x80

/-- A filter makes any colour of all but a transparent one that it leaves so. -/
def filteredColor (modifiesTransparentBlack : Option Bool) (color : DlColor) : DlColor :=
  match modifiesTransparentBlack with
  | none => color
  | some modifies => if !color.isTransparent || modifies then kAnyColor else color

def getEffectiveColor (kit : Toolkit p) (paint : DlPaint p) (flags : DisplayListAttributeFlags) :
    DlColor :=
  let color :=
    if flags.appliesColor then
      match paint.colorSource with
      | some (.color color) => color
      | some source => if kit.colorSourceIsOpaque source then .kBlack else kAnyColor
      | none => paint.color
    else if flags.appliesAlpha then
      if paint.color.getAlpha = 0 then .kTransparent else kAnyColor
    else kAnyColor
  let color :=
    if flags.appliesImageFilter then
      filteredColor (paint.imageFilter.map kit.imageFilterModifiesTransparentBlack) color
    else color
  if flags.appliesColorFilter then
    filteredColor (paint.colorFilter.map kit.colorFilterModifiesTransparentBlack) color
  else color

/-- The effect of the blend mode on this colour. -/
def blendResult (mode : DlBlendMode) (color : DlColor) : OpResult :=
  match mode with
  | .dst => .noEffect
  | .clear | .srcIn => .preservesTransparency
  | .hue | .saturation | .color | .luminosity | .colorBurn =>
    if color.isTransparent then .noEffect else .affectsAll
  | .srcATop | .dstOut => if color.isTransparent then .noEffect else .preservesTransparency
  | .src | .srcOut | .dstATop =>
    if color.isTransparent then .preservesTransparency else .affectsAll
  | .dstIn => if color.isOpaque then .noEffect else .preservesTransparency
  | .srcOver | .dstOver | .xor | .plus | .screen | .multiply | .overlay | .darken | .lighten
  | .colorDodge | .hardLight | .softLight | .difference | .exclusion =>
    if color.isTransparent then .noEffect else .affectsAll
  | .modulate => if color = .kWhite then .noEffect else .preservesTransparency

/-- The effect of the paint outside a scope that is a nop. -/
def paintEffect (kit : Toolkit p) (paint : DlPaint p) (flags : DisplayListAttributeFlags) :
    OpResult :=
  if flags.appliesBlend then blendResult paint.blendMode (getEffectiveColor kit paint flags)
  else .affectsAll

variable (builder : DisplayListBuilder kit)

def paintResult (paint : DlPaint p) (flags : DisplayListAttributeFlags) : OpResult :=
  if builder.currentLayer.isNop then .noEffect else paintEffect kit paint flags

def paintNopsOnTransparency : Bool :=
  if builder.current.imageFilter.any kit.imageFilterModifiesTransparentBlack then false
  else if builder.current.colorFilter.any kit.colorFilterModifiesTransparentBlack then false
  else
    match builder.current.blendMode with
    | .clear | .src | .srcIn | .dstIn | .srcOut | .dstATop | .modulate => false
    | _ => true

/-! ## Bounds -/

/-- How far a stroke goes past the geometry. -/
def strokePad (specialFlags : DisplayListAttributeFlags) : p.Scalar :=
  let pad := kit.literal 1
  let pad :=
    if builder.current.strokeJoin == .miter && specialFlags.mayHaveAcuteJoins then
      stdMax pad builder.current.strokeMiter
    else pad
  let pad :=
    if builder.current.strokeCap == .square && specialFlags.mayHaveDiagonalCaps then
      stdMax pad kit.sqrt2
    else pad
  pad * stdMax (builder.current.strokeWidth * kit.half) kit.minStrokeWidth

/-- The geometry part of `AdjustBoundsForPaint`. -/
def adjustBoundsForGeometry (bounds : SkRect p.Scalar) (flags : DisplayListAttributeFlags) :
    Option (SkRect p.Scalar) :=
  if flags.isGeometric then do
    let isStroked := flags.isStroked builder.current.drawStyle
    let specialFlags := flags.withPathEffect builder.current.pathEffect.isSome isStroked
    let bounds ←
      match builder.current.pathEffect with
      | none => some bounds
      | some effect => kit.effectBounds effect bounds
    let pad := builder.strokePad specialFlags
    some (if isStroked then bounds.outset pad pad else bounds)
  else some bounds

/-- `AdjustBoundsForPaint`: none when the bounds cannot be estimated. -/
def adjustBoundsForPaint (bounds : SkRect p.Scalar) (flags : DisplayListAttributeFlags) :
    Option (SkRect p.Scalar) :=
  if flags.ignoresPaint then some bounds
  else do
    let bounds ← builder.adjustBoundsForGeometry bounds flags
    let bounds :=
      match flags.appliesMaskFilter, builder.current.maskFilter with
      | true, some filter =>
        let pad := kit.blurSigma filter * kit.literal 3
        bounds.outset pad pad
      | _, _ => bounds
    match flags.appliesImageFilter, builder.current.imageFilter with
    | true, some filter =>
      match kit.mapLocalBounds filter bounds with
      | (bounds, true) => some bounds
      | (_, false) => none
    | _, _ => some bounds

/-- The accumulator that a layer points to with this rectangle added. -/
def accumulateInLayer (info : SaveInfo p) (bounds : SkRect p.Scalar) : DisplayListBuilder kit :=
  match info.layerAccumulator with
  | none => builder
  | some target =>
    { builder with
      layerAccumulators := builder.layerAccumulators.modify target (·.accumulateRect bounds) }

/-- The bounds of this operation in the device, and in the layer if there is one. -/
def accumulate (deviceBounds : SkRect p.Scalar)
    (layerBounds : DisplayListMatrixClipTracker kit.toSkGeometry → SkRect p.Scalar) :
    DisplayListBuilder kit :=
  let builder := { builder with
    accumulator := builder.accumulator.accumulate deviceBounds builder.opIndex }
  match builder.layerTracker with
  | none => builder
  | some layerTracker => builder.accumulateInLayer builder.currentLayer (layerBounds layerTracker)

/-- `AccumulateUnbounded`: none when the clip is empty. -/
def accumulateUnbounded : Option (DisplayListBuilder kit) :=
  let clip := builder.tracker.deviceCullRect
  if kit.isEmpty clip then none
  else some (builder.accumulate clip DisplayListMatrixClipTracker.deviceCullRect)

/-- `AccumulateBounds`: none when nothing is inside the clip. -/
def accumulateBounds (bounds : SkRect p.Scalar) : Option (DisplayListBuilder kit) :=
  if kit.isEmpty bounds then none
  else
    let deviceBounds := (builder.tracker.current.matrix.mapRect bounds).1
    (kit.intersect deviceBounds builder.tracker.deviceCullRect).map fun deviceBounds =>
      builder.accumulate deviceBounds fun layerTracker =>
        (layerTracker.current.matrix.mapRect bounds).1

def accumulateOpBounds (bounds : SkRect p.Scalar) (flags : DisplayListAttributeFlags) :
    Option (DisplayListBuilder kit) :=
  match builder.adjustBoundsForPaint bounds flags with
  | some bounds => builder.accumulateBounds bounds
  | none => builder.accumulateUnbounded

end DisplayListBuilder

end FlutterEngine.DisplayList
