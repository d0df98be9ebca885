import FlutterEngine.DisplayList.DlBuilderDraws

/-!
# Saves, transforms and clips of a display list builder

The rest of `dl_builder.cc`. A save is only recorded when a transform or a clip follows
it, and restoring a layer goes back to its record.
-/

namespace FlutterEngine.DisplayList

open DisplayListOpFlags

/-! ## Changing a layer's record -/

namespace SaveLayerOptions

def withContentIsClipped (options : SaveLayerOptions) : SaveLayerOptions :=
  { options with contentIsClipped := true }

def withCanDistributeOpacity (options : SaveLayerOptions) : SaveLayerOptions :=
  { options with canDistributeOpacity := true }

end SaveLayerOptions

variable {p : Payloads} [SkScalar p.Scalar] {kit : Toolkit p}

namespace SaveOp

/-- Change the options and the rectangle of a layer. -/
def updateLayer (update : SaveLayerOptions → SkRect p.Scalar → SaveLayerOptions × SkRect p.Scalar) :
    SaveOp p → SaveOp p
  | save => save
  | saveLayer options rect => saveLayer (update options rect).1 (update options rect).2
  | saveLayerBackdrop options rect backdrop =>
    saveLayerBackdrop (update options rect).1 (update options rect).2 backdrop

/-- The bounds of the content, within those of the caller when they cut it. -/
def clippedContent (kit : Toolkit p) (contentBounds : SkRect p.Scalar) :
    SaveOp p → SkRect p.Scalar × Bool
  | save => (contentBounds, false)
  | saveLayer options rect | saveLayerBackdrop options rect _ =>
    if options.boundsFromCaller ∧ !kit.isEmpty contentBounds ∧ !kit.contains rect contentBounds
    then ((kit.intersect contentBounds rect).getD contentBounds, true)
    else (contentBounds, false)

end SaveOp

namespace DLOp

def withRestoreIndex (restoreIndex : Int) : DLOp p → DLOp p
  | save op _ => save op restoreIndex
  | op => op

/-- Set the rectangle of a layer's record and the options that go with it. -/
def withContent (rect : SkRect p.Scalar) (clipped distributes : Bool) : DLOp p → DLOp p
  | save op restoreIndex =>
    save (op.updateLayer fun options _ =>
      let options := if clipped then options.withContentIsClipped else options
      (if distributes then options.withCanDistributeOpacity else options, rect)) restoreIndex
  | op => op

end DLOp

namespace DisplayListBuilder

variable (builder : DisplayListBuilder kit)

/-! ## Saves -/

def checkForDeferredSave : DisplayListBuilder kit :=
  if builder.currentLayer.hasDeferredSaveOp then
    let saveOffset := builder.storage.length
    (builder.push (.save .save 0) 1).updateLayer fun info =>
      { info with saveOffset, hasDeferredSaveOp := false }
  else builder

/-- Only the layer tracker of a layer that accumulates is saved too. -/
def save : DisplayListBuilder kit :=
  let parent := builder.currentLayer
  { builder with
    parents := parent :: builder.parents
    currentLayer :=
      { hasDeferredSaveOp := true
        isNop := parent.isNop
        layerAccumulator := parent.layerAccumulator }
    layerTracker :=
      if parent.layerAccumulator.isSome then builder.layerTracker.map .save
      else builder.layerTracker
    tracker := builder.tracker.save
    accumulator := builder.accumulator.save kit }

/-- The tracker of the layers after the current one is left, which is the last when it has
no other save. -/
def leaveLayerTracker :
    Option (DisplayListMatrixClipTracker kit.toSkGeometry) →
      Option (DisplayListMatrixClipTracker kit.toSkGeometry)
  | none => none
  | some layerTracker =>
    if 1 < layerTracker.getSaveCount then some layerTracker.restore else none

/-- The bounds of a layer as its image filter maps them, and whether it could. -/
def boundsForParent (filter : Option p.ImageFilter) (contentBounds : SkRect p.Scalar) :
    SkRect p.Scalar × Bool :=
  match filter with
  | none => (contentBounds, true)
  | some filter => kit.mapLocalBounds filter contentBounds

/-- Restoring a layer: its record is changed unless `moved`, and its parent gets its bounds. -/
def syncSaveLayer (info parent : SaveInfo p) (moved : Bool) :
    DisplayListBuilder kit × SaveInfo p :=
  let contentBounds :=
    ((info.layerAccumulator.bind (builder.layerAccumulators[·]?)).getD (.blank kit)).bounds kit
  let (contentBounds, clipped) :=
    match builder.storage[info.saveOffset]? with
    | some (.save op _) => op.clippedContent kit contentBounds
    | _ => (contentBounds, false)
  let builder :=
    if moved then builder
    else
      builder.patch info.saveOffset (.withContent contentBounds clipped
        info.isGroupOpacityCompatible)
  let builder := { builder with layerTracker := leaveLayerTracker builder.layerTracker }
  match parent.layerAccumulator, builder.layerTracker with
  | some _, some layerTracker =>
    let (bounds, success) := @boundsForParent p kit info.filter contentBounds
    let parent := if success then parent else parent.setUnbounded
    (builder.accumulateInLayer parent (layerTracker.current.matrix.mapRect bounds).1, parent)
  | _, _ => (builder, parent)

/-- Restoring a save, which passes on to its parent how it inherits opacity. -/
def syncSave (info parent : SaveInfo p) : DisplayListBuilder kit × SaveInfo p :=
  ({ builder with layerTracker := builder.layerTracker.map .restore },
    if info.cannotInheritOpacity then parent.markIncompatible
    else if info.hasCompatibleOp then parent.addCompatibleOp
    else parent)

/-- Restore the accumulator through the filter of the layer that is left; it returns
whether the bounds can be trusted. -/
def restoreAccumulator (filter : Option p.ImageFilter) : DisplayListBuilder kit × Bool :=
  match filter with
  | none => ({ builder with accumulator := builder.accumulator.restore kit }, true)
  | some filter =>
    let mapper : BoundsMapper p := fun input =>
      let (output, success) :=
        kit.mapDeviceBounds filter (kit.roundOutIRect input)
          builder.tracker.current.matrix.matrix3x3
      (kit.ofIRect output, success)
    let (accumulator, success) :=
      builder.accumulator.restoreMapped kit mapper builder.tracker.deviceCullRect
    ({ builder with accumulator }, success)

/-- The record of the restore, when the save was recorded. -/
def recordRestore : DisplayListBuilder kit :=
  let info := builder.currentLayer
  if info.hasDeferredSaveOp then builder
  else (builder.patch info.saveOffset (.withRestoreIndex builder.opIndex)).push .restore 1

def restore : DisplayListBuilder kit :=
  match builder.parents with
  | [] => builder
  | parent :: parents =>
    let info := builder.currentLayer
    let moved := builder.moves .restore
    let builder := builder.recordRestore
    let (builder, parent) :=
      if info.isSaveLayer then builder.syncSaveLayer info parent moved
      else builder.syncSave info parent
    let builder := { builder with
      currentLayer := parent
      parents
      tracker := builder.tracker.restore }
    let (builder, success) := builder.restoreAccumulator info.filter
    if info.isUnbounded || !success then builder.accumulateUnbounded.getD builder else builder

def getSaveCount : Nat := builder.parents.length + 1

/-- How often `RestoreToCount` restores. -/
def restoresToCount (restoreCount : Int) : Nat :=
  min (builder.getSaveCount - restoreCount).toNat builder.parents.length

def restoreToCount (restoreCount : Int) : DisplayListBuilder kit :=
  restore^[builder.restoresToCount restoreCount] builder

/-! ## Layers -/

/-- The tracker of a new layer, in the coordinates of that layer. -/
def enterLayerTracker (bounds : SkRect p.Scalar) (options : SaveLayerOptions) :
    DisplayListMatrixClipTracker kit.toSkGeometry :=
  match builder.layerTracker with
  | some layerTracker =>
    let saved := layerTracker.save
    saved.withMatrix (saved.current.matrix.setTransform33 kit.identity)
  | none =>
    let cullRect :=
      if options.boundsFromCaller then bounds
      else builder.tracker.current.localCullRect kit.kMaxCullRect
    .ofMatrix cullRect kit.identity

/-- Open the layer: from here on it is the current one. -/
def pushLayer (bounds : SkRect p.Scalar) (options : SaveLayerOptions) : DisplayListBuilder kit :=
  { builder with
    parents := builder.currentLayer :: builder.parents
    currentLayer :=
      { saveOffset := builder.storage.length
        isSaveLayer := true
        filter := if options.rendersWithAttributes then builder.current.imageFilter else none
        layerAccumulator := some builder.layerAccumulators.length }
    layerAccumulators := builder.layerAccumulators ++ [.blank kit]
    layerTracker := some (builder.enterLayerTracker bounds options)
    tracker := builder.tracker.save
    accumulator := builder.accumulator.save kit }

/-- Record the layer. -/
def pushSaveLayer (recordBounds : SkRect p.Scalar) (options : SaveLayerOptions)
    (backdrop : Option p.ImageFilter) : DisplayListBuilder kit :=
  match backdrop with
  | none => builder.push (.save (.saveLayer options recordBounds) 0) 1
  | some backdrop =>
    (builder.accumulateUnbounded.getD builder).push
      (.save (.saveLayerBackdrop options recordBounds backdrop) 0) 1

/-- The clip inside the layer. -/
def clipLayer (bounds : SkRect p.Scalar) (options : SaveLayerOptions) : DisplayListBuilder kit :=
  if options.rendersWithAttributes && builder.current.imageFilter.isSome then
    { builder with
      tracker := builder.tracker.resetCullRect
        (if options.boundsFromCaller then some bounds else none) }
  else if options.boundsFromCaller then
    { builder with tracker := builder.tracker.clipRect bounds .intersect false }
  else builder

/-- A layer may fill the clip outside itself when it is restored. -/
def floodParent (options : SaveLayerOptions) : DisplayListBuilder kit :=
  if options.rendersWithAttributes && !builder.paintNopsOnTransparency then
    builder.accumulateUnbounded.getD builder
  else builder

/-- Report the layer to the one around it, open it and record it. -/
def openLayer (bounds : SkRect p.Scalar) (options : SaveLayerOptions)
    (backdrop : Option p.ImageFilter) : DisplayListBuilder kit :=
  let recordBounds := if options.boundsFromCaller then bounds else kit.emptyRect
  let compatible := builder.opacityCompatible options.rendersWithAttributes
  ((builder.updateLayerOpacityCompatibility compatible).pushLayer bounds options).pushSaveLayer
    recordBounds options backdrop

/-- A layer distributes no opacity when its attributes cannot take one on, or filter it. -/
def reportAttributes (options : SaveLayerOptions) : DisplayListBuilder kit :=
  if options.rendersWithAttributes &&
      (!builder.currentOpacityCompatibility || builder.current.imageFilter.isSome) then
    builder.updateLayerOpacityCompatibility false
  else builder

def saveLayerFlags (options : SaveLayerOptions) : DisplayListAttributeFlags :=
  if options.rendersWithAttributes then kSaveLayerWithPaintFlags else kSaveLayerFlags

/-- `saveLayer` with the options without optimizations. -/
def saveLayerWith (bounds : SkRect p.Scalar) (options : SaveLayerOptions)
    (backdrop : Option p.ImageFilter) : DisplayListBuilder kit :=
  let result := builder.paintResult builder.current (saveLayerFlags options)
  if result = .noEffect then builder.save.updateLayer fun info => { info with isNop := true }
  else
    (((builder.floodParent options).openLayer bounds options backdrop).reportAttributes options
      |>.updateLayerResult result).clipLayer bounds options

def saveLayer (bounds : SkRect p.Scalar) (inOptions : SaveLayerOptions)
    (backdrop : Option p.ImageFilter) : DisplayListBuilder kit :=
  builder.saveLayerWith bounds inOptions.withoutOptimizations backdrop

/-! ## Transforms -/

/-- Record a transform and apply it to both trackers. -/
def recordTransform (call : TransformCall p) (renderOpInc : Nat)
    (apply : TrackedMatrix kit.toSkGeometry → TrackedMatrix kit.toSkGeometry) :
    DisplayListBuilder kit :=
  let builder := builder.checkForDeferredSave.push (.transformClip (.transform call)) renderOpInc
  { builder with
    tracker := builder.tracker.withMatrix (apply builder.tracker.current.matrix)
    layerTracker := builder.layerTracker.map fun layerTracker =>
      layerTracker.withMatrix (apply layerTracker.current.matrix) }

def translate (tx ty : p.Scalar) : DisplayListBuilder kit :=
  if kit.isFinite tx && kit.isFinite ty && (tx != kit.literal 0 || ty != kit.literal 0) then
    builder.recordTransform (.translate tx ty) 1 (·.translate tx ty)
  else builder

def scale (sx sy : p.Scalar) : DisplayListBuilder kit :=
  if kit.isFinite sx && kit.isFinite sy && (sx != kit.literal 1 || sy != kit.literal 1) then
    builder.recordTransform (.scale sx sy) 1 (·.scale sx sy)
  else builder

def rotate (degrees : p.Scalar) : DisplayListBuilder kit :=
  if kit.mod degrees (kit.literal 360) != kit.literal 0 then
    builder.recordTransform (.rotate degrees) 1 (·.rotate degrees)
  else builder

def skew (sx sy : p.Scalar) : DisplayListBuilder kit :=
  if kit.isFinite sx && kit.isFinite sy && (sx != kit.literal 0 || sy != kit.literal 0) then
    builder.recordTransform (.skew sx sy) 1 (·.skew sx sy)
  else builder

def transform2DAffine (mxx mxy mxt myx myy myt : p.Scalar) : DisplayListBuilder kit :=
  if [mxx, myx, mxy, myy, mxt, myt].all kit.isFinite then
    if mxx == kit.literal 1 && mxy == kit.literal 0 && myx == kit.literal 0 &&
        myy == kit.literal 1 then
      builder.translate mxt myt
    else
      builder.recordTransform (.transform2DAffine mxx mxy mxt myx myy myt) 1
        (·.transform2DAffine mxx mxy mxt myx myy myt)
  else builder

def transformFullPerspective
    (mxx mxy mxz mxt myx myy myz myt mzx mzy mzz mzt mwx mwy mwz mwt : p.Scalar) :
    DisplayListBuilder kit :=
  let zero := kit.literal 0
  let one := kit.literal 1
  if mxz == zero && myz == zero && mzx == zero && mzy == zero && mzz == one && mzt == zero &&
      mwx == zero && mwy == zero && mwz == zero && mwt == one then
    builder.transform2DAffine mxx mxy mxt myx myy myt
  else if [mxx, mxy, mxz, mxt, myx, myy, myz, myt, mzx, mzy, mzz, mzt, mwx, mwy, mwz,
      mwt].all kit.isFinite then
    builder.recordTransform
      (.transformFullPerspective mxx mxy mxz mxt myx myy myz myt mzx mzy mzz mzt mwx mwy mwz mwt) 1
      (·.transformFullPerspective mxx mxy mxz mxt myx myy myz myt mzx mzy mzz mzt mwx mwy mwz mwt)
  else builder

/-- The tracker of the layers is transformed by the inverse, or becomes singular. -/
def transformReset : DisplayListBuilder kit :=
  let builder := builder.checkForDeferredSave.push (.transformClip (.transform .transformReset)) 0
  { builder with
    layerTracker := builder.layerTracker.map fun layerTracker =>
      layerTracker.withMatrix <|
        (layerTracker.current.matrix.inverseTransform builder.tracker.current.matrix).getD
          (layerTracker.current.matrix.setTransform33
            (kit.scaleMatrix (kit.literal 0) (kit.literal 0)))
    tracker := builder.tracker.withMatrix builder.tracker.current.matrix.setIdentity }

def transform : TransformCall p → DisplayListBuilder kit
  | .translate tx ty => builder.translate tx ty
  | .scale sx sy => builder.scale sx sy
  | .rotate degrees => builder.rotate degrees
  | .skew sx sy => builder.skew sx sy
  | .transform2DAffine mxx mxy mxt myx myy myt =>
    builder.transform2DAffine mxx mxy mxt myx myy myt
  | .transformFullPerspective mxx mxy mxz mxt myx myy myz myt mzx mzy mzz mzt mwx mwy mwz mwt =>
    builder.transformFullPerspective
      mxx mxy mxz mxt myx myy myz myt mzx mzy mzz mzt mwx mwy mwz mwt
  | .transformReset => builder.transformReset

/-! ## Clips -/

/-- Record a clip that the tracker has made, unless nothing can be drawn any more. -/
def recordClip (tracker : DisplayListMatrixClipTracker kit.toSkGeometry) (op : TransformClipOp p) :
    DisplayListBuilder kit :=
  let builder := { builder with tracker }
  if builder.currentLayer.isNop || tracker.isCullRectEmpty then
    builder.updateLayer fun info => { info with isNop := true }
  else builder.checkForDeferredSave.push (.transformClip op) 1

def clipRect (rect : SkRect p.Scalar) (clipOp : ClipOp) (isAA : Bool) : DisplayListBuilder kit :=
  if kit.rectIsFinite rect then
    builder.recordClip (builder.tracker.clipRect rect clipOp isAA) <|
      match clipOp with
      | .intersect => .clipIntersectRect rect isAA
      | .difference => .clipDifferenceRect rect isAA
  else builder

def clipRRect (rrect : p.RRect) (clipOp : ClipOp) (isAA : Bool) : DisplayListBuilder kit :=
  if kit.isRect rrect then builder.clipRect (kit.getBounds rrect) clipOp isAA
  else
    builder.recordClip (builder.tracker.clipRRect rrect clipOp isAA) <|
      match clipOp with
      | .intersect => .clipIntersectRRect rrect isAA
      | .difference => .clipDifferenceRRect rrect isAA

/-- What `ClipPath` reduces a path to. -/
def pathShape (kit : Toolkit p) (path : p.Path) : ClipShape p :=
  if kit.isInverseFillType path then .path path
  else
    match kit.pathIsRect path, kit.pathIsOval path, kit.pathIsRRect path with
    | some rect, _, _ => .rect rect
    | none, some rect, _ => .rrect (kit.ofOval rect)
    | none, none, some rrect => .rrect rrect
    | none, none, none => .path path

def clipPath (path : p.Path) (clipOp : ClipOp) (isAA : Bool) : DisplayListBuilder kit :=
  match pathShape kit path with
  | .rect rect => builder.clipRect rect clipOp isAA
  | .rrect rrect => builder.clipRRect rrect clipOp isAA
  | .path path =>
    builder.recordClip (builder.tracker.clipPath path clipOp isAA) <|
      match clipOp with
      | .intersect => .clipIntersectPath path isAA
      | .difference => .clipDifferencePath path isAA

def clip (call : ClipCall p) : DisplayListBuilder kit :=
  match call.shape with
  | .rect rect => builder.clipRect rect call.clipOp call.isAA
  | .rrect rrect => builder.clipRRect rrect call.clipOp call.isAA
  | .path path => builder.clipPath path call.clipOp call.isAA

/-- A call of `DlOpReceiver`, most of which `DlCanvas` shares. -/
def receive : ReceiverCall p → DisplayListBuilder kit
  | .set call => builder.setAttribute call
  | .save => builder.save
  | .saveLayer bounds options backdrop => builder.saveLayer bounds options backdrop
  | .restore => builder.restore
  | .transform call => builder.transform call
  | .clip call => builder.clip call
  | .draw call => builder.draw call

end DisplayListBuilder

end FlutterEngine.DisplayList
