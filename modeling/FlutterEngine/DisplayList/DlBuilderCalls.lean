import FlutterEngine.DisplayList.DlBuilderSaves

/-!
# Recording and building a display list

The calls of `DlCanvas` come down to calls of `DlOpReceiver`; `Build` closes what is still
open, hands over what was recorded and starts again.
-/

namespace FlutterEngine.DisplayList

open DisplayListOpFlags

variable {p : Payloads} [SkScalar p.Scalar] {kit : Toolkit p}

/-- The calls of a builder. Matrices are given as `SkM44`s. -/
inductive BuilderCall (kit : Toolkit p) where
  | receive (call : ReceiverCall p)
  | saveLayer (bounds : Option (SkRect p.Scalar)) (paint : Option (DlPaint p))
      (backdrop : Option p.ImageFilter)
  | restoreToCount (restoreCount : Int)
  | transform (m44 : Option kit.SkM44)
  | setTransform (m44 : Option kit.SkM44)
  /-- The drawing methods with their paint; it is ignored by those that take none. -/
  | draw (call : DrawCall p) (paint : DlPaint p)

namespace DisplayListBuilder

variable (builder : DisplayListBuilder kit)

/-- `SaveLayer` with a paint and bounds that may be null. -/
def saveLayerWithPaint (bounds : Option (SkRect p.Scalar)) (paint : Option (DlPaint p))
    (backdrop : Option p.ImageFilter) : DisplayListBuilder kit :=
  let options : SaveLayerOptions :=
    { rendersWithAttributes := paint.isSome
      boundsFromCaller := bounds.isSome }
  let builder :=
    match paint with
    | none => builder
    | some paint => builder.setAttributesFromPaint paint kSaveLayerWithPaintFlags
  builder.saveLayer (bounds.getD kit.emptyRect) options backdrop

/-- The entries of a matrix as `Transform` passes them on. -/
def m44Call (kit : Toolkit p) (m44 : kit.SkM44) : TransformCall p :=
  let rc := kit.rc m44
  .transformFullPerspective (rc 0 0) (rc 0 1) (rc 0 2) (rc 0 3) (rc 1 0) (rc 1 1) (rc 1 2) (rc 1 3)
    (rc 2 0) (rc 2 1) (rc 2 2) (rc 2 3) (rc 3 0) (rc 3 1) (rc 3 2) (rc 3 3)

/-- `Transform` of a matrix that may be null. -/
def transformM44 (m44 : Option kit.SkM44) : DisplayListBuilder kit :=
  match m44 with
  | none => builder
  | some m44 => builder.transform (m44Call kit m44)

/-- `SetTransform` of a matrix that may be null. -/
def setTransform (m44 : Option kit.SkM44) : DisplayListBuilder kit :=
  builder.transformReset.transformM44 m44

/-- `DrawPaint`, `DrawLine` and so on. -/
def drawWithPaint (call : DrawCall p) (paint : DlPaint p) : DisplayListBuilder kit :=
  match call.paintFlags with
  | none => builder.draw call
  | some flags => (builder.setAttributesFromPaint paint flags).draw call

def call : BuilderCall kit → DisplayListBuilder kit
  | .receive call => builder.receive call
  | .saveLayer bounds paint backdrop => builder.saveLayerWithPaint bounds paint backdrop
  | .restoreToCount restoreCount => builder.restoreToCount restoreCount
  | .transform m44 => builder.transformM44 m44
  | .setTransform m44 => builder.setTransform m44
  | .draw call paint => builder.drawWithPaint call paint

def run (calls : List (BuilderCall kit)) : DisplayListBuilder kit := calls.foldl call builder

end DisplayListBuilder

/-! ## Build -/

/-- `DisplayList`. -/
structure BuiltDisplayList (p : Payloads) where
  storage : List (DLOp p)
  byteCount : Nat
  opCount : Nat
  nestedByteCount : Nat
  nestedOpCount : Int
  bounds : SkRect p.Scalar
  canApplyGroupOpacity : Bool
  isUIThreadSafe : Bool
  modifiesTransparentBlack : Bool
  rtree : Option (DlRTree (SkRect p.Scalar))

namespace DisplayListBuilder

variable (builder : DisplayListBuilder kit)

/-- Restore what is still open. -/
def restoreAll : DisplayListBuilder kit := restore^[builder.parents.length] builder

/-- The display list of what was recorded, once nothing is open any more. -/
def displayList : BuiltDisplayList p :=
  let rtree := builder.accumulator.toRTree kit
  { storage := builder.storage
    byteCount := builder.used
    opCount := builder.renderOpCount
    nestedByteCount := builder.nestedBytes
    nestedOpCount := builder.nestedOpCount
    bounds :=
      match rtree with
      | some tree => BoundsAccumulator.rootBounds kit tree
      | none => builder.accumulator.bounds kit
    canApplyGroupOpacity := builder.currentLayer.isGroupOpacityCompatible
    isUIThreadSafe := builder.isUIThreadSafe
    modifiesTransparentBlack := builder.currentLayer.affectsTransparentLayer
    rtree }

/-- What `Build` resets. No layer points to an accumulator any more. -/
def cleared : DisplayListBuilder kit :=
  { builder with
    storage := []
    used := 0
    allocated := 0
    renderOpCount := 0
    opIndex := 0
    nestedBytes := 0
    nestedOpCount := 0
    isUIThreadSafe := true
    currentLayer := {}
    parents := []
    tracker := builder.tracker.reset
    layerTracker := none
    layerAccumulators := []
    current := {} }

def build : BuiltDisplayList p × DisplayListBuilder kit :=
  (builder.restoreAll.displayList, builder.restoreAll.cleared)

/-! ## Calls of a canvas as calls of a receiver -/

def receiveAll (calls : List (ReceiverCall p)) : DisplayListBuilder kit :=
  calls.foldl receive builder

theorem receiveAll_append (first second : List (ReceiverCall p)) :
    builder.receiveAll (first ++ second) = (builder.receiveAll first).receiveAll second :=
  List.foldl_append

theorem receiveAll_set (calls : List (AttributeCall p)) :
    builder.receiveAll (calls.map .set) = calls.foldl setAttribute builder :=
  List.foldl_map

theorem receiveAll_restore (count : Nat) :
    builder.receiveAll (List.replicate count .restore) = restore^[count] builder := by
  induction count generalizing builder with
  | zero => rfl
  | succ count ih => exact ih builder.restore

/-- The calls of `DlOpReceiver` that the call makes. -/
def receiverCalls : BuilderCall kit → List (ReceiverCall p)
  | .receive call => [call]
  | .saveLayer bounds paint backdrop =>
    (paint.elim [] fun paint => attributesFromPaint paint kSaveLayerWithPaintFlags).map .set ++
      [.saveLayer (bounds.getD kit.emptyRect)
        { rendersWithAttributes := paint.isSome
          boundsFromCaller := bounds.isSome } backdrop]
  | .restoreToCount restoreCount =>
    List.replicate (builder.restoresToCount restoreCount) .restore
  | .transform m44 => (m44.map (m44Call kit)).toList.map .transform
  | .setTransform m44 => (.transformReset :: (m44.map (m44Call kit)).toList).map .transform
  | .draw call paint =>
    (call.paintFlags.elim [] (attributesFromPaint paint)).map .set ++ [.draw call]

/-- Every call of a canvas is some calls of a receiver. -/
theorem call_eq (call : BuilderCall kit) :
    builder.call call = builder.receiveAll (builder.receiverCalls call) := by
  cases call with
  | receive call => rfl
  | saveLayer bounds paint backdrop =>
    simp only [receiverCalls, receiveAll_append, receiveAll_set]
    cases paint with
    | none => rfl
    | some paint => rfl
  | restoreToCount restoreCount => exact (builder.receiveAll_restore _).symm
  | transform m44 => cases m44 with
      | none => rfl
      | some m44 => rfl
  | setTransform m44 => cases m44 with
      | none => rfl
      | some m44 => rfl
  | draw call paint =>
    simp only [receiverCalls, receiveAll_append, receiveAll_set, DisplayListBuilder.call,
      drawWithPaint]
    cases call.paintFlags with
    | none => rfl
    | some flags => rfl

/-- The calls of a receiver that these calls make. -/
def receiverRun : DisplayListBuilder kit → List (BuilderCall kit) → List (ReceiverCall p)
  | _, [] => []
  | builder, call :: calls => builder.receiverCalls call ++ receiverRun (builder.call call) calls

theorem run_eq (calls : List (BuilderCall kit)) :
    builder.run calls = builder.receiveAll (builder.receiverRun calls) := by
  induction calls generalizing builder with
  | nil => rfl
  | cons call calls ih =>
    simp only [receiverRun, receiveAll_append, ← call_eq]
    exact ih (builder.call call)

end DisplayListBuilder

end FlutterEngine.DisplayList
