import FlutterEngine.DisplayList.Toolkit
import FlutterEngine.Std.SavedStates

/-!
# The state stack of the layers

`LayerStateStack` of `layer_state_stack.cc`. Every vector is a list with its last item first. A
`DlCanvas` is what its contract says: `Restore` takes the transform, the clips and the layers back
to what they were at the matching save. The checkerboard function only draws, and what the entries
tell a `MutatorsStack` nothing here depends on.
-/

namespace FlutterEngine.Flow

open FlutterEngine.Std DisplayList

/-- What the state stack and its delegates call of scalars, matrices, filters and canvases. -/
structure LayerToolkit (p : Payloads) extends SkGeometry p.Scalar p.RRect p.Path where
  /-- `SkScalarRoundToInt(opacity * 0xff)`, as a `uint8_t`. -/
  roundToAlpha : p.Scalar → BitVec 8
  /-- `SkScalarRoundToScalar`. -/
  roundToScalar : p.Scalar → p.Scalar
  isTranslate : SkMatrix → Bool
  isIdentity : SkMatrix → Bool
  isScaleTranslate : SkMatrix → Bool
  getTranslateX : SkMatrix → p.Scalar
  getTranslateY : SkMatrix → p.Scalar
  /-- The matrix with other values at `kMTransX` and `kMTransY`. -/
  setTranslate : SkMatrix → p.Scalar → p.Scalar → SkMatrix
  /-- `SkM44::setRC`, by row and column. -/
  setRC : SkM44 → Nat → Nat → p.Scalar → SkM44
  canCommuteWithOpacity : p.ColorFilter → Bool
  /-- The transform of a canvas. -/
  CanvasTransform : Type
  canvasTranslate : CanvasTransform → p.Scalar → p.Scalar → CanvasTransform
  canvasTransform44 : CanvasTransform → SkM44 → CanvasTransform
  canvasTransform33 : CanvasTransform → SkMatrix → CanvasTransform
  /-- `SetTransform(const SkM44&)`. -/
  canvasSetTransform : CanvasTransform → SkM44 → CanvasTransform
  /-- `GetTransformFullPerspective`. -/
  canvasFullPerspective : CanvasTransform → SkM44

variable {p : Payloads}

/-- `RasterCacheUtil::ComputeIntegralTransCTM` of an `SkMatrix`; none when it returns false. -/
def computeIntegralTransCTM33 [SkScalar p.Scalar] (kit : LayerToolkit p) (matrix : kit.SkMatrix) :
    Option kit.SkMatrix :=
  if !kit.isScaleTranslate matrix then none
  else
    let inTx := kit.getTranslateX matrix
    let inTy := kit.getTranslateY matrix
    let outTx := kit.roundToScalar inTx
    let outTy := kit.roundToScalar inTy
    if outTx != inTx || outTy != inTy then some (kit.setTranslate matrix outTx outTy) else none

/-- `RasterCacheUtil::ComputeIntegralTransCTM` of an `SkM44`; none when it returns false. -/
def computeIntegralTransCTM44 [SkScalar p.Scalar] (kit : LayerToolkit p) (m44 : kit.SkM44) :
    Option kit.SkM44 :=
  let zero := kit.literal 0
  let rc := kit.rc m44
  if rc 0 1 != zero || rc 0 2 != zero then none
  else if rc 1 0 != zero || rc 1 2 != zero then none
  else if rc 3 0 != zero || rc 3 1 != zero || rc 3 2 != zero || rc 3 3 != kit.literal 1 then none
  else
    let outTx := kit.roundToScalar (rc 0 3)
    let outTy := kit.roundToScalar (rc 1 3)
    if outTx != rc 0 3 || outTy != rc 1 3 then
      some (kit.setRC (kit.setRC m44 0 3 outTx) 1 3 outTy)
    else none

/-! ## Attributes -/

/-- `RenderingAttributes`. -/
structure RenderingAttributes (p : Payloads) where
  saveLayerBounds : SkRect p.Scalar
  opacity : p.Scalar
  colorFilter : Option p.ColorFilter
  imageFilter : Option p.ImageFilter

namespace RenderingAttributes

/-- The attributes of `RenderingAttributes()`. -/
def default (kit : LayerToolkit p) : RenderingAttributes p where
  saveLayerBounds := kit.emptyRect
  opacity := kit.literal 1
  colorFilter := none
  imageFilter := none

/-- `fill` of a new paint; none where it returns a null pointer. -/
def fill [SkScalar p.Scalar] (kit : LayerToolkit p) (attributes : RenderingAttributes p)
    (mode : DlBlendMode) : Option (DlPaint p) :=
  let translucent := decide (attributes.opacity < kit.literal 1)
  let opacity :=
    if translucent then stdMax attributes.opacity (kit.literal 0) else kit.literal 1
  let paint : DlPaint p := {}
  if translucent || attributes.colorFilter.isSome || attributes.imageFilter.isSome ||
      mode != .srcOver then
    some { paint with
      color := paint.color.withAlpha (kit.roundToAlpha opacity)
      colorFilter := attributes.colorFilter
      imageFilter := attributes.imageFilter
      blendMode := mode }
  else none

end RenderingAttributes

/-! ## Delegates -/

/-- The calls that a delegate gets, but for `restore`. -/
inductive DelegateCall (kit : LayerToolkit p) where
  | save
  | saveLayer (bounds : SkRect p.Scalar) (attributes : RenderingAttributes p) (blend : DlBlendMode)
      (backdrop : Option p.ImageFilter)
  | translate (tx ty : p.Scalar)
  | transform44 (m44 : kit.SkM44)
  | transform33 (matrix : kit.SkMatrix)
  | integralTransform
  | clipRect (rect : SkRect p.Scalar) (op : ClipOp) (isAA : Bool)
  | clipRRect (rrect : p.RRect) (op : ClipOp) (isAA : Bool)
  | clipPath (path : p.Path) (op : ClipOp) (isAA : Bool)

inductive CanvasClipShape (p : Payloads) where
  | rect (rect : SkRect p.Scalar)
  | rrect (rrect : p.RRect)
  | path (path : p.Path)

/-- A clip and the transform it was made under. -/
structure CanvasClip (kit : LayerToolkit p) where
  shape : CanvasClipShape p
  op : ClipOp
  isAA : Bool
  transform : kit.CanvasTransform

/-- A layer that is open, and the transform it was opened under. -/
structure CanvasLayer (kit : LayerToolkit p) where
  bounds : SkRect p.Scalar
  paint : Option (DlPaint p)
  backdrop : Option p.ImageFilter
  transform : kit.CanvasTransform

/-- What `Restore` takes back. -/
structure CanvasState (kit : LayerToolkit p) where
  transform : kit.CanvasTransform
  clips : List (CanvasClip kit) := []
  layers : List (CanvasLayer kit) := []

variable {kit : LayerToolkit p}

/-- `DlCanvas`. -/
abbrev DlCanvas (kit : LayerToolkit p) := SavedStates (CanvasState kit)

namespace CanvasState

variable [SkScalar p.Scalar] (state : CanvasState kit)

def clip (shape : CanvasClipShape p) (op : ClipOp) (isAA : Bool) : CanvasState kit :=
  { state with clips := ⟨shape, op, isAA, state.transform⟩ :: state.clips }

/-- `DlCanvasDelegate::integralTransform`. -/
def integralTransform : CanvasState kit :=
  match computeIntegralTransCTM44 kit (kit.canvasFullPerspective state.transform) with
  | none => state
  | some integral => { state with transform := kit.canvasSetTransform state.transform integral }

end CanvasState

namespace DlCanvas

variable (canvas : DlCanvas kit)

def getSaveCount : Nat := canvas.saved.length + 1

/-- `RestoreToCount`. -/
def restoreToCount (restoreCount : Nat) : DlCanvas kit :=
  SavedStates.leave^[canvas.getSaveCount - restoreCount] canvas

/-- What a call of a `DlCanvasDelegate` does to its canvas. -/
def delegated [SkScalar p.Scalar] : DelegateCall kit → Move (CanvasState kit)
  | .save => .enter id
  | .saveLayer bounds attributes blend backdrop => .enter fun state =>
    { state with layers := ⟨bounds, attributes.fill kit blend, backdrop, state.transform⟩ ::
        state.layers }
  | .translate tx ty => .act fun state =>
    { state with transform := kit.canvasTranslate state.transform tx ty }
  | .transform44 m44 => .act fun state =>
    { state with transform := kit.canvasTransform44 state.transform m44 }
  | .transform33 matrix => .act fun state =>
    { state with transform := kit.canvasTransform33 state.transform matrix }
  | .integralTransform => .act CanvasState.integralTransform
  | .clipRect rect op isAA => .act fun state => state.clip (.rect rect) op isAA
  | .clipRRect rrect op isAA => .act fun state => state.clip (.rrect rrect) op isAA
  | .clipPath path op isAA => .act fun state => state.clip (.path path) op isAA

end DlCanvas

/-- The tracker of a `PrerollDelegate`. -/
abbrev PrerollTracker (kit : LayerToolkit p) := DisplayListMatrixClipTracker kit.toSkGeometry

namespace PrerollTracker

variable [SkScalar p.Scalar] (tracker : PrerollTracker kit)

/-- `PrerollDelegate::integralTransform`. -/
def integralTransform : PrerollTracker kit :=
  match tracker.current.matrix with
  | .data4x4 m44 =>
    match computeIntegralTransCTM44 kit m44 with
    | none => tracker
    | some integral => tracker.withMatrix (tracker.current.matrix.setTransform44 integral)
  | .data3x3 matrix =>
    match computeIntegralTransCTM33 kit matrix with
    | none => tracker
    | some integral => tracker.withMatrix (tracker.current.matrix.setTransform33 integral)

/-- What a call of the delegate does to its tracker. -/
def delegated : DelegateCall kit → PrerollTracker kit
  | .save => tracker.save
  | .saveLayer _ _ _ _ => tracker.save
  | .translate tx ty => tracker.withMatrix (tracker.current.matrix.translate tx ty)
  | .transform44 m44 => tracker.withMatrix (tracker.current.matrix.transform44 m44)
  | .transform33 matrix => tracker.withMatrix (tracker.current.matrix.transform33 matrix)
  | .integralTransform => integralTransform tracker
  | .clipRect rect op isAA => tracker.clipRect rect op isAA
  | .clipRRect rrect op isAA => tracker.clipRRect rrect op isAA
  | .clipPath path op isAA => tracker.clipPath path op isAA

end PrerollTracker

/-- `Delegate`; a canvas is named by its address. -/
inductive Delegate (kit : LayerToolkit p) where
  | dummy
  | canvas (address : Nat) (initialSaveLevel : Nat)
  | preroll (tracker : PrerollTracker kit)

/-- `Delegate::canvas`. -/
def Delegate.canvas? : Delegate kit → Option Nat
  | .canvas address _ => some address
  | .dummy | .preroll _ => none

/-! ## Entries -/

/-- `StateEntry`. -/
inductive StateEntry (kit : LayerToolkit p) where
  | save
  | saveLayer (bounds : SkRect p.Scalar) (blendMode : DlBlendMode)
      (oldAttributes : RenderingAttributes p)
  | opacity (bounds : SkRect p.Scalar) (opacity oldOpacity : p.Scalar)
      (oldBounds : SkRect p.Scalar)
  | imageFilter (bounds : SkRect p.Scalar) (filter : p.ImageFilter)
      (oldFilter : Option p.ImageFilter) (oldBounds : SkRect p.Scalar)
  | colorFilter (bounds : SkRect p.Scalar) (filter : p.ColorFilter)
      (oldFilter : Option p.ColorFilter) (oldBounds : SkRect p.Scalar)
  | backdropFilter (bounds : SkRect p.Scalar) (filter : Option p.ImageFilter)
      (blendMode : DlBlendMode) (oldAttributes : RenderingAttributes p)
  | translate (tx ty : p.Scalar)
  | transformMatrix (matrix : kit.SkMatrix)
  | transformM44 (m44 : kit.SkM44)
  | integralTransform
  | clipRect (clipRect : SkRect p.Scalar) (isAA : Bool)
  | clipRRect (clipRRect : p.RRect) (isAA : Bool)
  | clipPath (clipPath : p.Path) (isAA : Bool)

/-- The stack, with all canvases by their addresses. -/
structure LayerStateStack (kit : LayerToolkit p) where
  stateStack : List (StateEntry kit) := []
  delegate : Delegate kit := .dummy
  outstanding : RenderingAttributes p := .default kit
  canvases : Nat → DlCanvas kit

namespace LayerStateStack

variable [SkScalar p.Scalar] (stack : LayerStateStack kit)

/-- A call of the delegate. -/
def send (call : DelegateCall kit) : LayerStateStack kit :=
  match stack.delegate with
  | .dummy => stack
  | .canvas address _ => { stack with
      canvases := Function.update stack.canvases address
        ((stack.canvases address).move (DlCanvas.delegated call)) }
  | .preroll tracker => { stack with delegate := .preroll (PrerollTracker.delegated tracker call) }

omit [SkScalar p.Scalar] in
/-- `restore` of the delegate. -/
def sendRestore : LayerStateStack kit :=
  match stack.delegate with
  | .dummy => stack
  | .canvas address _ => { stack with
      canvases := Function.update stack.canvases address (stack.canvases address).leave }
  | .preroll tracker => { stack with delegate := .preroll tracker.restore }

end LayerStateStack

namespace StateEntry

variable [SkScalar p.Scalar]

def apply (stack : LayerStateStack kit) : StateEntry kit → LayerStateStack kit
  | .save => stack.send .save
  | .saveLayer bounds blendMode _ =>
    { stack.send (.saveLayer bounds stack.outstanding blendMode none) with
      outstanding := .default kit }
  | .opacity bounds factor _ _ => { stack with
      outstanding := { stack.outstanding with
        saveLayerBounds := bounds, opacity := stack.outstanding.opacity * factor } }
  | .imageFilter bounds filter _ _ => { stack with
      outstanding := { stack.outstanding with
        saveLayerBounds := bounds, imageFilter := some filter } }
  | .colorFilter bounds filter _ _ => { stack with
      outstanding := { stack.outstanding with
        saveLayerBounds := bounds, colorFilter := some filter } }
  | .backdropFilter bounds filter blendMode _ =>
    { stack.send (.saveLayer bounds stack.outstanding blendMode filter) with
      outstanding := .default kit }
  | .translate tx ty => stack.send (.translate tx ty)
  | .transformMatrix matrix => stack.send (.transform33 matrix)
  | .transformM44 m44 => stack.send (.transform44 m44)
  | .integralTransform => stack.send .integralTransform
  | .clipRect rect isAA => stack.send (.clipRect rect .intersect isAA)
  | .clipRRect rrect isAA => stack.send (.clipRRect rrect .intersect isAA)
  | .clipPath path isAA => stack.send (.clipPath path .intersect isAA)

/-- A backdrop filter is not applied again. -/
def reapply (stack : LayerStateStack kit) : StateEntry kit → LayerStateStack kit
  | .backdropFilter bounds _ blendMode oldAttributes =>
    apply stack (.saveLayer bounds blendMode oldAttributes)
  | entry => apply stack entry

omit [SkScalar p.Scalar] in
def restore (stack : LayerStateStack kit) : StateEntry kit → LayerStateStack kit
  | .save => stack.sendRestore
  | .saveLayer _ _ oldAttributes | .backdropFilter _ _ _ oldAttributes =>
    { stack.sendRestore with outstanding := oldAttributes }
  | .opacity _ _ oldOpacity oldBounds => { stack with
      outstanding := { stack.outstanding with
        saveLayerBounds := oldBounds, opacity := oldOpacity } }
  | .imageFilter _ _ oldFilter oldBounds => { stack with
      outstanding := { stack.outstanding with
        saveLayerBounds := oldBounds, imageFilter := oldFilter } }
  | .colorFilter _ _ oldFilter oldBounds => { stack with
      outstanding := { stack.outstanding with
        saveLayerBounds := oldBounds, colorFilter := oldFilter } }
  | .translate .. | .transformMatrix _ | .transformM44 _ | .integralTransform | .clipRect ..
  | .clipRRect .. | .clipPath .. => stack

end StateEntry

namespace LayerStateStack

variable [SkScalar p.Scalar] (stack : LayerStateStack kit)

/-! ## Swaps -/

/-- `decommission` of the delegate. -/
def decommission : LayerStateStack kit :=
  match stack.delegate with
  | .dummy | .preroll _ => stack
  | .canvas address initialSaveLevel => { stack with
      canvases := Function.update stack.canvases address
        (DlCanvas.restoreToCount (stack.canvases address) initialSaveLevel) }

def clearDelegate : LayerStateStack kit := { stack.decommission with delegate := .dummy }

def reapplyAll : LayerStateStack kit :=
  stack.stateStack.foldr (fun entry stack => entry.reapply stack)
    { stack with outstanding := .default kit }

/-- `set_delegate` of a canvas, or of a null pointer. -/
def setDelegate (canvas : Option Nat) : LayerStateStack kit :=
  if canvas = stack.delegate.canvas? then stack
  else
    let cleared := stack.clearDelegate
    match canvas with
    | none => cleared
    | some address =>
      reapplyAll { cleared with
        delegate := .canvas address (DlCanvas.getSaveCount (cleared.canvases address)) }

/-- `set_preroll_delegate`; the other overloads call this one. -/
def setPrerollDelegate (cullRect : SkRect p.Scalar) (matrix : kit.SkMatrix) :
    LayerStateStack kit :=
  reapplyAll { stack.clearDelegate with
    delegate := .preroll (DisplayListMatrixClipTracker.ofMatrix cullRect matrix) }

/-! ## Pushes -/

/-- Push an entry and `apply_last_entry`. -/
def push (entry : StateEntry kit) : LayerStateStack kit :=
  entry.apply { stack with stateStack := entry :: stack.stateStack }

/-- One turn of the loop of `restore_to_count`. -/
def restoreLast : LayerStateStack kit :=
  match stack.stateStack with
  | [] => stack
  | entry :: below => { entry.restore stack with stateStack := below }

def restoreToCount (restoreCount : Nat) : LayerStateStack kit :=
  restoreLast^[stack.stateStack.length - restoreCount] stack

def doSave : LayerStateStack kit := stack.push .save

def saveLayer (bounds : SkRect p.Scalar) : LayerStateStack kit :=
  stack.push (.saveLayer bounds .srcOver stack.outstanding)

def kCallerCanApplyOpacity : BitVec 32 := 0x1
def kCallerCanApplyColorFilter : BitVec 32 := 0x2
def kCallerCanApplyImageFilter : BitVec 32 := 0x4

def needsSaveLayer (flags : BitVec 32) : Bool :=
  (decide (stack.outstanding.opacity < kit.literal 1) && flags &&& kCallerCanApplyOpacity == 0) ||
    (stack.outstanding.imageFilter.isSome && flags &&& kCallerCanApplyImageFilter == 0) ||
    (stack.outstanding.colorFilter.isSome && flags &&& kCallerCanApplyColorFilter == 0)

/-- `maybe_save_layer_for_transform`, and for a clip. -/
def maybeSaveLayerFor (saveNeeded : Bool) : LayerStateStack kit :=
  if stack.outstanding.imageFilter.isSome then stack.saveLayer stack.outstanding.saveLayerBounds
  else if saveNeeded then stack.doSave
  else stack

/-- `maybe_save_layer` of an opacity, and of an image filter. -/
def maybeSaveLayer : LayerStateStack kit :=
  if stack.outstanding.imageFilter.isSome then stack.saveLayer stack.outstanding.saveLayerBounds
  else stack

/-- `maybe_save_layer` of a colour filter. -/
def maybeSaveLayerForColorFilter (filter : p.ColorFilter) : LayerStateStack kit :=
  if stack.outstanding.colorFilter.isSome || stack.outstanding.imageFilter.isSome ||
      (decide (stack.outstanding.opacity < kit.literal 1) && !kit.canCommuteWithOpacity filter) then
    stack.saveLayer stack.outstanding.saveLayerBounds
  else stack

def pushOpacity (bounds : SkRect p.Scalar) (opacity : p.Scalar) : LayerStateStack kit :=
  let saved := stack.maybeSaveLayer
  saved.push (.opacity bounds opacity saved.outstanding.opacity saved.outstanding.saveLayerBounds)

def pushColorFilter (bounds : SkRect p.Scalar) (filter : p.ColorFilter) : LayerStateStack kit :=
  let saved := stack.maybeSaveLayerForColorFilter filter
  saved.push (.colorFilter bounds filter saved.outstanding.colorFilter
    saved.outstanding.saveLayerBounds)

def pushImageFilter (bounds : SkRect p.Scalar) (filter : p.ImageFilter) : LayerStateStack kit :=
  let saved := stack.maybeSaveLayer
  saved.push (.imageFilter bounds filter saved.outstanding.imageFilter
    saved.outstanding.saveLayerBounds)

def pushBackdrop (bounds : SkRect p.Scalar) (filter : Option p.ImageFilter)
    (blendMode : DlBlendMode) : LayerStateStack kit :=
  stack.push (.backdropFilter bounds filter blendMode stack.outstanding)

end LayerStateStack

/-! ## Scopes -/

/-- `MutatorContext`. -/
structure MutatorContext where
  stackRestoreCount : Nat
  saveNeeded : Bool := true
deriving DecidableEq, Repr

/-- The calls of a `MutatorContext`. -/
inductive MutatorCall (kit : LayerToolkit p) where
  | saveLayer (bounds : SkRect p.Scalar)
  | applyOpacity (bounds : SkRect p.Scalar) (opacity : p.Scalar)
  | applyImageFilter (bounds : SkRect p.Scalar) (filter : Option p.ImageFilter)
  | applyColorFilter (bounds : SkRect p.Scalar) (filter : Option p.ColorFilter)
  | applyBackdropFilter (bounds : SkRect p.Scalar) (filter : Option p.ImageFilter)
      (blendMode : DlBlendMode)
  | translate (tx ty : p.Scalar)
  | transform33 (matrix : kit.SkMatrix)
  | transform44 (m44 : kit.SkM44)
  | integralTransform
  | clipRect (rect : SkRect p.Scalar) (isAA : Bool)
  | clipRRect (rrect : p.RRect) (isAA : Bool)
  | clipPath (path : p.Path) (isAA : Bool)

namespace MutatorContext

variable [SkScalar p.Scalar] (context : MutatorContext) (stack : LayerStateStack kit)

/-- The transforms and the clips: save if it is needed, and push the entry. -/
def pushGuarded (entry : StateEntry kit) : MutatorContext × LayerStateStack kit :=
  ({ context with saveNeeded := false }, (stack.maybeSaveLayerFor context.saveNeeded).push entry)

def translate (tx ty : p.Scalar) : MutatorContext × LayerStateStack kit :=
  if !(tx == kit.literal 0 && ty == kit.literal 0) then
    context.pushGuarded stack (.translate tx ty)
  else (context, stack)

/-- `transform(const SkMatrix&)`. -/
def transform33 (matrix : kit.SkMatrix) : MutatorContext × LayerStateStack kit :=
  if kit.isTranslate matrix then
    context.translate stack (kit.getTranslateX matrix) (kit.getTranslateY matrix)
  else if !kit.isIdentity matrix then context.pushGuarded stack (.transformMatrix matrix)
  else (context, stack)

/-- `transform(const SkM44&)`. -/
def transform44 (m44 : kit.SkM44) : MutatorContext × LayerStateStack kit :=
  if TrackedMatrix.is3x3 m44 then context.transform33 stack (kit.asM33 m44)
  else context.pushGuarded stack (.transformM44 m44)

def mutate : MutatorCall kit → MutatorContext × LayerStateStack kit
  | .saveLayer bounds => (context, stack.saveLayer bounds)
  | .applyOpacity bounds opacity =>
    (context, if opacity < kit.literal 1 then stack.pushOpacity bounds opacity else stack)
  | .applyImageFilter bounds filter =>
    (context, match filter with
      | some filter => stack.pushImageFilter bounds filter
      | none => stack)
  | .applyColorFilter bounds filter =>
    (context, match filter with
      | some filter => stack.pushColorFilter bounds filter
      | none => stack)
  | .applyBackdropFilter bounds filter blendMode =>
    (context, stack.pushBackdrop bounds filter blendMode)
  | .translate tx ty => context.translate stack tx ty
  | .transform33 matrix => context.transform33 stack matrix
  | .transform44 m44 => context.transform44 stack m44
  | .integralTransform => context.pushGuarded stack .integralTransform
  | .clipRect rect isAA => context.pushGuarded stack (.clipRect rect isAA)
  | .clipRRect rrect isAA => context.pushGuarded stack (.clipRRect rrect isAA)
  | .clipPath path isAA => context.pushGuarded stack (.clipPath path isAA)

end MutatorContext

/-- A scope that restores the stack when it ends. -/
inductive LayerScope where
  | autoRestore (stackRestoreCount : Nat)
  | mutator (context : MutatorContext)
deriving DecidableEq, Repr

def LayerScope.stackRestoreCount : LayerScope → Nat
  | .autoRestore count => count
  | .mutator context => context.stackRestoreCount

end FlutterEngine.Flow
