import FlutterEngine.DisplayList.OrderedRect
import FlutterEngine.Flow.LayerStateStack

/-!
# The context of diffing layer trees

What `DiffContext` of `diff_context.cc` holds while layer trees are diffed, and the damage it
computes from that. A paint region points into the vector of rectangles of the context that
recorded it, so a context keeps the vectors of the contexts before it, numbered in their order;
its own comes last.
-/

namespace FlutterEngine.Flow

open DisplayList

/-- What diffing calls of scalars and matrices besides the clip tracker. -/
structure DiffGeometry (Scalar RRect Path : Type) extends SkGeometry Scalar RRect Path where
  /-- `SkMatrix::Translate`. -/
  translate : Scalar → Scalar → SkMatrix
  /-- `SkRect::roundOut` to an `SkIRect`. -/
  roundOutIRect : SkRect Scalar → SkIRect
  /-- `RasterCacheUtil::ComputeIntegralTransCTM` of an `SkMatrix`. -/
  integralTransCTM33 : SkMatrix → Option SkMatrix
  /-- `RasterCacheUtil::ComputeIntegralTransCTM` of an `SkM44`. -/
  integralTransCTM44 : SkM44 → Option SkM44

/-- `rects` is the number of the vector that the region points into, none for a null pointer. -/
structure PaintRegion where
  rects : Option Nat := none
  fromIndex : Nat := 0
  toIndex : Nat := 0
  hasReadback : Bool := false
  hasTexture : Bool := false
deriving DecidableEq, Repr

/-- From `unique_id` to the region, none for an id that is not in the map. -/
abbrev PaintRegionMap : Type := Nat → Option PaintRegion

structure Readback where
  /-- Index of the placeholder in the rectangles. -/
  position : Nat
  paintRect : SkIRect
  readbackRect : SkIRect
deriving DecidableEq, Repr

structure Damage where
  frameDamage : SkIRect
  bufferDamage : SkIRect
deriving DecidableEq, Repr

/-- `SkISize`. -/
structure SkISize where
  fWidth : Int
  fHeight : Int
deriving DecidableEq, Repr

/-- `DiffContext::State`. -/
structure DiffState where
  dirty : Bool := false
  rectIndex : Nat := 0
  integralTransform : Bool := false
  clipTrackerSaveCount : Nat := 0
  hasFilterBoundsAdjustment : Bool := false
  hasTexture : Bool := false
deriving DecidableEq, Repr

/-- A rectangle that joins started from `MakeEmpty` make. -/
structure JoinedRect {Scalar RRect Path : Type} [LinearOrder Scalar]
    (sk : DiffGeometry Scalar RRect Path) where
  rect : SkRect Scalar
  joined : rect.isEmpty = true → rect = sk.emptyRect

namespace JoinedRect

variable {Scalar RRect Path : Type} {sk : DiffGeometry Scalar RRect Path} [LinearOrder Scalar]

def empty : JoinedRect sk := ⟨sk.emptyRect, fun _ => rfl⟩

def join (damage : JoinedRect sk) (other : SkRect Scalar) : JoinedRect sk where
  rect := damage.rect.join other
  joined isEmpty := by
    cases otherEmpty : other.isEmpty with
    | true =>
      have same : damage.rect.join other = damage.rect := if_pos otherEmpty
      rw [same] at isEmpty ⊢
      exact damage.joined isEmpty
    | false =>
      rw [SkRect.isEmpty_join otherEmpty] at isEmpty
      cases isEmpty

end JoinedRect

/-- The stacks are lists with the last item first. -/
structure DiffContext {Scalar RRect Path : Type} [LinearOrder Scalar]
    (sk : DiffGeometry Scalar RRect Path) where
  clipTracker : DisplayListMatrixClipTracker sk.toSkGeometry
  /-- The vectors of the contexts before this one. -/
  earlierRects : List (List (SkRect Scalar))
  rects : List (SkRect Scalar)
  state : DiffState
  frameSize : SkISize
  stateStack : List DiffState
  filterBoundsAdjustmentStack : List (SkRect Scalar → SkRect Scalar)
  damage : JoinedRect sk
  thisFramePaintRegionMap : PaintRegionMap
  lastFramePaintRegionMap : PaintRegionMap
  hasRasterCache : Bool
  readbacks : List Readback

namespace DiffContext

variable {Scalar RRect Path : Type} [LinearOrder Scalar] [BEq Scalar]
  {sk : DiffGeometry Scalar RRect Path} (context : DiffContext sk)

/-- The constructor. The map of this frame is the one of the new layer tree. -/
def create (kGiantRect : SkRect Scalar) (frameSize : SkISize) (lastFrame : PaintRegionMap)
    (hasRasterCache : Bool) (earlierRects : List (List (SkRect Scalar))) : DiffContext sk where
  clipTracker := .ofMatrix kGiantRect sk.identity
  earlierRects
  rects := []
  state := {}
  frameSize
  stateStack := []
  filterBoundsAdjustmentStack := []
  damage := .empty
  thisFramePaintRegionMap _ := none
  lastFramePaintRegionMap := lastFrame
  hasRasterCache
  readbacks := []

/-- `AddDamage` of a rectangle. -/
def addDamageRect (rect : SkRect Scalar) : DiffContext sk :=
  { context with damage := context.damage.join rect }

def addReadbackRegion (paintRect readbackRect : SkIRect) : DiffContext sk :=
  { context with
    rects := context.rects ++ [sk.emptyRect]
    readbacks := context.readbacks ++ [⟨context.rects.length, paintRect, readbackRect⟩] }

/-! ## The damage -/

/-- The loop of `ComputeDamage` over the readbacks, with the frame damage and the buffer
damage. -/
def readbackDamage (sk : DiffGeometry Scalar RRect Path) (frameDamage bufferDamage : SkRect Scalar) :
    List Readback → SkRect Scalar × SkRect Scalar
  | [] => (frameDamage, bufferDamage)
  | readback :: readbacks =>
    let paintRect := sk.ofIRect readback.paintRect
    let readbackRect := sk.ofIRect readback.readbackRect
    if paintRect.intersects frameDamage || readbackRect.intersects frameDamage then
      readbackDamage sk ((frameDamage.join readbackRect).join paintRect)
        ((bufferDamage.join readbackRect).join paintRect) readbacks
    else readbackDamage sk frameDamage bufferDamage readbacks

/-- The frame damage and the buffer damage of `ComputeDamage` before they are rounded out,
clipped to the frame and aligned. -/
def damages (accumulatedBufferDamage : SkIRect) : SkRect Scalar × SkRect Scalar :=
  readbackDamage sk context.damage.rect
    ((sk.ofIRect accumulatedBufferDamage).join context.damage.rect) context.readbacks

/-- The damages rounded out. -/
def roundedDamage (accumulatedBufferDamage : SkIRect) : Damage where
  frameDamage := sk.roundOutIRect (context.damages accumulatedBufferDamage).1
  bufferDamage := sk.roundOutIRect (context.damages accumulatedBufferDamage).2

/-- `SkIRect::intersect`, which leaves the rectangle as it is when the two do not intersect. -/
def intersectIRect (rect other : SkIRect) : SkIRect :=
  let shared : SkIRect := ⟨max rect.fLeft other.fLeft, max rect.fTop other.fTop,
    min rect.fRight other.fRight, min rect.fBottom other.fBottom⟩
  if shared.fLeft < shared.fRight ∧ shared.fTop < shared.fBottom then shared else rect

/-- `AlignRect`. The remainder is that of C++. -/
def alignRect (rect : SkIRect) (horizontal vertical : Int) : SkIRect :=
  let top := rect.fTop - rect.fTop.tmod vertical
  let left := rect.fLeft - rect.fLeft.tmod horizontal
  let right := if rect.fRight.tmod horizontal ≠ 0 then
      rect.fRight + (horizontal - rect.fRight.tmod horizontal) else rect.fRight
  let bottom := if rect.fBottom.tmod vertical ≠ 0 then
      rect.fBottom + (vertical - rect.fBottom.tmod vertical) else rect.fBottom
  ⟨left, top, min right context.frameSize.fWidth, min bottom context.frameSize.fHeight⟩

def computeDamage (accumulatedBufferDamage : SkIRect) (horizontal vertical : Int) : Damage :=
  let rounded := context.roundedDamage accumulatedBufferDamage
  let frameClip : SkIRect := ⟨0, 0, context.frameSize.fWidth, context.frameSize.fHeight⟩
  let frameDamage := intersectIRect rounded.frameDamage frameClip
  let bufferDamage := intersectIRect rounded.bufferDamage frameClip
  if horizontal > 1 ∨ vertical > 1 then
    ⟨context.alignRect frameDamage horizontal vertical,
      context.alignRect bufferDamage horizontal vertical⟩
  else ⟨frameDamage, bufferDamage⟩

end DiffContext

end FlutterEngine.Flow
