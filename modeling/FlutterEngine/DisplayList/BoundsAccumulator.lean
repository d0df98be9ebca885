import FlutterEngine.DisplayList.RTree
import FlutterEngine.DisplayList.Toolkit

/-!
# Accumulating bounds

`dl_bounds_accumulator.cc`: the bounds of what is drawn, as one rectangle or as the
rectangles and op indices of an R-tree.
-/

namespace FlutterEngine.DisplayList

variable {p : Payloads} [SkScalar p.Scalar] (kit : Toolkit p)

/-! ## One rectangle -/

/-- `RectBoundsAccumulator::AccumulationRect`. -/
structure AccumulationRect (Scalar : Type) where
  minX : Scalar
  minY : Scalar
  maxX : Scalar
  maxY : Scalar

namespace AccumulationRect

/-- What the constructor sets. -/
def blank : AccumulationRect p.Scalar :=
  ⟨kit.infinity, kit.infinity, kit.negInfinity, kit.negInfinity⟩

variable (accumulated : AccumulationRect p.Scalar)

def accumulate (x y : p.Scalar) : AccumulationRect p.Scalar where
  minX := if x < accumulated.minX then x else accumulated.minX
  minY := if y < accumulated.minY then y else accumulated.minY
  maxX := if accumulated.maxX < x then x else accumulated.maxX
  maxY := if accumulated.maxY < y then y else accumulated.maxY

def isEmpty : Bool :=
  decide (accumulated.maxX ≤ accumulated.minX) || decide (accumulated.maxY ≤ accumulated.minY)

def bounds : SkRect p.Scalar :=
  if accumulated.minX ≤ accumulated.maxX ∧ accumulated.minY ≤ accumulated.maxY then
    ⟨accumulated.minX, accumulated.minY, accumulated.maxX, accumulated.maxY⟩
  else kit.emptyRect

/-- `RectBoundsAccumulator::accumulate` of a rectangle. -/
def accumulateRect (rect : SkRect p.Scalar) : AccumulationRect p.Scalar :=
  if rect.fLeft < rect.fRight ∧ rect.fTop < rect.fBottom then
    (accumulated.accumulate rect.fLeft rect.fTop).accumulate rect.fRight rect.fBottom
  else accumulated

/-- `RectBoundsAccumulator::accumulate` of some points. -/
def accumulatePoints (points : List (SkPoint p.Scalar)) : AccumulationRect p.Scalar :=
  points.foldl (fun accumulated point => accumulated.accumulate point.fX point.fY) accumulated

end AccumulationRect

/-! ## Both accumulators -/

/-- `RectBoundsAccumulator` and `RTreeBoundsAccumulator`; the latest save is the first. -/
inductive BoundsAccumulator (p : Payloads) where
  | rect (rect : AccumulationRect p.Scalar) (savedRects : List (AccumulationRect p.Scalar))
  | rtree (rects : List (SkRect p.Scalar × Int)) (savedOffsets : List Nat)

/-- What `restore` applies to the bounds: a modified rectangle and whether to trust it. -/
abbrev BoundsMapper (p : Payloads) : Type := SkRect p.Scalar → SkRect p.Scalar × Bool

namespace BoundsAccumulator

/-- A new accumulator. -/
def blank (prepareRtree : Bool) : BoundsAccumulator p :=
  if prepareRtree then rtree [] [] else rect (.blank kit) []

def accumulate (bounds : SkRect p.Scalar) (index : Int) :
    BoundsAccumulator p → BoundsAccumulator p
  | rect accumulated savedRects => rect (accumulated.accumulateRect bounds) savedRects
  | rtree rects savedOffsets =>
    if bounds.fLeft < bounds.fRight ∧ bounds.fTop < bounds.fBottom then
      rtree (rects ++ [(bounds, index)]) savedOffsets
    else rtree rects savedOffsets

def save : BoundsAccumulator p → BoundsAccumulator p
  | rect accumulated savedRects => rect (.blank kit) (accumulated :: savedRects)
  | rtree rects savedOffsets => rtree rects (rects.length :: savedOffsets)

/-- `restore()`. -/
def restore : BoundsAccumulator p → BoundsAccumulator p
  | rect accumulated [] => rect accumulated []
  | rect accumulated (outer :: savedRects) =>
    rect (outer.accumulateRect (accumulated.bounds kit)) savedRects
  | rtree rects [] => rtree rects []
  | rtree rects (_ :: savedOffsets) => rtree rects savedOffsets

/-- The mapped and clipped rectangles of `RTreeBoundsAccumulator::restore`. -/
def mapRects (mapper : BoundsMapper p) (clip : SkRect p.Scalar)
    (rects : List (SkRect p.Scalar × Int)) : List (SkRect p.Scalar × Int) :=
  rects.filterMap fun (bounds, index) =>
    (kit.intersect (mapper bounds).1 clip).map fun bounds => (bounds, index)

/-- `restore(map, clip)` and what it returns. -/
def restoreMapped (mapper : BoundsMapper p) (clip : SkRect p.Scalar) :
    BoundsAccumulator p → BoundsAccumulator p × Bool
  | rect accumulated [] => (rect accumulated [], true)
  | rect accumulated (outer :: savedRects) =>
    let (layerBounds, success) := mapper (accumulated.bounds kit)
    match kit.intersect layerBounds clip with
    | none => (rect outer savedRects, success)
    | some layerBounds => (rect (outer.accumulateRect layerBounds) savedRects, success)
  | rtree rects [] => (rtree rects [], true)
  | rtree rects (previousSize :: savedOffsets) =>
    let later := rects.drop previousSize
    (rtree (rects.take previousSize ++ mapRects kit mapper clip later) savedOffsets,
      later.all fun (bounds, _) => (mapper bounds).2)

/-- `rtree()`: none of a `RectBoundsAccumulator`. -/
def toRTree : BoundsAccumulator p → Option (DlRTree (SkRect p.Scalar))
  | rect _ _ => none
  | rtree rects _ =>
    DlRTree.ofRects kit.rects (rects.map Prod.fst)
      (some fun index => (rects.map Prod.snd).getD index 0) (fun id => decide (0 ≤ id)) (-1)

def bounds : BoundsAccumulator p → SkRect p.Scalar
  | rect accumulated _ => accumulated.bounds kit
  | rtree rects _ =>
    (rects.foldl (fun accumulated entry => accumulated.accumulateRect entry.1)
      (AccumulationRect.blank kit)).bounds kit

/-- `bounds()` of an R-tree. -/
def rootBounds (tree : DlRTree (SkRect p.Scalar)) : SkRect p.Scalar :=
  (tree.nodes.getLast?.map Node.bounds).getD kit.emptyRect

end BoundsAccumulator

end FlutterEngine.DisplayList
