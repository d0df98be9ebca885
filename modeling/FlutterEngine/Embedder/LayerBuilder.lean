import FlutterEngine.DisplayList.Geometry.RegionQueries
import FlutterEngine.DisplayList.Geometry.SetRects
import FlutterEngine.Std.Rearranging

/-!
# `LayerBuilder`

The layers of `embedder_external_view_embedder.cc`: platform views with Flutter contents above
them. Every platform view and every slice goes as far back as what it intersects allows.
-/

namespace FlutterEngine.Embedder

open FlutterEngine.Std FlutterEngine.DisplayList.Geometry

/-! ## Platform views and slices -/

/-- `SkRect` and `SkMatrix` of Skia. -/
structure SkFrames where
  Rect : Type
  Matrix : Type
  makeEmpty : Rect
  identity : Matrix
  mapRect : Matrix → Rect → Rect
  preConcat : Matrix → Matrix → Matrix
  /-- What `intersect` leaves in the first rectangle, where it returns true. -/
  intersect : Rect → Rect → Option Rect
  intersects : Rect → Rect → Bool
  roundOut : Rect → SkIRect

/-- A mutator, of a rounded rectangle and of a path only the bounds. -/
inductive Mutator (frames : SkFrames)
  | clipRect (rect : frames.Rect)
  | clipRRect (bounds : frames.Rect)
  | clipPath (bounds : frames.Rect)
  | transform (matrix : frames.Matrix)
  | opacity
  | backdropFilter

structure EmbeddedViewParams (frames : SkFrames) where
  finalBoundingRect : frames.Rect
  mutatorsStack : List (Mutator frames)

structure PlatformView (frames : SkFrames) where
  platformViewId : Int64
  params : EmbeddedViewParams frames
  /-- The frame after clipping, in screen coordinates. -/
  clippedFrame : frames.Rect

/-- A region of points of the frame. Slices have such regions: they are recorded under a cull rect
of the size of the frame. -/
structure FrameRegion where
  region : DlRegion
  exact : region.Exact
  inFrame : ∀ x y, LinesCover region.lines x y → 0 ≤ x ∧ 0 ≤ y

/-- The points of a region. -/
def FrameRegion.Covers (region : FrameRegion) (x y : Int32) : Prop :=
  LinesCover region.region.lines x y

/-- An external view: its platform view, if it has one, and the region of the slice that the engine
renders, if there is one. -/
structure EmbedderExternalView (frames : SkFrames) where
  platformView? : Option (Int64 × EmbeddedViewParams frames)
  contents? : Option FrameRegion

variable {frames : SkFrames}

/-- A frame clipped by a rectangle under a transform. -/
def clipFrame (transform : frames.Matrix) (clippedFrame rect : frames.Rect) : frames.Rect :=
  (frames.intersect clippedFrame (frames.mapRect transform rect)).getD frames.makeEmpty

/-- The loop over the mutators. -/
def clippedFrameOf (transform : frames.Matrix) (clippedFrame : frames.Rect) :
    List (Mutator frames) → frames.Rect
  | [] => clippedFrame
  | .clipRect rect :: rest | .clipRRect rect :: rest | .clipPath rect :: rest =>
    clippedFrameOf transform (clipFrame transform clippedFrame rect) rest
  | .transform matrix :: rest =>
    clippedFrameOf (frames.preConcat transform matrix) clippedFrame rest
  | .opacity :: rest | .backdropFilter :: rest => clippedFrameOf transform clippedFrame rest

def PlatformView.init (platformViewId : Int64) (params : EmbeddedViewParams frames) :
    PlatformView frames where
  platformViewId := platformViewId
  params := params
  clippedFrame := clippedFrameOf frames.identity params.finalBoundingRect params.mutatorsStack

/-! ## Regions of the frame -/

namespace FrameRegion

def init : FrameRegion where
  region := .init
  exact := .init
  inFrame _ _ covers := absurd covers linesCover_nil

variable {skia : SkIRects} {region other : FrameRegion} {rect : SkIRect}

/-- The region of a slice, which `DlRTree` makes of the rectangles that its display list draws
to. -/
def ofRects {unsorted rects : List SkIRect} {fuel : Nat} {region : DlRegion}
    (sorted : SortedFrom unsorted rects)
    (returns : DlRegion.setRects skia fuel unsorted rects = some region)
    (inFrame : ∀ rect ∈ unsorted, 0 ≤ rect.left ∧ 0 ≤ rect.top) : FrameRegion where
  region := region
  exact := (DlRegion.setRects_sets sorted returns).exact
  inFrame x y covers := by
    obtain ⟨rect, found, -, inside⟩ := ((DlRegion.setRects_sets sorted returns).cover x y).mp covers
    have start := inFrame rect found
    exact ⟨start.1.trans inside.1.1, start.2.trans inside.2.1⟩

/-- `DlRegion::MakeUnion`. -/
def makeUnion (skia : SkIRects) (region other : FrameRegion) : FrameRegion where
  region := DlRegion.makeUnion skia region.region other.region
  exact := (DlRegion.makeUnion_exact region.exact other.exact).1
  inFrame x y covers :=
    (((DlRegion.makeUnion_exact region.exact other.exact).2 x y).mp covers).elim
      (region.inFrame x y) (other.inFrame x y)

theorem covers_makeUnion {x y : Int32} :
    (makeUnion skia region other).Covers x y ↔ region.Covers x y ∨ other.Covers x y :=
  (DlRegion.makeUnion_exact region.exact other.exact).2 x y

/-- The bounds start in the frame. -/
theorem bounds_nonneg (region : FrameRegion) :
    0 ≤ region.region.bounds.left ∧ 0 ≤ region.region.bounds.top := by
  by_cases some : ∃ x y, LinesCover region.region.lines x y
  · have within : region.region.bounds.Within
        ⟨0, 0, region.region.bounds.right, region.region.bounds.bottom⟩ := by
      refine region.exact.bounds.least some fun x y covers => ?_
      have inside := region.exact.bounds.encloses x y covers
      have inFrame := region.inFrame x y covers
      exact ⟨⟨inFrame.1, inside.1.2⟩, inFrame.2, inside.2.2⟩
    exact ⟨within.1, within.2.1⟩
  · simp only [not_exists] at some
    rw [region.exact.bounds.none some]
    decide

/-- `intersects(const SkIRect&)`. -/
def intersectsRect (skia : SkIRects) (region : FrameRegion) (rect : SkIRect) : Bool :=
  region.region.intersectsRect skia rect

/-- `intersects(const DlRegion&)`. -/
def intersects (skia : SkIRects) (region other : FrameRegion) : Bool :=
  region.region.intersects skia other.region

theorem intersectsRect_iff :
    region.intersectsRect skia rect = true ↔ ∃ x y, region.Covers x y ∧ rect.Covers x y :=
  DlRegion.intersectsRect_iff region.exact
    (SkIRect.fitting_of_nonneg region.bounds_nonneg.1 region.bounds_nonneg.2)

theorem intersects_iff :
    region.intersects skia other = true ↔ ∃ x y, region.Covers x y ∧ other.Covers x y :=
  DlRegion.intersects_iff region.exact other.exact
    (SkIRect.fitting_of_nonneg region.bounds_nonneg.1 region.bounds_nonneg.2)

end FrameRegion

/-! ## Layers -/

/-- A layer, whose region is that of its Flutter contents. These are above its platform views. -/
structure Layer (frames : SkFrames) where
  platformViews : List (PlatformView frames)
  flutterContents : List FrameRegion
  flutterContentsRegion : FrameRegion
  covers : ∀ x y, flutterContentsRegion.Covers x y ↔
    ∃ contents ∈ flutterContents, contents.Covers x y

namespace Layer

def init : Layer frames where
  platformViews := []
  flutterContents := []
  flutterContentsRegion := .init
  covers x y := by simp [FrameRegion.init, FrameRegion.Covers, DlRegion.init]

variable (skia : SkIRects) (layer : Layer frames)

def intersectsPlatformView (rect : frames.Rect) : Bool :=
  layer.platformViews.any fun view => frames.intersects view.clippedFrame rect

/-- `IntersectsPlatformView` of a region. -/
def regionIntersectsPlatformView (region : FrameRegion) : Bool :=
  layer.platformViews.any fun view =>
    region.intersectsRect skia (frames.roundOut view.clippedFrame)

def intersectsFlutterContents (rect : frames.Rect) : Bool :=
  layer.flutterContentsRegion.intersectsRect skia (frames.roundOut rect)

/-- `IntersectsFlutterContents` of a region. -/
def regionIntersectsFlutterContents (region : FrameRegion) : Bool :=
  layer.flutterContentsRegion.intersects skia region

def addPlatformView (view : PlatformView frames) : Layer frames :=
  { layer with platformViews := layer.platformViews ++ [view] }

def addFlutterContents (contents : FrameRegion) : Layer frames where
  platformViews := layer.platformViews
  flutterContents := layer.flutterContents ++ [contents]
  flutterContentsRegion := .makeUnion skia layer.flutterContentsRegion contents
  covers x y := by
    rw [FrameRegion.covers_makeUnion, layer.covers]
    simp [or_and_right, exists_or]

def hasFlutterContents : Bool := !layer.flutterContents.isEmpty

end Layer

/-! ## The builder -/

/-- The layers from back to front, at least one. -/
structure LayerBuilder (frames : SkFrames) where
  layers : List (Layer frames)
  some : layers ≠ []

namespace LayerBuilder

def init : LayerBuilder frames := ⟨[.init], List.cons_ne_nil _ _⟩

/-- The loop of `GetLayerForPlatformView`: the position of the layer that takes the view, which is
the one after the layers if a layer is to be added. `behind` are the layers to look at, the
foremost first. -/
def layerForPlatformView (skia : SkIRects) (view : PlatformView frames) :
    List (Layer frames) → Nat
  | [] => 0
  | layer :: behind =>
    if layer.intersectsFlutterContents skia view.clippedFrame then behind.length + 1
    else if layer.intersectsPlatformView view.clippedFrame then behind.length
    else layerForPlatformView skia view behind

/-- The loop of `GetLayerForFlutterContentsRegion`. -/
def layerForFlutterContentsRegion (skia : SkIRects) (region : FrameRegion) :
    List (Layer frames) → Nat
  | [] => 0
  | layer :: behind =>
    if layer.regionIntersectsPlatformView skia region ||
      layer.regionIntersectsFlutterContents skia region then behind.length
    else layerForFlutterContentsRegion skia region behind

variable (skia : SkIRects) (builder : LayerBuilder frames)

def addPlatformView (view : PlatformView frames) : LayerBuilder frames :=
  let index := layerForPlatformView skia view builder.layers.reverse
  let layers :=
    if index = builder.layers.length then builder.layers ++ [.init] else builder.layers
  ⟨layers.modify index (·.addPlatformView view), by
    have some := builder.some
    simp only [layers, ne_eq, List.modify_eq_nil_iff]
    split <;> simp [some]⟩

def addFlutterContents (contents : FrameRegion) : LayerBuilder frames :=
  ⟨builder.layers.modify (layerForFlutterContentsRegion skia contents builder.layers.reverse)
      (·.addFlutterContents skia contents), by
    simp [builder.some]⟩

def addExternalView (view : EmbedderExternalView frames) : LayerBuilder frames :=
  let builder := view.platformView?.elim builder fun platformView =>
    builder.addPlatformView skia (.init platformView.1 platformView.2)
  view.contents?.elim builder fun contents => builder.addFlutterContents skia contents

/-- The builder after the external views of a composition order. -/
def build (views : List (EmbedderExternalView frames)) : LayerBuilder frames :=
  views.foldl (addExternalView skia) .init

end LayerBuilder

/-! ## What is presented -/

/-- What an external view adds to the frame. -/
inductive Item (frames : SkFrames)
  | platformView (view : PlatformView frames)
  | slice (contents : FrameRegion)

/-- The clipped frames or regions of two items, the first of which is composed first, intersect. -/
def Item.Intersects : Item frames → Item frames → Prop
  | .platformView view, .platformView other =>
    frames.intersects view.clippedFrame other.clippedFrame = true
  | .platformView view, .slice contents | .slice contents, .platformView view =>
    ∃ x y, contents.Covers x y ∧ (frames.roundOut view.clippedFrame).Covers x y
  | .slice contents, .slice other => ∃ x y, contents.Covers x y ∧ other.Covers x y

/-- A layer for the embedder. A backing store has slices rendered to it, one over the other, and
the region that they cover. -/
inductive EmbedderLayer (frames : SkFrames)
  | platformView (view : PlatformView frames)
  | backingStore (contents : List FrameRegion) (coverage : DlRegion)

/-- The items of an external view, in the order in which they are added. -/
def EmbedderExternalView.items (view : EmbedderExternalView frames) : List (Item frames) :=
  (view.platformView?.elim [] fun platformView =>
      [.platformView (.init platformView.1 platformView.2)]) ++
    view.contents?.elim [] fun contents => [.slice contents]

/-- What is seen of a layer, from back to front. -/
def EmbedderLayer.items : EmbedderLayer frames → List (Item frames)
  | .platformView view => [.platformView view]
  | .backingStore contents _ => contents.map .slice

namespace Layer

def pushLayer (layer : Layer frames) : List (EmbedderLayer frames) :=
  layer.platformViews.map .platformView ++
    if layer.hasFlutterContents then
      [.backingStore layer.flutterContents layer.flutterContentsRegion.region]
    else []

def items (layer : Layer frames) : List (Item frames) :=
  layer.platformViews.map .platformView ++ layer.flutterContents.map .slice

variable {skia : SkIRects} {layer : Layer frames} {region contents : FrameRegion}
  {view : PlatformView frames}

theorem items_pushLayer : layer.pushLayer.flatMap EmbedderLayer.items = layer.items := by
  unfold pushLayer items hasFlutterContents
  rw [List.flatMap_append, List.flatMap_map]
  congr 1
  · exact (List.map_eq_flatMap).symm
  · split
    · simp [EmbedderLayer.items]
    · next none =>
        rw [Bool.not_eq_true, Bool.not_eq_false', List.isEmpty_iff] at none
        simp [none]

theorem mem_items {item : Item frames} :
    item ∈ layer.items ↔ (∃ view ∈ layer.platformViews, .platformView view = item) ∨
      ∃ contents ∈ layer.flutterContents, .slice contents = item := by
  rw [items, List.mem_append, List.mem_map, List.mem_map]

theorem intersectsPlatformView_eq_false :
    layer.intersectsPlatformView view.clippedFrame = false ↔
      ∀ other ∈ layer.platformViews,
        ¬Item.Intersects (.platformView other) (.platformView view) := by
  simp [intersectsPlatformView, Item.Intersects]

theorem intersectsFlutterContents_eq_false :
    layer.intersectsFlutterContents skia view.clippedFrame = false ↔
      ∀ other ∈ layer.flutterContents, ¬Item.Intersects (.slice other) (.platformView view) := by
  rw [intersectsFlutterContents, Bool.eq_false_iff, Ne, FrameRegion.intersectsRect_iff]
  simp only [layer.covers, Item.Intersects]
  constructor
  · rintro never other found ⟨x, y, covers, inside⟩
    exact never ⟨x, y, ⟨other, found, covers⟩, inside⟩
  · rintro never ⟨x, y, ⟨other, found, covers⟩, inside⟩
    exact never other found ⟨x, y, covers, inside⟩

theorem regionIntersectsPlatformView_eq_false :
    layer.regionIntersectsPlatformView skia contents = false ↔
      ∀ other ∈ layer.platformViews, ¬Item.Intersects (.platformView other) (.slice contents) := by
  simp only [regionIntersectsPlatformView, List.any_eq_false, FrameRegion.intersectsRect_iff,
    Item.Intersects]

theorem regionIntersectsFlutterContents_eq_false :
    layer.regionIntersectsFlutterContents skia contents = false ↔
      ∀ other ∈ layer.flutterContents,
        ¬Item.Intersects (.slice other : Item frames) (.slice contents) := by
  rw [regionIntersectsFlutterContents, Bool.eq_false_iff, Ne, FrameRegion.intersects_iff]
  simp only [layer.covers, Item.Intersects]
  constructor
  · rintro never other found ⟨x, y, covers, inside⟩
    exact never ⟨x, y, ⟨other, found, covers⟩, inside⟩
  · rintro never ⟨x, y, ⟨other, found, covers⟩, inside⟩
    exact never other found ⟨x, y, covers, inside⟩

end Layer

namespace LayerBuilder

/-- `PushLayers`, where every layer with Flutter contents has a render target. -/
def pushLayers (builder : LayerBuilder frames) : List (EmbedderLayer frames) :=
  builder.layers.flatMap Layer.pushLayer

/-- The items in the order in which they are presented. -/
def presented (builder : LayerBuilder frames) : List (Item frames) :=
  builder.pushLayers.flatMap EmbedderLayer.items

variable {skia : SkIRects} {builder : LayerBuilder frames} {behind : List (Layer frames)}
  {view : PlatformView frames} {contents : FrameRegion}

theorem presented_eq : builder.presented = builder.layers.flatMap Layer.items := by
  rw [presented, pushLayers, List.flatMap_assoc]
  exact congrArg (List.flatMap · builder.layers) (funext fun _ => Layer.items_pushLayer)

/-- The layers from the one that takes a view on have no contents that intersect it, and those
after it no views either. -/
theorem layerForPlatformView_spec (skia : SkIRects) (view : PlatformView frames)
    (behind : List (Layer frames)) :
    ∃ back front, behind.reverse = back ++ front ∧
      layerForPlatformView skia view behind = back.length ∧
      (∀ layer ∈ front, layer.intersectsFlutterContents skia view.clippedFrame = false) ∧
      ∀ layer ∈ front.tail, layer.intersectsPlatformView view.clippedFrame = false := by
  fun_induction layerForPlatformView skia view behind with
  | case1 => exact ⟨[], [], rfl, rfl, by simp, by simp⟩
  | case2 layer behind meets =>
    exact ⟨(layer :: behind).reverse, [], by simp, by simp, by simp, by simp⟩
  | case3 layer behind apart meets =>
    exact ⟨behind.reverse, [layer], by simp, by simp, by simpa using apart, by simp⟩
  | case4 layer behind contentsApart viewsApart ih =>
    obtain ⟨back, front, split, index, contents, views⟩ := ih
    rw [Bool.not_eq_true] at contentsApart viewsApart
    refine ⟨back, front ++ [layer], by simp [split], index, fun other found => ?_,
      fun other found => ?_⟩
    · obtain found | found := List.mem_append.mp found
      · exact contents other found
      · rwa [List.mem_singleton.mp found]
    · cases front with
      | nil => simp at found
      | cons first front =>
        obtain found | found := List.mem_append.mp found
        · exact views other found
        · rwa [List.mem_singleton.mp found]

/-- The layers after the one that takes a slice have nothing that intersects it. Without layers
there is none that takes it. -/
theorem layerForFlutterContentsRegion_spec (skia : SkIRects) (contents : FrameRegion)
    {behind : List (Layer frames)} (some : behind ≠ []) :
    ∃ back layer front, behind.reverse = back ++ layer :: front ∧
      layerForFlutterContentsRegion skia contents behind = back.length ∧
      ∀ other ∈ front, other.regionIntersectsPlatformView skia contents = false ∧
        other.regionIntersectsFlutterContents skia contents = false := by
  fun_induction layerForFlutterContentsRegion skia contents behind with
  | case1 => contradiction
  | case2 layer behind meets =>
    exact ⟨behind.reverse, layer, [], by simp, by simp, by simp⟩
  | case3 layer behind apart ih =>
    rw [Bool.not_eq_true, Bool.or_eq_false_iff] at apart
    cases behind with
    | nil => exact ⟨[], layer, [], rfl, rfl, by simp⟩
    | cons next behind =>
      obtain ⟨back, taker, front, split, index, free⟩ := ih (List.cons_ne_nil _ _)
      refine ⟨back, taker, front ++ [layer], ?_, index, fun other found => ?_⟩
      · rw [List.reverse_cons, split, List.append_assoc, List.cons_append]
      · obtain found | found := List.mem_append.mp found
        · exact free other found
        · rwa [List.mem_singleton.mp found]

/-- An item comes before some of those presented so far, none of which intersects it. -/
def Inserts (item : Item frames) (builder next : LayerBuilder frames) : Prop :=
  ∃ before after, builder.presented = before ++ after ∧
    next.presented = before ++ item :: after ∧ ∀ other ∈ after, ¬other.Intersects item

variable {back front : List (Layer frames)} {order : List (Item frames)}

theorem modify_length {layer : Layer frames} (change : Layer frames → Layer frames) :
    (back ++ layer :: front).modify back.length change = back ++ change layer :: front := by
  induction back with
  | nil => rfl
  | cons first back ih => exact congrArg (first :: ·) ih

theorem layers_addPlatformView
    (index : layerForPlatformView skia view builder.layers.reverse = back.length)
    (split : builder.layers = back ++ front) :
    (builder.addPlatformView skia view).layers =
      back ++ (front.head?.getD .init).addPlatformView view :: front.tail := by
  change (if _ then _ else _ : List (Layer frames)).modify _ _ = _
  rw [index, split]
  cases front with
  | nil => rw [List.append_nil, if_pos rfl, modify_length]; rfl
  | cons layer front => rw [if_neg (by simp), modify_length]; rfl

theorem inserts_addPlatformView :
    Inserts (.platformView view) builder (builder.addPlatformView skia view) := by
  obtain ⟨back, front, split, index, contents, views⟩ :=
    layerForPlatformView_spec skia view builder.layers.reverse
  rw [List.reverse_reverse] at split
  unfold Inserts
  rw [presented_eq, presented_eq, layers_addPlatformView index split, split]
  cases front with
  | nil =>
    refine ⟨back.flatMap Layer.items, [], by simp, ?_, by simp⟩
    rw [List.flatMap_append]
    rfl
  | cons layer front =>
    -- The view comes after the views of its layer and before the contents.
    refine ⟨back.flatMap Layer.items ++ layer.platformViews.map .platformView,
      layer.flutterContents.map .slice ++ front.flatMap Layer.items, ?_, ?_,
      fun other found => ?_⟩
    · simp [Layer.items]
    · simp [Layer.items, Layer.addPlatformView]
    · obtain found | found := List.mem_append.mp found
      · obtain ⟨slice, sliceFound, rfl⟩ := List.mem_map.mp found
        exact Layer.intersectsFlutterContents_eq_false.mp (contents layer List.mem_cons_self)
          slice sliceFound
      · obtain ⟨above, layerFound, found⟩ := List.mem_flatMap.mp found
        have contentsApart := contents above (List.mem_cons_of_mem _ layerFound)
        obtain ⟨other, viewFound, rfl⟩ | ⟨slice, sliceFound, rfl⟩ := Layer.mem_items.mp found
        · exact Layer.intersectsPlatformView_eq_false.mp (views above layerFound) other viewFound
        · exact Layer.intersectsFlutterContents_eq_false.mp contentsApart slice sliceFound

theorem inserts_addFlutterContents :
    Inserts (.slice contents) builder (builder.addFlutterContents skia contents) := by
  obtain ⟨back, layer, front, split, index, free⟩ :=
    layerForFlutterContentsRegion_spec skia contents (List.reverse_ne_nil_iff.mpr builder.some)
  rw [List.reverse_reverse] at split
  unfold Inserts
  rw [presented_eq, presented_eq, addFlutterContents]
  -- The slice comes last in its layer.
  refine ⟨back.flatMap Layer.items ++ layer.items, front.flatMap Layer.items, ?_, ?_,
    fun other found => ?_⟩
  · simp [split]
  · simp only [index]
    rw [split, modify_length]
    simp [Layer.items, Layer.addFlutterContents]
  · obtain ⟨above, layerFound, found⟩ := List.mem_flatMap.mp found
    obtain ⟨viewsApart, contentsApart⟩ := free above layerFound
    obtain ⟨other, viewFound, rfl⟩ | ⟨slice, sliceFound, rfl⟩ := Layer.mem_items.mp found
    · exact Layer.regionIntersectsPlatformView_eq_false.mp viewsApart other viewFound
    · exact Layer.regionIntersectsFlutterContents_eq_false.mp contentsApart slice sliceFound

theorem Inserts.rearranges {item : Item frames} {next : LayerBuilder frames} (inserts : Inserts item builder next)
    (rearranges : Rearranges Item.Intersects order builder.presented) :
    Rearranges Item.Intersects (order ++ [item]) next.presented := by
  obtain ⟨before, after, split, nextSplit, free⟩ := inserts
  rw [split] at rearranges
  rw [nextSplit]
  exact rearranges.insert free

theorem addExternalView_rearranges (skia : SkIRects) (view : EmbedderExternalView frames)
    (rearranges : Rearranges Item.Intersects order builder.presented) :
    Rearranges Item.Intersects (order ++ view.items)
      (builder.addExternalView skia view).presented := by
  obtain ⟨platformView?, contents?⟩ := view
  unfold EmbedderExternalView.items addExternalView
  rw [← List.append_assoc]
  have placed : Rearranges Item.Intersects
      (order ++ platformView?.elim [] fun platformView =>
        [.platformView (.init platformView.1 platformView.2)])
      (platformView?.elim builder fun platformView =>
        builder.addPlatformView skia (.init platformView.1 platformView.2)).presented := by
    cases platformView? with
    | none => simpa using rearranges
    | some platformView => exact inserts_addPlatformView.rearranges rearranges
  cases contents? with
  | none => simpa using placed
  | some contents => exact inserts_addFlutterContents.rearranges placed

/-- The layers present every platform view and every slice of the composition order once, and what
intersects in the order in which it is composed. -/
theorem build_rearranges (skia : SkIRects) (views : List (EmbedderExternalView frames)) :
    Rearranges Item.Intersects (views.flatMap EmbedderExternalView.items)
      (build skia views).presented := by
  suffices ∀ (builder : LayerBuilder frames) (order : List (Item frames)),
      Rearranges Item.Intersects order builder.presented →
      Rearranges Item.Intersects (order ++ views.flatMap EmbedderExternalView.items)
        (views.foldl (addExternalView skia) builder).presented from
    this .init [] .nil
  induction views with
  | nil =>
    intro builder order rearranges
    simpa using rearranges
  | cons view views ih =>
    intro builder order rearranges
    have added := addExternalView_rearranges skia view rearranges
    have rest := ih _ _ added
    rwa [List.append_assoc] at rest

/-! ## The number of layers -/

/-- The layers with a platform view or a slice. -/
def usedLayers (builder : LayerBuilder frames) : Nat :=
  builder.layers.countP fun layer => !layer.items.isEmpty

end LayerBuilder

/-- Where a later item that an item intersects may be: a platform view is below the contents of
its own layer. -/
def Item.Allows : Item frames → Item frames → Nat → Nat → Prop
  | .slice _, .platformView _, place, later => place < later
  | _, _, place, later => place ≤ later

/-- The items of a composition order on that many layers, those that intersect in that order. -/
structure Assignment (order : List (Item frames)) (count : Nat) where
  placed : List (Item frames × Nat)
  all : placed.map Prod.fst = order
  within : ∀ entry ∈ placed, entry.2 < count
  keeps : placed.Pairwise fun earlier later =>
    earlier.1.Intersects later.1 → earlier.1.Allows later.1 earlier.2 later.2

namespace LayerBuilder

variable {skia : SkIRects} {builder next : LayerBuilder frames} {item : Item frames}
  {placed : List (Item frames × Nat)} {index place : Nat} {behind : List (Layer frames)}
  {view : PlatformView frames} {contents : FrameRegion}

/-- Without an item of the layers that does not allow it, nothing is placed further in front than
at the back. -/
def Holds (layers : List (Layer frames)) (item : Item frames) (index : Nat) : Prop :=
  index = 0 ∨ ∃ position, ∃ layer : Layer frames, ∃ other : Item frames,
    layers[position]? = .some layer ∧ other ∈ layer.items ∧ other.Intersects item ∧
      ∀ place later, position ≤ place → other.Allows item place later → index ≤ later

/-- The items of every layer have no lower place, and every layer but the first has one. -/
structure Lowest (placed : List (Item frames × Nat)) (builder : LayerBuilder frames) : Prop where
  lowest : ∀ position layer, builder.layers[position]? = .some layer → ∀ item ∈ layer.items,
    ∃ place, position ≤ place ∧ (item, place) ∈ placed
  used : ∀ position layer, builder.layers[position + 1]? = .some layer → ∃ item, item ∈ layer.items

theorem Lowest.modify {layers : List (Layer frames)} {change : Layer frames → Layer frames}
    (lowest : Lowest placed builder) (holds : Holds builder.layers item index)
    (grows : layers = builder.layers ∨
      layers = builder.layers ++ [.init] ∧ index = builder.layers.length)
    (adds : ∀ layer other, other ∈ (change layer).items ↔ other ∈ layer.items ∨ other = item)
    (modifies : next.layers = layers.modify index change)
    (keeps : ∀ entry ∈ placed, entry.1.Intersects item → entry.1.Allows item entry.2 place) :
    Lowest (placed ++ [(item, place)]) next := by
  have least : index ≤ place := by
    obtain rfl | ⟨position, layer, other, at_, found, meets, least⟩ := holds
    · exact Nat.zero_le place
    · obtain ⟨otherPlace, above, otherPlaced⟩ := lowest.lowest position layer at_ other found
      exact least otherPlace place above (keeps _ otherPlaced meets)
  have cases : ∀ position layer, next.layers[position]? = .some layer →
      ∃ old, (builder.layers[position]? = .some old ∨ old = .init ∧ position = index) ∧
        layer = if index = position then change old else old := by
    intro position layer found
    rw [modifies, List.getElem?_modify] at found
    obtain ⟨old, oldAt, rfl⟩ := Option.map_eq_some_iff.mp found
    refine ⟨old, ?_, by split <;> rfl⟩
    obtain rfl | ⟨rfl, rfl⟩ := grows
    · exact .inl oldAt
    · rw [List.getElem?_append] at oldAt
      split at oldAt
      · exact .inl oldAt
      · obtain ⟨small, rfl⟩ := List.getElem?_eq_some_iff.mp oldAt
        rw [List.length_singleton] at small
        exact .inr ⟨by simp, by omega⟩
  constructor
  · intro position layer found other member
    obtain ⟨old, was, rfl⟩ := cases position layer found
    have kept (member : other ∈ old.items) :
        ∃ place', position ≤ place' ∧ (other, place') ∈ placed ++ [(item, place)] := by
      obtain oldAt | ⟨rfl, -⟩ := was
      · obtain ⟨otherPlace, above, otherPlaced⟩ := lowest.lowest position old oldAt other member
        exact ⟨otherPlace, above, List.mem_append_left _ otherPlaced⟩
      · simp [Layer.items, Layer.init] at member
    split at member
    · next same =>
        obtain member | rfl := (adds old other).mp member
        · exact kept member
        · exact ⟨place, same ▸ least, List.mem_append_right _ (List.mem_singleton_self _)⟩
    · exact kept member
  · intro position layer found
    obtain ⟨old, was, rfl⟩ := cases _ layer found
    split
    · exact ⟨item, (adds old item).mpr (.inr rfl)⟩
    · next other =>
        obtain oldAt | ⟨-, same⟩ := was
        · exact lowest.used position old oldAt
        · exact absurd same.symm other

theorem exists_of_eq_true {α : Type} {meets : Bool} {others : List α} {Meets : α → Prop}
    (apart : meets = false ↔ ∀ other ∈ others, ¬Meets other) (true : meets = true) :
    ∃ other ∈ others, Meets other := by
  by_contra none
  refine Bool.eq_false_iff.mp (apart.mpr fun other found intersects => ?_) true
  exact none ⟨other, found, intersects⟩

theorem Holds.cons {layer : Layer frames} (holds : Holds behind.reverse item index) :
    Holds (layer :: behind).reverse item index := by
  obtain first | ⟨position, taker, other, found, rest⟩ := holds
  · exact .inl first
  · rw [List.reverse_cons]
    exact .inr ⟨position, taker, other,
      (List.getElem?_append_left (List.getElem?_eq_some_iff.mp found).1).trans found, rest⟩

theorem getElem?_reverse_cons (layer : Layer frames) (behind : List (Layer frames)) :
    (layer :: behind).reverse[behind.length]? = .some layer := by
  simp

theorem holds_layerForPlatformView (skia : SkIRects) (view : PlatformView frames)
    (behind : List (Layer frames)) :
    Holds behind.reverse (.platformView view) (layerForPlatformView skia view behind) := by
  fun_induction layerForPlatformView skia view behind with
  | case1 => exact .inl rfl
  | case2 layer behind meets =>
    obtain ⟨other, found, intersects⟩ :=
      exists_of_eq_true Layer.intersectsFlutterContents_eq_false meets
    exact .inr ⟨_, layer, .slice other, getElem?_reverse_cons layer behind,
      Layer.mem_items.mpr (.inr ⟨other, found, rfl⟩), intersects,
      fun _ _ above behind => Nat.lt_of_le_of_lt above behind⟩
  | case3 layer behind _ meets =>
    obtain ⟨other, found, intersects⟩ :=
      exists_of_eq_true Layer.intersectsPlatformView_eq_false meets
    exact .inr ⟨_, layer, .platformView other, getElem?_reverse_cons layer behind,
      Layer.mem_items.mpr (.inl ⟨other, found, rfl⟩), intersects, fun _ _ => Nat.le_trans⟩
  | case4 layer behind _ _ ih => exact ih.cons

theorem holds_layerForFlutterContentsRegion (skia : SkIRects) (contents : FrameRegion)
    (behind : List (Layer frames)) :
    Holds behind.reverse (.slice contents)
      (layerForFlutterContentsRegion skia contents behind) := by
  fun_induction layerForFlutterContentsRegion skia contents behind with
  | case1 => exact .inl rfl
  | case2 layer behind meets =>
    obtain meets | meets := Bool.or_eq_true_iff.mp meets
    · obtain ⟨other, found, intersects⟩ :=
        exists_of_eq_true Layer.regionIntersectsPlatformView_eq_false meets
      exact .inr ⟨_, layer, .platformView other, getElem?_reverse_cons layer behind,
        Layer.mem_items.mpr (.inl ⟨other, found, rfl⟩), intersects, fun _ _ => Nat.le_trans⟩
    · obtain ⟨other, found, intersects⟩ :=
        exists_of_eq_true Layer.regionIntersectsFlutterContents_eq_false meets
      exact .inr ⟨_, layer, .slice other, getElem?_reverse_cons layer behind,
        Layer.mem_items.mpr (.inr ⟨other, found, rfl⟩), intersects, fun _ _ => Nat.le_trans⟩
  | case3 layer behind _ ih => exact ih.cons

/-- Add what an external view has of one kind. -/
def add (skia : SkIRects) (builder : LayerBuilder frames) : Item frames → LayerBuilder frames
  | .platformView view => builder.addPlatformView skia view
  | .slice contents => builder.addFlutterContents skia contents

theorem build_eq (views : List (EmbedderExternalView frames)) :
    build skia views = (views.flatMap EmbedderExternalView.items).foldl (add skia) .init := by
  rw [List.foldl_flatMap, build]
  congr 1
  funext builder view
  obtain ⟨_ | _, _ | _⟩ := view <;> rfl

theorem Lowest.add (skia : SkIRects) (lowest : Lowest placed builder)
    (keeps : ∀ entry ∈ placed, entry.1.Intersects item → entry.1.Allows item entry.2 place) :
    Lowest (placed ++ [(item, place)]) (builder.add skia item) := by
  have reversed := builder.layers.reverse_reverse
  cases item with
  | platformView view =>
    have holds := holds_layerForPlatformView skia view builder.layers.reverse
    rw [reversed] at holds
    refine lowest.modify holds ?_ (fun layer other => ?_) rfl keeps
    · split
      · next last => exact .inr ⟨rfl, last⟩
      · exact .inl rfl
    · simp only [Layer.mem_items, Layer.addPlatformView, List.mem_append, List.mem_singleton]
      grind
  | slice contents =>
    have holds := holds_layerForFlutterContentsRegion skia contents builder.layers.reverse
    rw [reversed] at holds
    refine lowest.modify holds (.inl rfl) (fun layer other => ?_) rfl keeps
    simp [Layer.items, Layer.addFlutterContents, or_assoc]

theorem Lowest.foldl (skia : SkIRects) {rest : List (Item frames × Nat)}
    (lowest : Lowest placed builder) (keeps : (placed ++ rest).Pairwise fun earlier later =>
      earlier.1.Intersects later.1 → earlier.1.Allows later.1 earlier.2 later.2) :
    Lowest (placed ++ rest) ((rest.map Prod.fst).foldl (LayerBuilder.add skia) builder) := by
  induction rest generalizing placed builder with
  | nil => rwa [List.append_nil]
  | cons entry rest ih =>
    have added := lowest.add skia fun earlier found =>
      (List.pairwise_append.mp keeps).2.2 earlier found entry (.head _)
    rw [List.append_cons] at keeps ⊢
    exact ih added keeps

theorem countP_le {layers : List (Layer frames)} {passes : Layer frames → Bool} {count : Nat}
    (small : ∀ position layer, layers[position]? = .some layer → passes layer = true →
      position < count) : layers.countP passes ≤ count := by
  have beyond : (layers.drop count).countP passes = 0 := by
    refine List.countP_eq_zero.mpr fun layer found passed => ?_
    obtain ⟨position, found⟩ := List.mem_iff_getElem?.mp found
    rw [List.getElem?_drop] at found
    exact Nat.not_lt.mpr (Nat.le_add_right _ _) (small _ layer found passed)
  rw [← List.take_append_drop count layers, List.countP_append, beyond]
  exact List.countP_le_length.trans (List.length_take_le _ _)

/-- No assignment of the same items uses fewer layers. The layer that a builder starts with stays
unused only without items. -/
theorem build_minimal (skia : SkIRects) (views : List (EmbedderExternalView frames)) {count : Nat}
    (assignment : Assignment (views.flatMap EmbedderExternalView.items) count) :
    (build skia views).usedLayers ≤ count ∧
      (views.flatMap EmbedderExternalView.items ≠ [] →
        (build skia views).layers.length ≤ count) := by
  obtain ⟨placed, all, within, keeps⟩ := assignment
  have created : Lowest [] (.init : LayerBuilder frames) := by
    constructor
    · intro position layer found item member
      rw [List.mem_singleton.mp (List.mem_of_getElem? found)] at member
      simp [Layer.items, Layer.init] at member
    · intro position layer found
      simp [init] at found
  have built := created.foldl skia keeps
  rw [List.nil_append, all, ← build_eq] at built
  have small : ∀ position layer, (build skia views).layers[position]? = .some layer →
      (∃ item, item ∈ layer.items) → position < count := by
    rintro position layer found ⟨item, member⟩
    obtain ⟨place, above, isPlaced⟩ := built.lowest position layer found item member
    exact above.trans_lt (within _ isPlaced)
  constructor
  · refine countP_le fun position layer found used => small position layer found ?_
    exact List.exists_mem_of_ne_nil _ (by simpa using used)
  · intro some
    rw [← all, Ne, List.map_eq_nil_iff] at some
    obtain ⟨entry, isPlaced⟩ := List.exists_mem_of_ne_nil _ some
    cases number : (build skia views).layers.length with
    | zero => exact Nat.zero_le count
    | succ last =>
      cases last with
      | zero => exact Nat.zero_lt_of_lt (within entry isPlaced)
      | succ last =>
        have found := List.getElem?_eq_getElem (number ▸ Nat.lt_succ_self (last + 1) :
          last + 1 < (build skia views).layers.length)
        exact small _ _ found (built.used last _ found)

end LayerBuilder

end FlutterEngine.Embedder
