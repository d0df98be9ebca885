import FlutterEngine.Std.Rearranging

/-!
# The overlay scene optimizer

`createOptimizedRendering` of `overlay_scene_optimizer.dart`. Coordinates are of any type with a
comparison. What `computePlatformViewBounds` makes of the parameters of a view and whether the view
is visible are given; a failed `!` or index is `none`.
-/

namespace FlutterEngine.CanvasKit

open FlutterEngine.Std

variable {Coordinate : Type} [LE Coordinate] [DecidableLE Coordinate]

structure Rect (Coordinate : Type) where
  left : Coordinate
  top : Coordinate
  right : Coordinate
  bottom : Coordinate

namespace Rect

variable (rect other : Rect Coordinate)

def isEmpty : Bool := rect.right ≤ rect.left || rect.bottom ≤ rect.top

def overlaps : Bool :=
  if rect.right ≤ other.left || other.right ≤ rect.left then false
  else if rect.bottom ≤ other.top || other.bottom ≤ rect.top then false
  else true

end Rect

structure CkPicture (Coordinate : Type) where
  cullRect : Rect Coordinate

/-- What a scene knows of its platform views. -/
structure PlatformViews (Coordinate : Type) where
  /-- `PlatformViewManager.instance.isVisible`. -/
  isVisible : Int → Bool
  /-- What `computePlatformViewBounds` makes of `paramsForViews`. -/
  bounds? : Int → Option (Rect Coordinate)

inductive RenderingEntity (Coordinate : Type) where
  | renderCanvas (pictures : List (CkPicture Coordinate))
  | platformView (viewId : Int)

abbrev Rendering (Coordinate : Type) : Type := List (RenderingEntity Coordinate)

/-- The rendering so far, and the pictures of the current canvas. -/
structure Optimizer (Coordinate : Type) where
  result : Rendering Coordinate := []
  currentRenderCanvas : List (CkPicture Coordinate) := []

namespace Optimizer

variable (optimizer : Optimizer Coordinate)

def addPicture (picture : CkPicture Coordinate) : Optimizer Coordinate :=
  if picture.cullRect.isEmpty then optimizer
  else { optimizer with currentRenderCanvas := optimizer.currentRenderCanvas ++ [picture] }

/-- A visible view that overlaps a picture of the current canvas has the canvas emitted. -/
def flushFor (views : PlatformViews Coordinate) (viewId : Int) : Option (Optimizer Coordinate) :=
  if views.isVisible viewId then do
    let platformViewBounds ← views.bounds? viewId
    if optimizer.currentRenderCanvas.any (·.cullRect.overlaps platformViewBounds) then
      return { result := optimizer.result ++ [.renderCanvas optimizer.currentRenderCanvas] }
    return optimizer
  else some optimizer

def addView (viewId : Int) : Optimizer Coordinate :=
  { optimizer with result := optimizer.result ++ [.platformView viewId] }

/-- The loop over the platform views from `i` on. -/
def addFrom (views : PlatformViews Coordinate) (pictures : List (CkPicture Coordinate)) (i : Nat) :
    List Int → Optimizer Coordinate → Option (Optimizer Coordinate)
  | [], optimizer => some optimizer
  | viewId :: platformViews, optimizer => do
      let flushed ← optimizer.flushFor views viewId
      let picture ← pictures[i + 1]?
      addFrom views pictures (i + 1) platformViews ((flushed.addView viewId).addPicture picture)

end Optimizer

def createOptimizedRendering (views : PlatformViews Coordinate)
    (pictures : List (CkPicture Coordinate)) (platformViews : List Int) :
    Option (Rendering Coordinate) := do
  let first ← pictures[0]?
  let start : Optimizer Coordinate := Optimizer.addPicture {} first
  let last ← Optimizer.addFrom views pictures 0 platformViews start
  if last.currentRenderCanvas.isEmpty then return last.result
  return last.result ++ [.renderCanvas last.currentRenderCanvas]

/-! ## What is painted -/

/-- A picture or a platform view of a scene. -/
inductive Item (Coordinate : Type) where
  | picture (picture : CkPicture Coordinate)
  | platformView (viewId : Int)

/-- The view is visible and the picture overlaps its bounds. -/
def PlatformViews.Covers (views : PlatformViews Coordinate) (viewId : Int)
    (picture : CkPicture Coordinate) : Prop :=
  views.isVisible viewId = true ∧
    ∃ bounds, views.bounds? viewId = some bounds ∧ picture.cullRect.overlaps bounds = true

/-- Whether two items have to be painted in their order: pictures, platform views, and a visible
view with a picture that overlaps its bounds. -/
def Item.Ordered (views : PlatformViews Coordinate) : Item Coordinate → Item Coordinate → Prop
  | .picture _, .picture _ => True
  | .platformView _, .platformView _ => True
  | .picture shown, .platformView viewId => views.Covers viewId shown
  | .platformView viewId, .picture shown => views.Covers viewId shown

/-- A picture with an empty cull rectangle is not painted. -/
def CkPicture.items (picture : CkPicture Coordinate) : List (Item Coordinate) :=
  if picture.cullRect.isEmpty then [] else [.picture picture]

/-- A picture comes before the first view, and one after each view. -/
def paintOrder (pictures : List (CkPicture Coordinate)) (platformViews : List Int) :
    List (Item Coordinate) :=
  (pictures.take 1).flatMap CkPicture.items ++
    (platformViews.zip (pictures.drop 1)).flatMap fun next =>
      .platformView next.1 :: next.2.items

def RenderingEntity.items : RenderingEntity Coordinate → List (Item Coordinate)
  | .renderCanvas pictures => pictures.map .picture
  | .platformView viewId => [.platformView viewId]

namespace Optimizer

variable {optimizer : Optimizer Coordinate} {order : List (Item Coordinate)}
  {views : PlatformViews Coordinate}

/-- What is painted when the current canvas is emitted next. -/
def painted (optimizer : Optimizer Coordinate) : List (Item Coordinate) :=
  optimizer.result.flatMap RenderingEntity.items ++ optimizer.currentRenderCanvas.map .picture

theorem rearranges_addPicture (rearranges : Rearranges (Item.Ordered views) order optimizer.painted)
    (picture : CkPicture Coordinate) :
    Rearranges (Item.Ordered views) (order ++ picture.items)
      (optimizer.addPicture picture).painted := by
  unfold addPicture CkPicture.items
  split
  · rwa [List.append_nil]
  · rw [← List.append_nil optimizer.painted] at rearranges
    have next : Rearranges (Item.Ordered views) (order ++ [.picture picture])
        (optimizer.painted ++ [.picture picture]) :=
      rearranges.insert fun _ mem => absurd mem List.not_mem_nil
    rw [painted, List.append_assoc] at next
    rwa [painted, List.map_append]

/-- After the flush no picture of the current canvas is ordered with the view. -/
theorem flushFor_free (optimizer : Optimizer Coordinate) {viewId : Int}
    (computed : (views.bounds? viewId).isSome = true) :
    ∃ flushed, optimizer.flushFor views viewId = some flushed ∧
      flushed.painted = optimizer.painted ∧
      ∀ picture ∈ flushed.currentRenderCanvas,
        ¬Item.Ordered views (.picture picture) (.platformView viewId) := by
  obtain ⟨bounds, known⟩ := Option.isSome_iff_exists.mp computed
  unfold flushFor
  split
  · rw [known, Option.bind_eq_bind, Option.bind_some]
    split
    · refine ⟨_, rfl, ?_, fun _ mem => absurd mem List.not_mem_nil⟩
      simp [painted, RenderingEntity.items]
    · next apart =>
      refine ⟨optimizer, rfl, rfl, fun picture mem ordered => apart ?_⟩
      obtain ⟨-, other, same, overlaps⟩ := ordered
      obtain rfl := Option.some.inj (known.symm.trans same)
      exact List.any_eq_true.mpr ⟨picture, mem, overlaps⟩
  · next hidden =>
    exact ⟨optimizer, rfl, rfl, fun _ _ ordered => hidden ordered.1⟩

theorem rearranges_addView (rearranges : Rearranges (Item.Ordered views) order optimizer.painted)
    {viewId : Int} (free : ∀ picture ∈ optimizer.currentRenderCanvas,
      ¬Item.Ordered views (.picture picture) (.platformView viewId)) :
    Rearranges (Item.Ordered views) (order ++ [.platformView viewId])
      (optimizer.addView viewId).painted := by
  rw [painted, addView, List.flatMap_append, List.append_assoc]
  refine rearranges.insert fun other later => ?_
  obtain ⟨picture, mem, rfl⟩ := List.mem_map.mp later
  exact free picture mem

/-- The loop from a view on. -/
theorem rearranges_addFrom {pictures : List (CkPicture Coordinate)} {i : Nat}
    {platformViews : List Int} (length : pictures.length = i + 1 + platformViews.length)
    (computed : ∀ viewId ∈ platformViews, (views.bounds? viewId).isSome = true)
    (rearranges : Rearranges (Item.Ordered views) order optimizer.painted) :
    ∃ last, addFrom views pictures i platformViews optimizer = some last ∧
      Rearranges (Item.Ordered views)
        (order ++ (platformViews.zip (pictures.drop (i + 1))).flatMap fun next =>
          .platformView next.1 :: next.2.items) last.painted := by
  induction platformViews generalizing i optimizer order with
  | nil => exact ⟨optimizer, rfl, by simpa using rearranges⟩
  | cons viewId platformViews ih =>
    obtain ⟨flushed, flush, same, free⟩ :=
      flushFor_free optimizer (computed viewId List.mem_cons_self)
    rw [← same] at rearranges
    have bound : i + 1 < pictures.length := by
      rw [length, List.length_cons]
      omega
    have next := rearranges_addPicture (rearranges_addView rearranges free) pictures[i + 1]
    have length' : pictures.length = i + 1 + 1 + platformViews.length := by
      rw [length, List.length_cons]
      omega
    obtain ⟨last, runs, final⟩ := ih length'
      (fun other mem => computed other (List.mem_cons_of_mem _ mem)) next
    refine ⟨last, ?_, ?_⟩
    · rw [addFrom, flush, List.getElem?_eq_getElem bound]
      exact runs
    · rw [List.drop_eq_getElem_cons bound, List.zip_cons_cons, List.flatMap_cons]
      simpa using final

end Optimizer

/-- Every platform view and every picture with a cull rectangle that is not empty is in the
rendering once, and items that are to be painted in their order are. -/
theorem createOptimizedRendering_rearranges (views : PlatformViews Coordinate)
    {pictures : List (CkPicture Coordinate)} {platformViews : List Int}
    (length : pictures.length = platformViews.length + 1)
    (computed : ∀ viewId ∈ platformViews, (views.bounds? viewId).isSome = true) :
    ∃ rendering, createOptimizedRendering views pictures platformViews = some rendering ∧
      Rearranges (Item.Ordered views) (paintOrder pictures platformViews)
        (rendering.flatMap RenderingEntity.items) := by
  obtain _ | ⟨first, rest⟩ := pictures
  · exact absurd length (by simp)
  have empty : Rearranges (Item.Ordered views) [] ({} : Optimizer Coordinate).painted :=
    Rearranges.nil
  have start := Optimizer.rearranges_addPicture empty first
  rw [List.nil_append] at start
  have length' : (first :: rest).length = 0 + 1 + platformViews.length := by
    rw [length]
    omega
  obtain ⟨last, runs, final⟩ := Optimizer.rearranges_addFrom length' computed start
  simp only [createOptimizedRendering, List.getElem?_cons_zero, Option.bind_eq_bind,
    Option.bind_some, runs]
  have order : first.items ++ (platformViews.zip ((first :: rest).drop (0 + 1))).flatMap
      (fun next => .platformView next.1 :: next.2.items) =
        paintOrder (first :: rest) platformViews := by
    simp [paintOrder]
  rw [order] at final
  split
  · next empty =>
    rw [Optimizer.painted, List.isEmpty_iff.mp empty, List.map_nil, List.append_nil] at final
    exact ⟨_, rfl, final⟩
  · refine ⟨_, rfl, ?_⟩
    rw [List.flatMap_append]
    simpa [Optimizer.painted, RenderingEntity.items] using final

/-- A view over the first of two pictures. -/
theorem createOptimizedRendering_rearranges_over :
    ∃ rendering, createOptimizedRendering
        ⟨fun _ => true, fun _ => some ⟨0, 0, 2, 2⟩⟩ [⟨⟨1, 1, 3, 3⟩⟩, ⟨⟨4, 4, 5, (5 : Int)⟩⟩] [7] =
          some rendering ∧
      Rearranges (Item.Ordered ⟨fun _ => true, fun _ => some ⟨0, 0, 2, 2⟩⟩)
        (paintOrder [⟨⟨1, 1, 3, 3⟩⟩, ⟨⟨4, 4, 5, 5⟩⟩] [7])
        (rendering.flatMap RenderingEntity.items) :=
  createOptimizedRendering_rearranges _ rfl fun _ _ => rfl

end FlutterEngine.CanvasKit
