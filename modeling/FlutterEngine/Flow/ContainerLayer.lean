import Mathlib.Data.List.Induction
import Mathlib.Order.Bounds.Basic
import FlutterEngine.Flow.LayerStateStack

/-!
# Prerolling the children of a layer

`ContainerLayer::PrerollChildren` of `container_layer.cc` runs `Preroll` on each child and folds
what the children report into the container: their bounds are joined, the two flags about platform
views and textures are or-ed, and the rendering attributes that all children can apply themselves
are meant to be the intersection of theirs. The accumulator of that intersection is a `bool`.
-/

namespace FlutterEngine.DisplayList.SkRects

variable {Rect : Type} (skia : SkRects Rect)

/-! ## The join of a list -/

/-- The rectangles of a list that are not empty. -/
def filled (rects : List Rect) : Set Rect := {rect | rect ∈ rects ∧ skia.isEmpty rect = false}

/-- The join of a list of rectangles, by what it is: empty when they all are, and otherwise with
the outermost edges of those that are not. -/
structure JoinOf (rects : List Rect) (bounds : Rect) : Prop where
  isEmpty : skia.isEmpty bounds = true ↔ ∀ rect ∈ rects, skia.isEmpty rect = true
  left : skia.isEmpty bounds = false → IsLeast (skia.left '' skia.filled rects) (skia.left bounds)
  top : skia.isEmpty bounds = false → IsLeast (skia.top '' skia.filled rects) (skia.top bounds)
  right : skia.isEmpty bounds = false →
    IsGreatest (skia.right '' skia.filled rects) (skia.right bounds)
  bottom : skia.isEmpty bounds = false →
    IsGreatest (skia.bottom '' skia.filled rects) (skia.bottom bounds)

/-- `SkRect::join` one after the other, from an empty rectangle. -/
def joined (rects : List Rect) : Rect := rects.foldl skia.join skia.empty

variable {skia}
variable {rect : Rect} {rects : List Rect}

theorem filled_concat_of_isEmpty (empty : skia.isEmpty rect = true)
    (rects : List Rect) : skia.filled (rects ++ [rect]) = skia.filled rects := by
  ext other
  simp only [filled, Set.mem_ofPred_eq, List.mem_append, List.mem_singleton]
  constructor
  · rintro ⟨inside | rfl, other⟩
    · exact ⟨inside, other⟩
    · simp [empty] at other
  · exact fun inside => ⟨.inl inside.1, inside.2⟩

theorem filled_concat (fills : skia.isEmpty rect = false) (rects : List Rect) :
    skia.filled (rects ++ [rect]) = insert rect (skia.filled rects) := by
  ext other
  simp only [filled, Set.mem_ofPred_eq, List.mem_append, List.mem_singleton, Set.mem_insert_iff]
  constructor
  · rintro ⟨inside | rfl, other⟩
    · exact .inr ⟨inside, other⟩
    · exact .inl rfl
  · rintro (rfl | inside)
    · exact ⟨.inr rfl, fills⟩
    · exact ⟨.inl inside.1, inside.2⟩

theorem filled_eq_empty (empty : ∀ rect ∈ rects, skia.isEmpty rect = true) :
    skia.filled rects = ∅ := by
  ext rect
  simp only [filled, Set.mem_ofPred_eq, Set.mem_empty_iff_false, iff_false, not_and]
  exact fun inside => (empty rect inside).symm ▸ Bool.noConfusion

/-- One more rectangle. -/
theorem JoinOf.concat (skips : ∀ first second, skia.isEmpty second = true →
      skia.join first second = first) {bounds : Rect}
    (joins : skia.JoinOf rects bounds) (rect : Rect) :
    skia.JoinOf (rects ++ [rect]) (skia.join bounds rect) := by
  have all_concat : (∀ other ∈ rects ++ [rect], skia.isEmpty other = true) ↔
      (∀ other ∈ rects, skia.isEmpty other = true) ∧ skia.isEmpty rect = true := by
    simp only [List.forall_mem_append, List.forall_mem_singleton]
  cases rectEmpty : skia.isEmpty rect with
  | true =>
    rw [skips bounds rect rectEmpty]
    constructor
    · rw [all_concat, rectEmpty, joins.isEmpty]
      exact (and_iff_left rfl).symm
    all_goals rw [filled_concat_of_isEmpty rectEmpty]
    · exact joins.left
    · exact joins.top
    · exact joins.right
    · exact joins.bottom
  | false =>
    cases boundsEmpty : skia.isEmpty bounds with
    | true =>
      have alone := filled_eq_empty (joins.isEmpty.mp boundsEmpty)
      rw [skia.join_empty bounds rect boundsEmpty rectEmpty]
      constructor
      · rw [all_concat, rectEmpty]
        simp
      all_goals
        intro _
        rw [filled_concat rectEmpty, alone, insert_empty_eq, Set.image_singleton]
      · exact isLeast_singleton
      · exact isLeast_singleton
      · exact isGreatest_singleton
      · exact isGreatest_singleton
    | false =>
      obtain ⟨fills, left, top, right, bottom⟩ :=
        skia.join_edges bounds rect boundsEmpty rectEmpty
      constructor
      · rw [all_concat, rectEmpty, fills]
        simp
      all_goals
        intro _
        rw [filled_concat rectEmpty, Set.image_insert_eq]
      · rw [left, min_comm]
        exact (joins.left boundsEmpty).insert _
      · rw [top, min_comm]
        exact (joins.top boundsEmpty).insert _
      · rw [right, max_comm]
        exact (joins.right boundsEmpty).insert _
      · rw [bottom, max_comm]
        exact (joins.bottom boundsEmpty).insert _

/-- Joining one after the other gives the join of the list. -/
theorem joinOf_joined (skips : ∀ first second, skia.isEmpty second = true →
      skia.join first second = first) (rects : List Rect) :
    skia.JoinOf rects (skia.joined rects) := by
  induction rects using List.reverseRecOn with
  | nil =>
    have nothing : skia.isEmpty (skia.joined []) = true := skia.isEmpty_empty
    constructor
    · simp [nothing]
    all_goals
      intro filled
      simp [nothing] at filled
  | append_singleton rects rect joins =>
    rw [joined, List.foldl_append]
    exact joins.concat skips rect

/-! ## Rectangles that meet those before them -/

/-- Some rectangle that is not empty intersects the join of those before it. -/
def Overlapping (skia : SkRects Rect) (rects : List Rect) : Prop :=
  ∃ before rect after, rects = before ++ rect :: after ∧ skia.isEmpty rect = false ∧
    skia.isEmpty (skia.joined before) = false ∧
    skia.intersects (skia.joined before) rect = true

end FlutterEngine.DisplayList.SkRects

namespace FlutterEngine.Flow

open DisplayList

/-! ## The container -/

/-- The fields of `PrerollContext` that a container reads and resets; `rest` stands for the others,
which only the children use. -/
structure PrerollContext (Rest : Type) where
  hasPlatformView : Bool
  hasTextureLayer : Bool
  renderableStateFlags : BitVec 32
  rest : Rest

variable {Rest Rect : Type}

/-- A layer as its container sees it: `Preroll` changes the context and sets the paint bounds. -/
structure Layer (Rest Rect : Type) where
  preroll : PrerollContext Rest → PrerollContext Rest × Rect

structure ContainerLayer (Rest Rect : Type) where
  layers : List (Layer Rest Rect)
  paintBounds : Rect
  childPaintBounds : Rect
  childrenRenderableStateFlags : BitVec 32
  subtreeHasPlatformView : Bool

/-- `kCallerCanApplyAnything`. -/
def kCallerCanApplyAnything : BitVec 32 :=
  LayerStateStack.kCallerCanApplyOpacity ||| LayerStateStack.kCallerCanApplyColorFilter |||
    LayerStateStack.kCallerCanApplyImageFilter

/-- An `int` stored in a `bool`. -/
def toBool (value : BitVec 32) : Bool := value != 0

/-- A `bool` read as an `int`. -/
def ofBool (value : Bool) : BitVec 32 := if value then 1 else 0

/-- The locals of `PrerollChildren`, with the context and the bounds it is given. -/
structure ChildPreroll (Rest Rect : Type) where
  context : PrerollContext Rest
  childPaintBounds : Rect
  childHasPlatformView : Bool
  childHasTextureLayer : Bool
  allRenderableStateFlags : Bool

/-- `safe_intersection_test`. -/
def safeIntersectionTest (skia : SkRects Rect) (rect1 rect2 : Rect) : Bool :=
  if skia.isEmpty rect1 || skia.isEmpty rect2 then false else skia.intersects rect1 rect2

/-- One round of the loop. -/
def prerollChild (skia : SkRects Rect) (state : ChildPreroll Rest Rect) (layer : Layer Rest Rect) :
    ChildPreroll Rest Rect :=
  let (context, paintBounds) := layer.preroll { state.context with
    hasPlatformView := false, hasTextureLayer := false, renderableStateFlags := 0 }
  -- `bool &= int`: the bool is promoted, and what comes out is stored as a bool again.
  let allRenderableStateFlags :=
    toBool (ofBool state.allRenderableStateFlags &&& context.renderableStateFlags)
  { context
    childPaintBounds := skia.join state.childPaintBounds paintBounds
    childHasPlatformView := state.childHasPlatformView || context.hasPlatformView
    childHasTextureLayer := state.childHasTextureLayer || context.hasTextureLayer
    allRenderableStateFlags :=
      if safeIntersectionTest skia state.childPaintBounds paintBounds then toBool 0
      else allRenderableStateFlags }

namespace ContainerLayer

/-- `PrerollChildren`: the context, the bounds it was handed, and the container. -/
def prerollChildren (skia : SkRects Rect) (container : ContainerLayer Rest Rect)
    (context : PrerollContext Rest) (childPaintBounds : Rect) :
    PrerollContext Rest × Rect × ContainerLayer Rest Rect :=
  let state := container.layers.foldl (prerollChild skia) {
    context, childPaintBounds
    childHasPlatformView := false
    childHasTextureLayer := false
    allRenderableStateFlags := toBool kCallerCanApplyAnything }
  ({ state.context with
      hasPlatformView := state.childHasPlatformView
      hasTextureLayer := state.childHasTextureLayer
      renderableStateFlags := ofBool state.allRenderableStateFlags },
    state.childPaintBounds,
    { container with
      subtreeHasPlatformView := state.childHasPlatformView
      childrenRenderableStateFlags := ofBool state.allRenderableStateFlags
      childPaintBounds := state.childPaintBounds })

/-- `ContainerLayer::Preroll`. -/
def preroll (skia : SkRects Rect) (container : ContainerLayer Rest Rect)
    (context : PrerollContext Rest) : PrerollContext Rest × ContainerLayer Rest Rect :=
  let (context, childPaintBounds, container) :=
    container.prerollChildren skia context skia.empty
  (context, { container with paintBounds := childPaintBounds })

end ContainerLayer

/-! ## What the children report -/

/-- What a child leaves in the context, and its paint bounds. -/
structure Report (Rect : Type) where
  hasPlatformView : Bool
  hasTextureLayer : Bool
  renderableStateFlags : BitVec 32
  paintBounds : Rect

/-- The reports of children prerolled one after the other, each from a context with the three
fields reset. -/
def reports (context : PrerollContext Rest) : List (Layer Rest Rect) → List (Report Rect)
  | [] => []
  | layer :: layers =>
    let (context, paintBounds) := layer.preroll { context with
      hasPlatformView := false, hasTextureLayer := false, renderableStateFlags := 0 }
    { context with paintBounds } :: reports context layers

/-- The bitwise intersection of flags; of none it is every bit. -/
def intersection (flags : List (BitVec 32)) : BitVec 32 := flags.foldr (· &&& ·) (.allOnes 32)

/-- What a container should keep of its children's reports. -/
structure Collects (skia : SkRects Rect) (children : List (Report Rect))
    (context : PrerollContext Rest) (container : ContainerLayer Rest Rect) : Prop where
  flags : ¬ skia.Overlapping (children.map (·.paintBounds)) →
    container.childrenRenderableStateFlags = intersection (children.map (·.renderableStateFlags))
  noFlags : skia.Overlapping (children.map (·.paintBounds)) →
    container.childrenRenderableStateFlags = 0
  childPaintBounds : skia.JoinOf (children.map (·.paintBounds)) container.childPaintBounds
  hasPlatformView : context.hasPlatformView = children.any (·.hasPlatformView)
  hasTextureLayer : context.hasTextureLayer = children.any (·.hasTextureLayer)

theorem getLsbD_intersection (flags : List (BitVec 32)) {i : Nat} (inside : i < 32) :
    (intersection flags).getLsbD i = true ↔ ∀ word ∈ flags, word.getLsbD i = true := by
  induction flags with
  | nil =>
    change (BitVec.allOnes 32).getLsbD i = true ↔ _
    rw [BitVec.getLsbD_allOnes]
    simp [inside]
  | cons word flags ih =>
    rw [intersection, List.foldr_cons, BitVec.getLsbD_and, Bool.and_eq_true,
      List.forall_mem_cons]
    exact and_congr_right fun _ => ih

/-- The accumulator keeps the lowest bit of what it is and-ed with. -/
theorem toBool_and (value : Bool) (flags : BitVec 32) :
    toBool (ofBool value &&& flags) = (value && flags.getLsbD 0) := by
  cases value with
  | false => simp [toBool, ofBool]
  | true =>
    have lowest : (1 &&& flags).toNat = flags.toNat % 2 := by
      rw [BitVec.toNat_and, Nat.and_comm]
      exact Nat.and_one_is_mod _
    rw [toBool, ofBool, if_pos rfl, Bool.true_and, BitVec.getLsbD, Nat.testBit_zero,
      Bool.eq_iff_iff, bne_iff_ne, ne_eq, ← BitVec.toNat_inj, lowest, decide_eq_true_eq]
    exact Nat.mod_two_ne_zero

/-- Some rectangle meets what was joined before it, starting from `bounds`. -/
def MeetsEarlier (skia : SkRects Rect) (bounds : Rect) : List Rect → Prop
  | [] => False
  | rect :: rects =>
    safeIntersectionTest skia bounds rect = true ∨ MeetsEarlier skia (skia.join bounds rect) rects

theorem safeIntersectionTest_iff {skia : SkRects Rect} {rect1 rect2 : Rect} :
    safeIntersectionTest skia rect1 rect2 = true ↔
      skia.isEmpty rect2 = false ∧ skia.isEmpty rect1 = false ∧
        skia.intersects rect1 rect2 = true := by
  unfold safeIntersectionTest
  cases skia.isEmpty rect1 <;> cases skia.isEmpty rect2 <;> simp

variable {rects : List Rect} {value : Bool}

theorem meetsEarlier_iff {skia : SkRects Rect} {bounds : Rect} :
    MeetsEarlier skia bounds rects ↔ ∃ before rect after, rects = before ++ rect :: after ∧
      safeIntersectionTest skia (before.foldl skia.join bounds) rect = true := by
  induction rects generalizing bounds with
  | nil => simp [MeetsEarlier]
  | cons rect rects ih =>
    rw [MeetsEarlier, ih]
    constructor
    · rintro (meets | ⟨before, other, after, rfl, meets⟩)
      · exact ⟨[], rect, rects, rfl, meets⟩
      · exact ⟨rect :: before, other, after, rfl, meets⟩
    · rintro ⟨before, other, after, split, meets⟩
      cases before with
      | nil =>
        obtain ⟨rfl, rfl⟩ := List.cons.inj split
        exact .inl meets
      | cons head before =>
        obtain ⟨rfl, rfl⟩ := List.cons.inj split
        exact .inr ⟨before, other, after, rfl, meets⟩

theorem overlapping_iff {skia : SkRects Rect} :
    skia.Overlapping rects ↔ MeetsEarlier skia skia.empty rects := by
  simp only [meetsEarlier_iff, safeIntersectionTest_iff, SkRects.Overlapping, SkRects.joined]

/-- The loop, from any locals. -/
theorem foldl_prerollChild (skia : SkRects Rect) (layers : List (Layer Rest Rect))
    (state : ChildPreroll Rest Rect) :
    let children := reports state.context layers
    let after := layers.foldl (prerollChild skia) state
    after.childPaintBounds = (children.map (·.paintBounds)).foldl skia.join state.childPaintBounds ∧
      after.childHasPlatformView =
        (state.childHasPlatformView || children.any (·.hasPlatformView)) ∧
      after.childHasTextureLayer =
        (state.childHasTextureLayer || children.any (·.hasTextureLayer)) ∧
      (after.allRenderableStateFlags = true ↔ state.allRenderableStateFlags = true ∧
        (∀ child ∈ children, child.renderableStateFlags.getLsbD 0 = true) ∧
        ¬ MeetsEarlier skia state.childPaintBounds (children.map (·.paintBounds))) := by
  induction layers generalizing state with
  | nil => simp [reports, MeetsEarlier]
  | cons layer layers ih =>
    obtain ⟨bounds, platformView, textureLayer, flags⟩ := ih (prerollChild skia state layer)
    refine ⟨bounds, ?_, ?_, ?_⟩
    · rw [List.foldl_cons, platformView]
      simp [reports, prerollChild, Bool.or_assoc]
    · rw [List.foldl_cons, textureLayer]
      simp [reports, prerollChild, Bool.or_assoc]
    · rw [List.foldl_cons, flags]
      simp only [reports, prerollChild, List.map_cons, MeetsEarlier, List.forall_mem_cons,
        toBool_and]
      cases safeIntersectionTest skia state.childPaintBounds (layer.preroll { state.context with
        hasPlatformView := false, hasTextureLayer := false, renderableStateFlags := 0 }).2 with
      | true => simp [toBool]
      | false => simp [and_assoc]

theorem ofBool_eq_zero : ofBool value = 0 ↔ value = false := by
  cases value <;> simp [ofBool]

/-- Only a lowest bit fits in a `bool`. -/
theorem ofBool_eq_intersection {flags : List (BitVec 32)}
    (lowest : value = true ↔ ∀ word ∈ flags, word.getLsbD 0 = true) :
    ofBool value = intersection flags ↔
      ∀ i, 0 < i → i < 32 → ∃ word ∈ flags, word.getLsbD i = false := by
  have bits : ∀ i, 0 < i → (ofBool value).getLsbD i = false := by
    intro i positive
    cases value with
    | false => simp [ofBool]
    | true => simp [ofBool, BitVec.getLsbD_one, positive.ne']
  constructor
  · intro same i positive inside
    have absent := same ▸ bits i positive
    by_contra all
    push Not at all
    have present := (getLsbD_intersection flags inside).mpr fun word member =>
      Bool.of_not_eq_false (all word member)
    exact Bool.noConfusion (present.symm.trans absent)
  · intro missing
    apply BitVec.eq_of_getLsbD_eq
    intro i inside
    rcases Nat.eq_zero_or_pos i with rfl | positive
    · rw [Bool.eq_iff_iff, getLsbD_intersection flags inside, ← lowest]
      cases value <;> simp [ofBool]
    · rw [bits i positive]
      obtain ⟨word, member, absent⟩ := missing i positive inside
      refine (Bool.eq_false_iff.mpr fun present => ?_).symm
      have there := (getLsbD_intersection flags inside).mp present word member
      exact Bool.noConfusion (there.symm.trans absent)

/-- A container keeps what its children report if two of them overlap, or if no rendering
attribute except opacity is one that all of them can apply. -/
theorem ContainerLayer.prerollChildren_collects_iff (skia : SkRects Rect)
    (skips : ∀ first second, skia.isEmpty second = true → skia.join first second = first)
    (container : ContainerLayer Rest Rect) (context : PrerollContext Rest) :
    Collects skia (reports context container.layers)
        (container.prerollChildren skia context skia.empty).1
        (container.prerollChildren skia context skia.empty).2.2 ↔
      skia.Overlapping ((reports context container.layers).map (·.paintBounds)) ∨
        ∀ i, 0 < i → i < 32 → ∃ child ∈ reports context container.layers,
          child.renderableStateFlags.getLsbD i = false := by
  obtain ⟨bounds, platformView, textureLayer, flags⟩ :=
    foldl_prerollChild skia container.layers {
      context
      childPaintBounds := skia.empty
      childHasPlatformView := false
      childHasTextureLayer := false
      allRenderableStateFlags := toBool kCallerCanApplyAnything }
  have anything : toBool kCallerCanApplyAnything = true := rfl
  rw [← overlapping_iff] at flags
  simp only [anything, true_and] at flags
  have joins : skia.JoinOf ((reports context container.layers).map (·.paintBounds))
      (container.prerollChildren skia context skia.empty).2.2.childPaintBounds :=
    (congrArg (skia.JoinOf _) bounds).mpr (SkRects.joinOf_joined skips _)
  by_cases overlapping : skia.Overlapping
      ((reports context container.layers).map (·.paintBounds))
  · have cleared := Bool.eq_false_iff.mpr fun all => (flags.mp all).2 overlapping
    refine iff_of_true ?_ (.inl overlapping)
    refine ⟨fun apart => absurd overlapping apart, fun _ => ofBool_eq_zero.mpr cleared, joins,
      platformView.trans (Bool.false_or _), textureLayer.trans (Bool.false_or _)⟩
  · rw [or_iff_right overlapping]
    have lowest := flags.trans (and_iff_left overlapping)
    have exact_iff := ofBool_eq_intersection (lowest.trans (List.forall_mem_map
      (P := fun word : BitVec 32 => word.getLsbD 0 = true)).symm)
    constructor
    · intro collects i positive inside
      obtain ⟨word, member, absent⟩ :=
        exact_iff.mp (collects.flags overlapping) i positive inside
      obtain ⟨child, reported, rfl⟩ := List.mem_map.mp member
      exact ⟨child, reported, absent⟩
    · intro missing
      refine ⟨fun _ => exact_iff.mpr fun i positive inside => ?_,
        fun overlaps => absurd overlaps overlapping, joins,
        platformView.trans (Bool.false_or _), textureLayer.trans (Bool.false_or _)⟩
      obtain ⟨child, reported, absent⟩ := missing i positive inside
      exact ⟨_, List.mem_map_of_mem reported, absent⟩

/-! ## Two children side by side -/

theorem binary32Rects_join_skips (first second : Binary32Rect)
    (empty : binary32Rects.isEmpty second = true) : binary32Rects.join first second = first :=
  if_pos empty

/-- A child that reports what it is given, whatever the context. -/
def reporting (renderableStateFlags : BitVec 32) (paintBounds : Binary32Rect) :
    Layer Unit Binary32Rect where
  preroll context := ({ context with renderableStateFlags }, paintBounds)

/-- Two children next to each other, with the same flags. -/
def sideBySide (flags : BitVec 32) : ContainerLayer Unit Binary32Rect where
  layers := [reporting flags ⟨0, 0, 0x3F800000#32, 0x3F800000#32⟩,
    reporting flags ⟨0x3F800000#32, 0, 0x40000000#32, 0x3F800000#32⟩]
  paintBounds := binary32Rects.empty
  childPaintBounds := binary32Rects.empty
  childrenRenderableStateFlags := 0
  subtreeHasPlatformView := false

/-- Children that can apply opacity: the container passes it on. -/
theorem sideBySide_collects :
    let after := (sideBySide 1).prerollChildren binary32Rects ⟨false, false, 0, ()⟩
      binary32Rects.empty
    Collects binary32Rects (reports ⟨false, false, 0, ()⟩ (sideBySide 1).layers) after.1
      after.2.2 := by
  refine (ContainerLayer.prerollChildren_collects_iff binary32Rects binary32Rects_join_skips
    (sideBySide 1) ⟨false, false, 0, ()⟩).mpr (.inr fun i positive _ => ?_)
  refine ⟨_, List.mem_cons_self, ?_⟩
  change BitVec.getLsbD 1#32 i = false
  simp [BitVec.getLsbD_one, positive.ne']

/-- Children that can apply opacity and a color filter, as those with a save layer of their own:
the container says it can apply opacity only. -/
theorem sideBySide_not_collects :
    let after := (sideBySide 3).prerollChildren binary32Rects ⟨false, false, 0, ()⟩
      binary32Rects.empty
    after.2.2.childrenRenderableStateFlags = 1 ∧
      ¬ Collects binary32Rects (reports ⟨false, false, 0, ()⟩ (sideBySide 3).layers) after.1
        after.2.2 := by
  refine ⟨by decide, fun collects => ?_⟩
  have apart : ¬ binary32Rects.Overlapping
      ((reports ⟨false, false, 0, ()⟩ (sideBySide 3).layers).map (·.paintBounds)) := by
    rw [overlapping_iff]
    simp only [sideBySide, reporting, reports, List.map_cons, List.map_nil, MeetsEarlier, or_false]
    decide
  exact absurd (collects.flags apart) (by decide)

end FlutterEngine.Flow
