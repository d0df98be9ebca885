import FlutterEngine.DisplayList.CullRect
import FlutterEngine.Std.Machine

/-!
# The cull rectangle over sequences of calls

`DisplayListMatrixClipTracker` beside what is visible. Its cull rectangle stays around what
is visible unless an anti-aliased difference clip, whose bounds are rounded to the nearest
whole numbers and not inwards, slices off more than it covers.
-/

namespace FlutterEngine.DisplayList

open FlutterEngine.Std

variable {RRect Path : Type} {sk : SkGeometry Rat RRect Path}

/-- A tracker beside what is visible, also at the open saves. -/
structure ClippedTracker (sk : SkGeometry Rat RRect Path) where
  tracker : DisplayListMatrixClipTracker sk
  visible : Set Point
  savedVisible : List (Set Point) := []

namespace ClippedTracker

variable (drawing : Drawing sk) (state : ClippedTracker sk)

/-- What is visible after a clip to this region. -/
def clip (isAA : Bool) (region : Set Point) (tracker : DisplayListMatrixClipTracker sk) :
    ClippedTracker sk :=
  { state with tracker, visible := state.visible ∩ survivors isAA region }

def call : TrackerCall sk → ClippedTracker sk
  | .save => ⟨state.tracker.save, state.visible, state.visible :: state.savedVisible⟩
  | .restore =>
    match state.savedVisible with
    | [] => { state with tracker := state.tracker.restore }
    | visible :: savedVisible => ⟨state.tracker.restore, visible, savedVisible⟩
  | .transform call =>
    { state with tracker := state.tracker.withMatrix (call.apply state.tracker.current.matrix) }
  | .clipRect rect op isAA =>
    state.clip isAA (drawing.region state.tracker.current.matrix rect.area op)
      (state.tracker.clipRect rect op isAA)
  | .clipRRect rrect op isAA =>
    state.clip isAA (drawing.region state.tracker.current.matrix (drawing.rrectArea rrect) op)
      (state.tracker.clipRRect rrect op isAA)
  | .clipPath path op isAA =>
    state.clip isAA (drawing.pathRegion state.tracker.current.matrix path op)
      (state.tracker.clipPath path op isAA)

/-- A new tracker; what its cull rectangle holds is visible. -/
def Created : Prop :=
  ∃ cullRect, (∃ matrix, state.tracker = .ofMatrix cullRect matrix) ∨
    (∃ m44, state.tracker = .ofM44 cullRect m44)

def machine : Machine (ClippedTracker sk) (TrackerCall sk) where
  Initial state := state.Created ∧ state.savedVisible = [] ∧
    state.visible = { point | state.tracker.deviceCullRect.Holds point }
  step state op := some (state.call drawing op)

/-- The slices of an anti-aliased difference clip are covered. -/
def CoversSlices : TrackerCall sk → Prop
  | .clipRect rect .difference true => DisplayList.CoversSlices state.tracker.current rect
  | .clipRRect rrect .difference true =>
    sk.isRect rrect = true → DisplayList.CoversSlices state.tracker.current (sk.getBounds rrect)
  | .clipPath path op true =>
    DisplayListMatrixClipTracker.pathOp sk path op = .difference →
      ∀ bounds, sk.pathIsRect path = some bounds →
        DisplayList.CoversSlices state.tracker.current bounds
  | _ => True

/-- The cull rectangle is around what is visible, at the open saves too. -/
structure Sound : Prop where
  visible : ∀ point ∈ state.visible, state.tracker.deviceCullRect.Holds point
  saved : ∃ entries base, state.tracker.saved = entries ++ [base] ∧
    List.Forall₂ (fun data points => ∀ point ∈ points, data.cullRect.Holds point)
      entries state.savedVisible

variable {drawing} {state}

theorem initial_sound (initial : (machine drawing).Initial state) : state.Sound := by
  obtain ⟨created, savedVisible, visible⟩ := initial
  have saved : ∃ base, state.tracker.saved = [base] := by
    obtain ⟨cullRect, ⟨matrix, tracker⟩ | ⟨m44, tracker⟩⟩ := created
    · exact ⟨_, congrArg DisplayListMatrixClipTracker.saved tracker⟩
    · exact ⟨_, congrArg DisplayListMatrixClipTracker.saved tracker⟩
  obtain ⟨base, saved⟩ := saved
  constructor
  · intro point member
    rw [visible] at member
    exact member
  · exact ⟨[], base, saved, savedVisible ▸ .nil⟩

/-- A call on the current entry that keeps its rectangle around what stays visible. -/
theorem Sound.change (sound : state.Sound) {tracker : DisplayListMatrixClipTracker sk}
    {visible : Set Point} (saved : tracker.saved = state.tracker.saved)
    (keeps : ∀ point ∈ visible, tracker.deviceCullRect.Holds point) :
    Sound { state with tracker, visible } := by
  obtain ⟨entries, base, split, apart⟩ := sound.saved
  exact ⟨keeps, entries, base, saved.trans split, apart⟩

theorem Sound.save (sound : state.Sound) : (state.call drawing .save).Sound := by
  obtain ⟨visible, entries, base, split, apart⟩ := sound
  exact ⟨visible, state.tracker.current :: entries, base, congrArg _ split, .cons visible apart⟩

theorem Sound.restore (sound : state.Sound) : (state.call drawing .restore).Sound := by
  obtain ⟨⟨original, current, saved⟩, visible, savedVisible⟩ := state
  obtain ⟨inside, entries, base, split, apart⟩ := sound
  cases split
  cases apart with
  | nil => exact ⟨inside, [], base, rfl, .nil⟩
  | @cons entry points entries savedVisible holds apart =>
    cases entries with
    | nil =>
      cases apart
      exact ⟨holds, [], base, rfl, .nil⟩
    | cons next entries => exact ⟨holds, next :: entries, base, rfl, apart⟩

theorem pathRegion_eq (matrix : TrackedMatrix sk) (path : Path) (op : ClipOp) :
    drawing.pathRegion matrix path op =
      drawing.region matrix (drawing.pathArea path)
        (DisplayListMatrixClipTracker.pathOp sk path op) := by
  unfold Drawing.pathRegion DisplayListMatrixClipTracker.pathOp
  cases op <;> cases inverse : sk.isInverseFillType path <;> rfl

section Exact

variable (exact : ExactGeometry drawing)
include exact

/-- A clip to a rectangle whose region is around that of the shape. -/
theorem Sound.clip (sound : state.Sound) {rect : SkRect Rat} {op : ClipOp} {isAA : Bool}
    {region : Set Point}
    (around : region ⊆ drawing.region state.tracker.current.matrix rect.area op)
    (covers : op = .difference → isAA = true →
      DisplayList.CoversSlices state.tracker.current rect) :
    (state.clip isAA region (state.tracker.clipRect rect op isAA)).Sound := by
  refine sound.change rfl fun point ⟨visible, survives⟩ => ?_
  have inside := sound.visible point visible
  have survives := survivors_mono around survives
  cases op with
  | intersect => exact exact.clipIntersect_holds inside survives
  | difference => exact exact.clipDifference_holds (covers rfl) inside survives

theorem Sound.clipRRect (sound : state.Sound) {rrect : RRect} {op : ClipOp} {isAA : Bool}
    (covers : state.CoversSlices (.clipRRect rrect op isAA)) :
    (state.call drawing (.clipRRect rrect op isAA)).Sound := by
  simp only [call, DisplayListMatrixClipTracker.clipRRect]
  split
  · exact sound.change rfl fun point visible => sound.visible point visible.1
  · next reduces =>
      have isRect : op = .difference → sk.isRect rrect = true := fun difference => by
        simpa [difference] using reduces
      refine sound.clip exact (drawing.region_mono _ (exact.rrect_fills rrect) fun difference =>
        exact.rrect_covers rrect (isRect difference)) fun difference antiAliased => ?_
      subst difference antiAliased
      exact covers (isRect rfl)

theorem Sound.clipPath (sound : state.Sound) {path : Path} {op : ClipOp} {isAA : Bool}
    (covers : state.CoversSlices (.clipPath path op isAA)) :
    (state.call drawing (.clipPath path op isAA)).Sound := by
  simp only [call, DisplayListMatrixClipTracker.clipPath, pathRegion_eq]
  cases reduced : DisplayListMatrixClipTracker.pathOp sk path op with
  | intersect =>
    exact sound.clip exact (drawing.region_mono _ (exact.path_fills path) fun difference =>
      nomatch difference) fun difference => nomatch difference
  | difference =>
    cases isRect : sk.pathIsRect path with
    | none => exact sound.change rfl fun point visible => sound.visible point visible.1
    | some bounds =>
      have area : drawing.region state.tracker.current.matrix (drawing.pathArea path) .difference ⊆
          drawing.region state.tracker.current.matrix bounds.area .difference :=
        fun _ outside ⟨inverse, point, inside, maps⟩ =>
          outside ⟨inverse, point, exact.path_covers path bounds isRect inside, maps⟩
      refine sound.clip exact area fun _ antiAliased => ?_
      subst antiAliased
      exact covers reduced bounds isRect

theorem Sound.call (sound : state.Sound) {op : TrackerCall sk} (covers : state.CoversSlices op) :
    (state.call drawing op).Sound := by
  cases op with
  | save => exact sound.save
  | restore => exact sound.restore
  | transform call => exact sound.change rfl sound.visible
  | clipRect rect op isAA =>
    refine sound.clip exact (fun _ inside => inside) fun difference antiAliased => ?_
    subst difference antiAliased
    exact covers
  | clipRRect rrect op isAA => exact sound.clipRRect exact covers
  | clipPath path op isAA => exact sound.clipPath exact covers

/-- Culled content draws on nothing that is visible. -/
theorem Sound.contentCulled (sound : state.Sound) {content : SkRect Rat}
    (culled : state.tracker.contentCulled content = true) :
    ∀ point ∈ state.visible,
      point ∉ drawing.image state.tracker.current.matrix content.area.fills := by
  rintro point visible ⟨inverse, source, fills, maps⟩
  have inside := sound.visible point visible
  have cull : sk.isEmpty state.tracker.current.cullRect = false := Bool.eq_false_iff.mpr fun empty =>
    exact.not_holds_of_isEmpty empty point inside
  have filled : sk.isEmpty content = false := Bool.eq_false_iff.mpr fun empty =>
    exact.not_holds_of_isEmpty empty source (SkRect.holds_of_fills fills)
  simp only [DisplayListMatrixClipTracker.contentCulled, TrackedData.contentCulled, cull, filled,
    inverse, Bool.or_false, Bool.not_true, Bool.false_eq_true, if_false] at culled
  cases perspective : state.tracker.current.matrix.hasPerspective with
  | true => simp [perspective] at culled
  | false =>
    have mapped := exact.mapRect_fills _ _ _ _ (exact.matrix3x3_perspective perspective) inverse
      fills maps
    have meets := (exact.intersects_iff _ _).mpr
      (overlap_of_holds (SkRect.holds_of_fills mapped) inside)
    simp only [perspective, Bool.false_eq_true, if_false, Bool.not_eq_true'] at culled
    exact absurd meets (Bool.eq_false_iff.mp culled)

/-- The cull rectangle always holds every visible device point, and culled content is not
visible, when no anti-aliased difference clip slices off more than its bounds cover. -/
theorem reachable_cullRect_holds
    (reached : (machine drawing).Reachable CoversSlices state) :
    (∀ point ∈ state.visible, state.tracker.deviceCullRect.Holds point) ∧
      ∀ content, state.tracker.contentCulled content = true → ∀ point ∈ state.visible,
        point ∉ drawing.image state.tracker.current.matrix content.area.fills := by
  have sound : state.Sound := reached.invariant Sound (fun _ => initial_sound)
    fun sound covers transition => by
      cases transition
      exact sound.call exact covers
  exact ⟨sound.visible, fun content culled => sound.contentCulled exact culled⟩

end Exact

/-! ## A slice off the top -/

/-- A new tracker with a cull rectangle of ten by ten. -/
def created : ClippedTracker Translations.geometry where
  tracker := .ofMatrix ⟨0, 0, 10, 10⟩ (0, 0)
  visible := { point | (⟨0, 0, 10, 10⟩ : SkRect Rat).Holds point }

/-- An anti-aliased difference clip from above the cull rectangle down to this edge. -/
def clipAbove (bottom : Rat) : TrackerCall Translations.geometry :=
  .clipRect ⟨-1, -1, 11, bottom⟩ .difference true

theorem created_initial : (machine Translations.drawing).Initial created :=
  ⟨⟨_, .inl ⟨_, rfl⟩⟩, rfl, rfl⟩

/-- With a whole edge the clip covers all that it slices off. -/
theorem clipAbove_coversSlices : created.CoversSlices (clipAbove 5) :=
  DisplayList.CoversSlices.of_whole
    (show _ = (⟨(-1 : Int), (-1 : Int), (11 : Int), (5 : Int)⟩ : SkRect Rat) by decide +kernel)
    (by decide +kernel)

theorem reachable_cullRect_holds_clipAbove :
    ((created.call Translations.drawing (clipAbove 5)).tracker.deviceCullRect =
      ⟨0, 5, 10, 10⟩) ∧
    ∀ point ∈ (created.call Translations.drawing (clipAbove 5)).visible,
      (created.call Translations.drawing (clipAbove 5)).tracker.deviceCullRect.Holds point :=
  ⟨by decide +kernel,
    (reachable_cullRect_holds Translations.exactGeometry
      (.step (clipAbove 5) (.initial created_initial) clipAbove_coversSlices rfl)).1⟩

/-- With its edge inside a row of pixels the clip slices off that row, which it leaves
some coverage. -/
theorem clipAbove_visible_outside :
    ExactGeometry Translations.drawing ∧ (machine Translations.drawing).Reachable (fun _ _ => True)
        (created.call Translations.drawing (clipAbove (28 / 5))) ∧
      ((1, 11 / 2) : Point) ∈ (created.call Translations.drawing (clipAbove (28 / 5))).visible ∧
      ¬(created.call Translations.drawing (clipAbove (28 / 5))).tracker.deviceCullRect.Holds
        (1, 11 / 2) := by
  have cullRect : (created.call Translations.drawing (clipAbove (28 / 5))).tracker.deviceCullRect =
      ⟨0, 6, 10, 10⟩ := by decide +kernel
  refine ⟨Translations.exactGeometry,
    .step (clipAbove (28 / 5)) (.initial created_initial) trivial rfl, ⟨?_, ?_⟩, ?_⟩
  · norm_num [created, SkRect.Holds]
  · -- The clip ends above this point of the same pixel.
    refine ⟨(3 / 2, 29 / 5), ?_, ?_⟩
    · norm_num [pixel]
    · rintro ⟨-, source, ⟨-, -, bottom⟩, maps⟩
      have drawn : (29 / 5 : Rat) = source.2 + 0 := congrArg Prod.snd maps
      have bottom : source.2 ≤ 28 / 5 := bottom
      linarith
  · rw [cullRect]
    norm_num [SkRect.Holds]

end ClippedTracker

end FlutterEngine.DisplayList
