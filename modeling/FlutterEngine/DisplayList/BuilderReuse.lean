import FlutterEngine.DisplayList.BuilderRecorder
import FlutterEngine.DisplayList.WholeNumbers

/-!
# Recording again after `Build`

`Build` resets a builder for the next display list. What it resets it resets to what the
constructor sets; the accumulated bounds and the opacity compatibility of the attributes
stay as the first recording left them.
-/

namespace FlutterEngine.DisplayList

open DisplayListOpFlags

/-! ## The tracker -/

namespace DisplayListMatrixClipTracker

variable {Scalar RRect Path : Type} {sk : SkGeometry Scalar RRect Path}
  {tracker next : DisplayListMatrixClipTracker sk} {cullRect : SkRect Scalar}
  {base : TrackedData sk}

/-- The entry that `reset` goes back to. -/
def Based (cullRect : SkRect Scalar) (base : TrackedData sk)
    (tracker : DisplayListMatrixClipTracker sk) : Prop :=
  tracker.originalCullRect = cullRect ∧ tracker.saved.getLast? = some base

/-- Only the current entry differs. -/
def OnlyCurrent (tracker next : DisplayListMatrixClipTracker sk) : Prop :=
  next = { tracker with current := next.current }

section

variable (based : tracker.Based cullRect base)

include based

theorem Based.onlyCurrent (only : tracker.OnlyCurrent next) : next.Based cullRect base := by
  rw [only]
  exact based

theorem Based.save : tracker.save.Based cullRect base := by
  refine ⟨based.1, ?_⟩
  rw [DisplayListMatrixClipTracker.save, List.getLast?_cons, based.2]
  rfl

theorem Based.restore :
    tracker.restore.Based cullRect base := by
  unfold DisplayListMatrixClipTracker.restore
  split
  · next current first saved stack =>
      refine ⟨based.1, ?_⟩
      rw [← based.2, stack, List.getLast?_cons_cons]
  · exact based

theorem Based.reset :
    tracker.reset = ⟨cullRect, base, [base]⟩ := by
  simp [DisplayListMatrixClipTracker.reset, DisplayListMatrixClipTracker.save,
    List.getLastD_eq_getLast?, based.1, based.2]

end

variable [BEq Scalar] [LE Scalar] [DecidableLE Scalar] [LT Scalar] [DecidableLT Scalar]

theorem onlyCurrent_clipRect (rect : SkRect Scalar) (op : ClipOp) (isAA : Bool) :
    tracker.OnlyCurrent (tracker.clipRect rect op isAA) := rfl

theorem onlyCurrent_clipRRect (rrect : RRect) (op : ClipOp) (isAA : Bool) :
    tracker.OnlyCurrent (tracker.clipRRect rrect op isAA) := by
  unfold clipRRect
  split <;> rfl

theorem onlyCurrent_clipPath (path : Path) (op : ClipOp) (isAA : Bool) :
    tracker.OnlyCurrent (tracker.clipPath path op isAA) := by
  unfold clipPath
  split
  · rfl
  · split <;> rfl

end DisplayListMatrixClipTracker

variable {p : Payloads} [SkScalar p.Scalar]

/-! ## Calls that accumulate nothing -/

variable {kit : Toolkit p}

namespace DisplayListBuilder

variable (builder : DisplayListBuilder kit)

/-- Neither what is accumulated nor what is saved differs. -/
structure KeepsSaves (builder next : DisplayListBuilder kit) : Prop where
  tracker : builder.tracker.OnlyCurrent next.tracker
  accumulator : next.accumulator = builder.accumulator
  parents : next.parents = builder.parents

variable {builder} in
theorem KeepsSaves.trans {next last : DisplayListBuilder kit} (first : builder.KeepsSaves next)
    (second : next.KeepsSaves last) : builder.KeepsSaves last where
  tracker := by
    have tracker := second.tracker
    rw [first.tracker] at tracker
    exact tracker
  accumulator := second.accumulator.trans first.accumulator
  parents := second.parents.trans first.parents

theorem keepsSaves_setColor (color : DlColor) : builder.KeepsSaves (builder.setColor color) := by
  unfold setColor
  split <;> exact ⟨rfl, rfl, rfl⟩

theorem keepsSaves_onSetColorSource (source : Option (DlColorSource p)) :
    builder.KeepsSaves (builder.onSetColorSource source) := by
  cases source with
  | none => exact ⟨rfl, rfl, rfl⟩
  | some source =>
    cases source with
    | color color =>
      have cleared : builder.KeepsSaves { builder with
          isUIThreadSafe :=
            builder.isUIThreadSafe && kit.colorSourceIsUIThreadSafe (.color color)
          current := builder.current.set (.setColorSource none) } := ⟨rfl, rfl, rfl⟩
      exact cleared.trans (keepsSaves_setColor _ color)
    | _ => exact ⟨rfl, rfl, rfl⟩

theorem keepsSaves_setAttribute (call : AttributeCall p) :
    builder.KeepsSaves (builder.setAttribute call) := by
  unfold setAttribute
  split
  · cases call with
    | setColorSource source => exact builder.keepsSaves_onSetColorSource source
    | _ => exact ⟨rfl, rfl, rfl⟩
  · exact ⟨rfl, rfl, rfl⟩

theorem keepsSaves_checkForDeferredSave : builder.KeepsSaves builder.checkForDeferredSave := by
  unfold checkForDeferredSave
  split <;> exact ⟨rfl, rfl, rfl⟩

theorem keepsSaves_recordTransform (call : TransformCall p) (renderOpInc : Nat)
    (apply : TrackedMatrix kit.toSkGeometry → TrackedMatrix kit.toSkGeometry) :
    builder.KeepsSaves (builder.recordTransform call renderOpInc apply) :=
  builder.keepsSaves_checkForDeferredSave.trans ⟨rfl, rfl, rfl⟩

theorem keepsSaves_ite {next : DisplayListBuilder kit} (changed : Bool)
    (keeps : builder.KeepsSaves next) : builder.KeepsSaves (if changed then next else builder) := by
  cases changed with
  | false => exact ⟨rfl, rfl, rfl⟩
  | true => exact keeps

theorem keepsSaves_transform2DAffine (mxx mxy mxt myx myy myt : p.Scalar) :
    builder.KeepsSaves (builder.transform2DAffine mxx mxy mxt myx myy myt) := by
  refine builder.keepsSaves_ite _ ?_
  split
  · exact builder.keepsSaves_ite _ (builder.keepsSaves_recordTransform _ _ _)
  · exact builder.keepsSaves_recordTransform _ _ _

theorem keepsSaves_transform (call : TransformCall p) :
    builder.KeepsSaves (builder.transform call) := by
  cases call with
  | transform2DAffine mxx mxy mxt myx myy myt =>
    exact builder.keepsSaves_transform2DAffine _ _ _ _ _ _
  | transformFullPerspective mxx mxy mxz mxt myx myy myz myt mzx mzy mzz mzt mwx mwy mwz mwt =>
    simp only [transform, transformFullPerspective]
    split
    · exact builder.keepsSaves_transform2DAffine _ _ _ _ _ _
    · exact builder.keepsSaves_ite _ (builder.keepsSaves_recordTransform _ _ _)
  | transformReset => exact builder.keepsSaves_checkForDeferredSave.trans ⟨rfl, rfl, rfl⟩
  | _ => exact builder.keepsSaves_ite _ (builder.keepsSaves_recordTransform _ _ _)

theorem keepsSaves_recordClip {tracker : DisplayListMatrixClipTracker kit.toSkGeometry}
    (only : builder.tracker.OnlyCurrent tracker) (op : TransformClipOp p) :
    builder.KeepsSaves (builder.recordClip tracker op) := by
  have tracked : builder.KeepsSaves { builder with tracker } := ⟨only, rfl, rfl⟩
  unfold recordClip
  dsimp only
  split
  · exact tracked.trans ⟨rfl, rfl, rfl⟩
  · exact tracked.trans ((keepsSaves_checkForDeferredSave _).trans ⟨rfl, rfl, rfl⟩)

theorem keepsSaves_clipRect (rect : SkRect p.Scalar) (clipOp : ClipOp) (isAA : Bool) :
    builder.KeepsSaves (builder.clipRect rect clipOp isAA) :=
  builder.keepsSaves_ite _ <| builder.keepsSaves_recordClip
    (DisplayListMatrixClipTracker.onlyCurrent_clipRect _ _ _) _

theorem keepsSaves_clipRRect (rrect : p.RRect) (clipOp : ClipOp) (isAA : Bool) :
    builder.KeepsSaves (builder.clipRRect rrect clipOp isAA) := by
  unfold clipRRect
  split
  · exact builder.keepsSaves_clipRect _ _ _
  · exact builder.keepsSaves_recordClip
      (DisplayListMatrixClipTracker.onlyCurrent_clipRRect _ _ _) _

theorem keepsSaves_clip (call : ClipCall p) : builder.KeepsSaves (builder.clip call) := by
  obtain ⟨shape, clipOp, isAA⟩ := call
  cases shape with
  | rect rect => exact builder.keepsSaves_clipRect _ _ _
  | rrect rrect => exact builder.keepsSaves_clipRRect _ _ _
  | path path =>
    simp only [clip, clipPath]
    split
    · exact builder.keepsSaves_clipRect _ _ _
    · exact builder.keepsSaves_clipRRect _ _ _
    · exact builder.keepsSaves_recordClip
        (DisplayListMatrixClipTracker.onlyCurrent_clipPath _ _ _) _

theorem keepsSaves_reportAttributes (options : SaveLayerOptions) :
    builder.KeepsSaves (builder.reportAttributes options) :=
  builder.keepsSaves_ite _ ⟨rfl, rfl, rfl⟩

theorem keepsSaves_updateLayerResult (result : OpResult) :
    builder.KeepsSaves (builder.updateLayerResult result) := by
  cases result <;> exact ⟨rfl, rfl, rfl⟩

theorem keepsSaves_clipLayer (bounds : SkRect p.Scalar) (options : SaveLayerOptions) :
    builder.KeepsSaves (builder.clipLayer bounds options) := by
  unfold clipLayer
  split
  · exact ⟨rfl, rfl, rfl⟩
  · exact builder.keepsSaves_ite _ ⟨rfl, rfl, rfl⟩

theorem keepsSaves_recordRestore : builder.KeepsSaves builder.recordRestore := by
  unfold recordRestore
  dsimp only
  split <;> exact ⟨rfl, rfl, rfl⟩

/-! ## Every call -/

/-- Where the tracker resets to, and what the accumulator holds for each open save. -/
structure MadeFor (cullRect : SkRect p.Scalar) (base : TrackedData kit.toSkGeometry)
    (prepareRtree : Bool) (builder : DisplayListBuilder kit) : Prop where
  tracker : builder.tracker.Based cullRect base
  accumulator : builder.accumulator.Holds kit prepareRtree builder.parents.length

namespace MadeFor

variable {builder} {next : DisplayListBuilder kit} {cullRect : SkRect p.Scalar}
  {base : TrackedData kit.toSkGeometry} {prepareRtree : Bool}

theorem keeps (made : MadeFor cullRect base prepareRtree builder)
    (keeps : builder.KeepsSaves next) : MadeFor cullRect base prepareRtree next where
  tracker := made.tracker.onlyCurrent keeps.tracker
  accumulator := by
    rw [keeps.accumulator, keeps.parents]
    exact made.accumulator

section

variable (laws : BoundsLaws kit) (made : MadeFor cullRect base prepareRtree builder)

include laws made

theorem accumulate (deviceBounds : SkRect p.Scalar)
    (layerBounds : DisplayListMatrixClipTracker kit.toSkGeometry → SkRect p.Scalar) :
    MadeFor cullRect base prepareRtree (builder.accumulate deviceBounds layerBounds) := by
  have device : MadeFor cullRect base prepareRtree { builder with
      accumulator := builder.accumulator.accumulate deviceBounds builder.opIndex } :=
    ⟨made.tracker, made.accumulator.accumulate laws _ _⟩
  unfold DisplayListBuilder.accumulate
  dsimp only
  split
  · exact device
  · refine device.keeps ?_
    unfold accumulateInLayer
    split <;> exact ⟨rfl, rfl, rfl⟩

theorem accumulateUnbounded_getD :
    MadeFor cullRect base prepareRtree (builder.accumulateUnbounded.getD builder) :=
  accumulateUnbounded_getD_keeps (fun _ _ made => made.accumulate laws _ _) made

theorem render (step : DrawStep p) : MadeFor cullRect base prepareRtree (builder.render step) := by
  unfold DisplayListBuilder.render
  split
  · exact made
  · split
    · exact made
    · next next accumulated =>
        have content : MadeFor cullRect base prepareRtree next :=
          accumulateContent_keeps (fun _ _ made => made.accumulate laws _ _) made accumulated
        have reported : next.KeepsSaves ((next.push (.draw step.op) 1)
            |>.updateLayerOpacityCompatibility step.compatible) := ⟨rfl, rfl, rfl⟩
        exact content.keeps <| (reported.trans (keepsSaves_updateLayerResult _ _)).trans
          ⟨rfl, rfl, rfl⟩

end

theorem save (made : MadeFor cullRect base prepareRtree builder) :
    MadeFor cullRect base prepareRtree builder.save :=
  ⟨made.tracker.save, made.accumulator.save⟩

section

variable (laws : BoundsLaws kit) (made : MadeFor cullRect base prepareRtree builder)
  (bounds : SkRect p.Scalar) (options : SaveLayerOptions) (backdrop : Option p.ImageFilter)

include laws made bounds options backdrop

theorem openLayer :
    MadeFor cullRect base prepareRtree (builder.openLayer bounds options backdrop) := by
  unfold DisplayListBuilder.openLayer
  dsimp only
  have reported : MadeFor cullRect base prepareRtree (builder.updateLayerOpacityCompatibility
      (builder.opacityCompatible options.rendersWithAttributes)) := made.keeps ⟨rfl, rfl, rfl⟩
  have pushed : MadeFor cullRect base prepareRtree ((builder.updateLayerOpacityCompatibility
      (builder.opacityCompatible options.rendersWithAttributes)).pushLayer bounds options) :=
    ⟨reported.tracker.save, reported.accumulator.save⟩
  cases backdrop with
  | none => exact pushed.keeps ⟨rfl, rfl, rfl⟩
  | some backdrop => exact (pushed.accumulateUnbounded_getD laws).keeps ⟨rfl, rfl, rfl⟩

theorem saveLayer :
    MadeFor cullRect base prepareRtree (builder.saveLayer bounds options backdrop) := by
  unfold DisplayListBuilder.saveLayer saveLayerWith
  dsimp only
  split
  · exact made.save.keeps ⟨rfl, rfl, rfl⟩
  · have flooded : MadeFor cullRect base prepareRtree
        (builder.floodParent options.withoutOptimizations) := by
      unfold floodParent
      split
      · exact made.accumulateUnbounded_getD laws
      · exact made
    exact (flooded.openLayer laws bounds _ backdrop).keeps <|
      ((keepsSaves_reportAttributes _ _).trans (keepsSaves_updateLayerResult _ _)).trans
        (keepsSaves_clipLayer _ _ _)

end

variable (laws : BoundsLaws kit) (tracker : builder.tracker.Based cullRect base)
  (holds : builder.accumulator.Holds kit prepareRtree (builder.parents.length + 1))

include laws tracker holds

theorem restoreAccumulator (filter : Option p.ImageFilter) :
    MadeFor cullRect base prepareRtree (builder.restoreAccumulator filter).1 := by
  cases filter with
  | none => exact ⟨tracker, holds.restore laws⟩
  | some filter =>
    refine ⟨tracker, ?_⟩
    simp only [DisplayListBuilder.restoreAccumulator]
    exact holds.restoreMapped laws _ _

/-- What is left to do once a scope is left. -/
theorem leave (info : SaveInfo p) :
    MadeFor cullRect base prepareRtree
      (let (left, success) := builder.restoreAccumulator info.filter
      if info.isUnbounded || !success then left.accumulateUnbounded.getD left else left) := by
  dsimp only
  have left := restoreAccumulator laws tracker holds info.filter
  split
  · exact left.accumulateUnbounded_getD laws
  · exact left

end MadeFor

theorem keepsSaves_syncSaveLayer (info parent : SaveInfo p) (moved : Bool) :
    builder.KeepsSaves (builder.syncSaveLayer info parent moved).1 := by
  unfold syncSaveLayer
  dsimp only
  cases moved <;>
  · split
    · unfold accumulateInLayer
      split <;> exact ⟨rfl, rfl, rfl⟩
    · exact ⟨rfl, rfl, rfl⟩

/-- What `restore` does to the record before it leaves the scope. -/
theorem keepsSaves_sync (info parent : SaveInfo p) (moved : Bool) :
    builder.KeepsSaves (if info.isSaveLayer then builder.syncSaveLayer info parent moved
      else builder.syncSave info parent).1 := by
  split
  · exact builder.keepsSaves_syncSaveLayer info parent moved
  · exact ⟨rfl, rfl, rfl⟩

theorem MadeFor.restore {builder : DisplayListBuilder kit} {cullRect : SkRect p.Scalar}
    {base : TrackedData kit.toSkGeometry} {prepareRtree : Bool} (laws : BoundsLaws kit)
    (made : MadeFor cullRect base prepareRtree builder) :
    MadeFor cullRect base prepareRtree builder.restore := by
  unfold DisplayListBuilder.restore
  cases stack : builder.parents with
  | nil => exact made
  | cons parent parents =>
    have keeps := builder.keepsSaves_recordRestore.trans <|
      builder.recordRestore.keepsSaves_sync builder.currentLayer parent (builder.moves .restore)
    have holds := (made.keeps keeps).accumulator
    rw [keeps.parents, stack] at holds
    exact MadeFor.leave laws (made.keeps keeps).tracker.restore holds builder.currentLayer

theorem MadeFor.receive {builder : DisplayListBuilder kit} {cullRect : SkRect p.Scalar}
    {base : TrackedData kit.toSkGeometry} {prepareRtree : Bool} (laws : BoundsLaws kit)
    (made : MadeFor cullRect base prepareRtree builder) (call : ReceiverCall p) :
    MadeFor cullRect base prepareRtree (builder.receive call) := by
  cases call with
  | set call => exact made.keeps (builder.keepsSaves_setAttribute call)
  | save => exact made.save
  | saveLayer bounds options backdrop => exact made.saveLayer laws bounds options backdrop
  | restore => exact made.restore laws
  | transform call => exact made.keeps (builder.keepsSaves_transform call)
  | clip call => exact made.keeps (builder.keepsSaves_clip call)
  | draw call => exact made.render laws _

/-! ## What is left of a recording -/

/-- The first entry of a new tracker. -/
def baseData (kit : Toolkit p) (cullRect : SkRect p.Scalar) : TrackedData kit.toSkGeometry where
  matrix := .data3x3 kit.identity
  cullRect := if kit.isEmpty cullRect then kit.emptyRect else cullRect

theorem madeFor_new (kit : Toolkit p) (cullRect : SkRect p.Scalar) (prepareRtree : Bool) :
    MadeFor cullRect (baseData kit cullRect) prepareRtree (new kit cullRect prepareRtree) :=
  ⟨⟨rfl, rfl⟩, BoundsAccumulator.holds_blank kit prepareRtree⟩

/-- What `Build` leaves is a new builder but for its accumulator and what is known of the
opacity compatibility. -/
theorem MadeFor.cleared {builder : DisplayListBuilder kit} {cullRect : SkRect p.Scalar}
    {prepareRtree : Bool}
    (made : MadeFor cullRect (baseData kit cullRect) prepareRtree builder) :
    builder.cleared = { new kit cullRect prepareRtree with
      accumulator := builder.accumulator
      currentOpacityCompatibility := builder.currentOpacityCompatibility } := by
  unfold DisplayListBuilder.cleared
  rw [made.tracker.reset]
  rfl

/-- The compatibility is that of the attributes. -/
def KnowsCompatibility (builder : DisplayListBuilder kit) : Prop :=
  builder.currentOpacityCompatibility = builder.current.opacityCompatible

theorem knowsCompatibility_new (kit : Toolkit p) (cullRect : SkRect p.Scalar)
    (prepareRtree : Bool) : (new kit cullRect prepareRtree).KnowsCompatibility := rfl

theorem KnowsCompatibility.receive {builder : DisplayListBuilder kit}
    (known : builder.KnowsCompatibility) (call : ReceiverCall p) :
    (builder.receive call).KnowsCompatibility := by
  rcases (builder.receive_step call).compatibility with updated | ⟨kept, same⟩
  · exact updated
  · exact kept.trans (known.trans same.symm)

/-- Restoring what is open sets no attributes. -/
theorem current_restoreAll (builder : DisplayListBuilder kit) :
    builder.restoreAll.current = builder.current := by
  have restored : ∀ count, (restore^[count] builder).current = builder.current := by
    intro count
    induction count with
    | zero => rfl
    | succ count ih =>
      rw [Function.iterate_succ_apply', ← ih]
      exact (restore_step _).sameAttributes (fun _ => nofun) |>.1
  exact restored _

/-- A layer that has an effect is the current scope, and is reported to the one around. -/
theorem saveLayer_scopes (builder : DisplayListBuilder kit) (bounds : SkRect p.Scalar)
    (options : SaveLayerOptions) (backdrop : Option p.ImageFilter)
    (effect : builder.paintResult builder.current
      (saveLayerFlags options.withoutOptimizations) ≠ .noEffect) :
    (builder.saveLayer bounds options backdrop).recorder.scope.isSaveLayer = true ∧
      (builder.saveLayer bounds options backdrop).recorder.outer =
        builder.recorder.scope.report
          (!options.rendersWithAttributes || builder.currentOpacityCompatibility) ::
            builder.recorder.outer := by
  unfold saveLayer saveLayerWith
  dsimp only
  rw [if_neg effect, recorder_clipLayer, recorder_updateLayerResult]
  obtain ⟨rect, opened⟩ := (builder.floodParent options.withoutOptimizations).recorder_openLayer
    bounds options.withoutOptimizations backdrop
  rw [recorder_floodParent] at opened
  rcases recorder_reportAttributes
    ((builder.floodParent options.withoutOptimizations).openLayer bounds
      options.withoutOptimizations backdrop) options.withoutOptimizations with same | denied
  · rw [same, opened]
    exact ⟨rfl, rfl⟩
  · rw [denied, opened]
    exact ⟨rfl, rfl⟩

omit [SkScalar p.Scalar] in
/-- A layer with the default attributes is visible. -/
theorem paintEffect_layer (kit : Toolkit p) :
    paintEffect kit {} kSaveLayerWithPaintFlags = .affectsAll := by
  have blend : kSaveLayerWithPaintFlags.appliesBlend = true := by decide
  have color : kSaveLayerWithPaintFlags.appliesColor = false := by decide
  have alpha : kSaveLayerWithPaintFlags.appliesAlpha = true := by decide
  have visible : DlColor.kBlack.getAlpha ≠ 0 := by decide
  have colored : getEffectiveColor kit {} kSaveLayerWithPaintFlags = kAnyColor := by
    simp [getEffectiveColor, color, alpha, visible, filteredColor]
  rw [paintEffect, if_pos blend, colored]
  change blendResult .srcOver kAnyColor = .affectsAll
  decide

/-- A layer with the default attributes reports their compatibility to the scope around it. -/
theorem canApplyGroupOpacity_layer (kit : Toolkit p) (cullRect : SkRect p.Scalar)
    (prepareRtree compatible : Bool) :
    ({ new kit cullRect prepareRtree with currentOpacityCompatibility := compatible }.run
      [.receive (.saveLayer kit.emptyRect { rendersWithAttributes := true } none)]
        ).build.1.canApplyGroupOpacity = compatible := by
  let builder := { new kit cullRect prepareRtree with currentOpacityCompatibility := compatible }
  have effect : builder.paintResult builder.current
      (saveLayerFlags { rendersWithAttributes := true }) ≠ .noEffect := by
    change paintEffect kit {} kSaveLayerWithPaintFlags ≠ .noEffect
    rw [paintEffect_layer]
    decide
  obtain ⟨isLayer, outer⟩ :=
    builder.saveLayer_scopes kit.emptyRect { rendersWithAttributes := true } none effect
  let layer := builder.saveLayer kit.emptyRect { rendersWithAttributes := true } none
  have opened : layer.parents.length = 1 := by
    have length := congrArg List.length outer
    rwa [recorder, List.length_map] at length
  have restored : layer.restoreAll = layer.restore := by
    rw [restoreAll, opened]
    rfl
  have scope : layer.restoreAll.recorder.scope = _ :=
    restored ▸ layer.restore_step.scope_restore isLayer outer
  change (!layer.restoreAll.recorder.scope.cannotInheritOpacity) = compatible
  rw [scope]
  cases compatible <;> rfl

/-- A builder records as a new one does after these calls and `Build` exactly when they
accumulated no bounds and the attributes they left are compatible with a group opacity. -/
theorem build_again_iff (laws : BoundsLaws kit) (cullRect : SkRect p.Scalar) (prepareRtree : Bool)
    (first : List (BuilderCall kit)) :
    (∀ second, (((new kit cullRect prepareRtree).run first).build.2.run second).build.1 =
      ((new kit cullRect prepareRtree).run second).build.1) ↔
    ((new kit cullRect prepareRtree).run first).build.2.accumulator = .blank kit prepareRtree ∧
      ((new kit cullRect prepareRtree).run first).current.opacityCompatible = true := by
  let builder := (new kit cullRect prepareRtree).run first
  have made : MadeFor cullRect (baseData kit cullRect) prepareRtree builder.restoreAll :=
    restoreAll_keeps (fun call made => made.receive laws call)
      (run_keeps (fun call made => made.receive laws call) (madeFor_new kit cullRect prepareRtree)
        first)
  have known : builder.restoreAll.currentOpacityCompatibility =
      builder.current.opacityCompatible := by
    rw [← current_restoreAll]
    exact restoreAll_keeps (P := KnowsCompatibility) (fun call known => known.receive call)
      (run_keeps (fun call known => known.receive call) (knowsCompatibility_new ..) first)
  have left : builder.build.2 = { new kit cullRect prepareRtree with
      accumulator := builder.restoreAll.accumulator
      currentOpacityCompatibility := builder.current.opacityCompatible } := by
    rw [← known]
    exact made.cleared
  have accumulated : builder.build.2.accumulator = builder.restoreAll.accumulator := rfl
  change (∀ second, (builder.build.2.run second).build.1 = _) ↔
    builder.build.2.accumulator = _ ∧ builder.current.opacityCompatible = true
  rw [accumulated, left]
  constructor
  · intro same
    have nothing : builder.restoreAll.accumulator = .blank kit prepareRtree := by
      have holds := made.accumulator
      rw [parents_restoreAll] at holds
      exact holds.eq_blank laws (congrArg BuiltDisplayList.rtree (same []))
        (congrArg BuiltDisplayList.bounds (same []))
    refine ⟨nothing, ?_⟩
    rw [nothing] at same
    have layer := congrArg BuiltDisplayList.canApplyGroupOpacity
      (same [.receive (.saveLayer kit.emptyRect { rendersWithAttributes := true } none)])
    have fresh := canApplyGroupOpacity_layer kit cullRect prepareRtree true
    exact (canApplyGroupOpacity_layer kit cullRect prepareRtree _).symm.trans (layer.trans fresh)
  · intro ⟨nothing, compatible⟩ second
    rw [nothing, compatible]
    rfl

/-- The bounds of what was drawn first are in the second display list too. -/
theorem not_build_again :
    ¬ ∀ (prepareRtree : Bool) (first second : List (BuilderCall WholeNumbers.kit)),
      (((new WholeNumbers.kit WholeNumbers.kit.kMaxCullRect prepareRtree).run first).build.2.run
          second).build.1 =
        ((new WholeNumbers.kit WholeNumbers.kit.kMaxCullRect prepareRtree).run second).build.1 := by
  intro same
  have bounds := congrArg BuiltDisplayList.bounds
    (same false [.draw (.drawRect (WholeNumbers.square 0 10)) {}]
      [.draw (.drawRect (WholeNumbers.square 50 10)) {}])
  revert bounds
  decide +kernel

/-- Saves and attributes leave nothing behind. -/
theorem build_again_transparent :
    (((new WholeNumbers.kit WholeNumbers.kit.kMaxCullRect true).run
        [.receive .save, .receive (.set (.setColor .kWhite))]).build.2.run
        [.draw (.drawRect (WholeNumbers.square 50 10)) {}]).build.1 =
      ((new WholeNumbers.kit WholeNumbers.kit.kMaxCullRect true).run
        [.draw (.drawRect (WholeNumbers.square 50 10)) {}]).build.1 :=
  (build_again_iff WholeNumbers.boundsLaws WholeNumbers.kit.kMaxCullRect true
    [.receive .save, .receive (.set (.setColor .kWhite))]).mpr ⟨rfl, rfl⟩ _

end DisplayListBuilder

end FlutterEngine.DisplayList
