import FlutterEngine.DisplayList.Recorder

/-!
# Builders are recorders

Each call of a `DisplayListBuilder` has an outcome of `Recorder.Step`.
-/

namespace FlutterEngine.DisplayList

variable {p : Payloads} [SkScalar p.Scalar] {kit : Toolkit p}

theorem Recorder.Step.outer_restore {recorder next : Recorder p}
    (step : Recorder.Step kit recorder .restore next) : next.outer = recorder.outer.tail := by
  cases step with
  | restoreNothing bottom => rw [bottom, List.tail_nil]
  | restoreSave stack => rw [stack]; rfl
  | restoreLayer stack => rw [stack]; rfl
  | restoreMovedLayer stack => rw [stack]; rfl

/-- Restoring a layer goes back to the scope around it. -/
theorem Recorder.Step.scope_restore {recorder next : Recorder p} {parent : Scope}
    {outer : List Scope} (step : Recorder.Step kit recorder .restore next)
    (isLayer : recorder.scope.isSaveLayer = true) (stack : recorder.outer = parent :: outer) :
    next.scope = parent := by
  cases step with
  | restoreNothing bottom => rw [bottom] at stack; cases stack
  | restoreSave _ isSave => rw [isSave] at isLayer; cases isLayer
  | restoreLayer same => rw [same] at stack; cases stack; rfl
  | restoreMovedLayer same => rw [same] at stack; cases stack; rfl

def SaveInfo.scope (info : SaveInfo p) : Recorder.Scope where
  saveOffset := info.saveOffset
  isSaveLayer := info.isSaveLayer
  hasDeferredSaveOp := info.hasDeferredSaveOp
  isNop := info.isNop
  cannotInheritOpacity := info.cannotInheritOpacity
  hasCompatibleOp := info.hasCompatibleOp

namespace DisplayListBuilder

variable (builder : DisplayListBuilder kit)

def recorder : Recorder p where
  storage := builder.storage
  opIndex := builder.opIndex
  current := builder.current
  currentOpacityCompatibility := builder.currentOpacityCompatibility
  scope := builder.currentLayer.scope
  outer := builder.parents.map SaveInfo.scope

@[simp]
theorem recorder_push (op : DLOp p) (renderOpInc : Nat) :
    (builder.push op renderOpInc).recorder = builder.recorder.push op := rfl

omit [SkScalar p.Scalar] in
theorem scope_addCompatibleOp (info : SaveInfo p) :
    info.addCompatibleOp.scope = info.scope.report true := by
  obtain ⟨offset, isLayer, cannot, compatible, filter, unbounded, deferred, nop, affects,
    accumulator⟩ := info
  cases cannot <;> cases compatible <;> rfl

omit [SkScalar p.Scalar] in
theorem scope_report (info : SaveInfo p) (compatible : Bool) :
    (if compatible then info.addCompatibleOp else info.markIncompatible).scope =
      info.scope.report compatible := by
  cases compatible with
  | false => rfl
  | true => exact scope_addCompatibleOp info

theorem recorder_report (compatible : Bool) :
    (builder.updateLayerOpacityCompatibility compatible).recorder =
      { builder.recorder with scope := builder.recorder.scope.report compatible } := by
  have scope := scope_report builder.currentLayer compatible
  simp only [updateLayerOpacityCompatibility, updateLayer, recorder, scope]

@[simp]
theorem recorder_updateLayerResult (result : OpResult) :
    (builder.updateLayerResult result).recorder = builder.recorder := by
  cases result <;> rfl

/-! ## Bounds -/

/-- Only what is accumulated differs. -/
def OnlyBounds (next : DisplayListBuilder kit) : Prop :=
  next = { builder with
    accumulator := next.accumulator
    layerAccumulators := next.layerAccumulators }

variable {builder} {next : DisplayListBuilder kit}

theorem OnlyBounds.recorder_eq (only : builder.OnlyBounds next) :
    next.recorder = builder.recorder :=
  (congrArg recorder only :)

theorem OnlyBounds.refl (builder : DisplayListBuilder kit) : builder.OnlyBounds builder := rfl

theorem OnlyBounds.trans {last : DisplayListBuilder kit} (first : builder.OnlyBounds next)
    (second : next.OnlyBounds last) : builder.OnlyBounds last := by
  unfold OnlyBounds at first second ⊢
  rw [second, first]

theorem onlyBounds_accumulateInLayer (info : SaveInfo p) (bounds : SkRect p.Scalar) :
    builder.OnlyBounds (builder.accumulateInLayer info bounds) := by
  unfold accumulateInLayer
  cases info.layerAccumulator with
  | none => rfl
  | some target => rfl

theorem onlyBounds_accumulate (deviceBounds : SkRect p.Scalar)
    (layerBounds : DisplayListMatrixClipTracker kit.toSkGeometry → SkRect p.Scalar) :
    builder.OnlyBounds (builder.accumulate deviceBounds layerBounds) := by
  have device : builder.OnlyBounds { builder with
      accumulator := builder.accumulator.accumulate deviceBounds builder.opIndex } := rfl
  unfold accumulate
  dsimp only
  split
  · exact device
  · exact device.trans (onlyBounds_accumulateInLayer _ _)

section Accumulating

variable {P : DisplayListBuilder kit → Prop}
  (accumulates : ∀ {builder : DisplayListBuilder kit} deviceBounds layerBounds,
    P builder → P (builder.accumulate deviceBounds layerBounds))

include accumulates

theorem accumulateUnbounded_keeps (holds : P builder)
    (accumulated : builder.accumulateUnbounded = some next) : P next := by
  simp only [accumulateUnbounded, Option.ite_none_left_eq_some, Option.some.injEq] at accumulated
  exact accumulated.2 ▸ accumulates _ _ holds

theorem accumulateUnbounded_getD_keeps (holds : P builder) :
    P (builder.accumulateUnbounded.getD builder) := by
  cases accumulated : builder.accumulateUnbounded with
  | none => exact holds
  | some next => exact accumulateUnbounded_keeps accumulates holds accumulated

variable {flags : DisplayListAttributeFlags}

theorem accumulateOpBounds_keeps {bounds : SkRect p.Scalar}
    (holds : P builder) (accumulated : builder.accumulateOpBounds bounds flags = some next) :
    P next := by
  unfold accumulateOpBounds at accumulated
  split at accumulated
  · simp only [accumulateBounds, Option.ite_none_left_eq_some, Option.map_eq_some_iff]
      at accumulated
    obtain ⟨-, deviceBounds, -, rfl⟩ := accumulated
    exact accumulates _ _ holds
  · exact accumulateUnbounded_keeps accumulates holds accumulated

theorem accumulateRects_keeps {rects : List (SkRect p.Scalar)}
    (holds : P builder) (accumulated : accumulateRects flags builder rects = some next) :
    P next := by
  induction rects generalizing builder next with
  | nil => cases accumulated
  | cons bounds rects ih =>
    simp only [accumulateRects] at accumulated
    split at accumulated
    · exact ih holds accumulated
    · next first accumulatedFirst =>
        have first := accumulateOpBounds_keeps accumulates holds accumulatedFirst
        cases accumulated
        cases rest : accumulateRects flags _ rects with
        | none => exact first
        | some last => exact ih first rest

theorem accumulateContent_keeps {content : DrawContent p} (holds : P builder)
    (accumulated : builder.accumulateContent content = some next) : P next := by
  cases content with
  | unbounded => exact accumulateUnbounded_keeps accumulates holds accumulated
  | bounds rects flags => exact accumulateRects_keeps accumulates holds accumulated

end Accumulating

theorem onlyBounds_accumulateUnbounded_getD :
    builder.OnlyBounds (builder.accumulateUnbounded.getD builder) :=
  accumulateUnbounded_getD_keeps (fun _ _ only => only.trans (onlyBounds_accumulate _ _))
    (.refl builder)

theorem onlyBounds_accumulateContent {content : DrawContent p}
    (accumulated : builder.accumulateContent content = some next) : builder.OnlyBounds next :=
  accumulateContent_keeps (fun _ _ only => only.trans (onlyBounds_accumulate _ _))
    (.refl builder) accumulated

end DisplayListBuilder

namespace DisplayListBuilder

open Recorder

variable (builder : DisplayListBuilder kit)

/-! ## Attributes -/

theorem record_step {call : AttributeCall p} {op : AttributeOp p} (sets : op.call = call)
    (notPlain : ∀ color, call ≠ .setColorSource (some (.color color)))
    (same : (builder.current.set call).opacityCompatible = builder.current.opacityCompatible) :
    Step kit builder.recorder (.set call) (builder.record call op).recorder :=
  .setAttribute sets notPlain (.inr ⟨rfl, same⟩)

theorem recordUpdate_step {call : AttributeCall p} {op : AttributeOp p} (sets : op.call = call)
    (notPlain : ∀ color, call ≠ .setColorSource (some (.color color))) :
    Step kit builder.recorder (.set call)
      (builder.record call op).updateCurrentOpacityCompatibility.recorder :=
  .setAttribute sets notPlain (.inl rfl)

theorem recorder_setColor (color : DlColor) :
    (builder.setColor color).recorder = builder.recorder.setColor color := by
  have current : builder.recorder.current = builder.current := rfl
  unfold setColor Recorder.setColor
  rw [current]
  split
  · rfl
  · rfl

theorem onSetColorSource_step (source : Option (DlColorSource p)) :
    Step kit builder.recorder (.set (.setColorSource source))
      (builder.onSetColorSource source).recorder := by
  unfold onSetColorSource
  cases source with
  | none => exact builder.record_step rfl (fun _ => nofun) rfl
  | some source =>
    cases source with
    | color color =>
      simp only [recorder_setColor]
      exact .setPlainColorSource
    | image image => exact record_step _ rfl (fun _ => nofun) rfl
    | linearGradient gradient => exact record_step _ rfl (fun _ => nofun) rfl
    | radialGradient gradient => exact record_step _ rfl (fun _ => nofun) rfl
    | conicalGradient gradient => exact record_step _ rfl (fun _ => nofun) rfl
    | sweepGradient gradient => exact record_step _ rfl (fun _ => nofun) rfl
    | runtimeEffect effect => exact record_step _ rfl (fun _ => nofun) rfl

theorem onSet_step (call : AttributeCall p) :
    Step kit builder.recorder (.set call) (builder.onSet call).recorder := by
  cases call with
  | setAntiAlias aa => exact builder.record_step rfl (fun _ => nofun) rfl
  | setInvertColors invert => exact builder.recordUpdate_step rfl (fun _ => nofun)
  | setStrokeCap cap => exact builder.record_step rfl (fun _ => nofun) rfl
  | setStrokeJoin join => exact builder.record_step rfl (fun _ => nofun) rfl
  | setDrawStyle style => exact builder.record_step rfl (fun _ => nofun) rfl
  | setStrokeWidth width => exact builder.record_step rfl (fun _ => nofun) rfl
  | setStrokeMiter limit => exact builder.record_step rfl (fun _ => nofun) rfl
  | setColor color => exact builder.record_step rfl (fun _ => nofun) rfl
  | setBlendMode mode => exact builder.recordUpdate_step rfl (fun _ => nofun)
  | setColorSource source => exact builder.onSetColorSource_step source
  | setImageFilter filter =>
    refine builder.record_step ?_ (fun _ => nofun) rfl
    cases filter with
    | none => rfl
    | some filter => cases pod : kit.imageFilterIsPod filter <;> simp [pod, AttributeOp.call]
  | setColorFilter filter =>
    refine builder.recordUpdate_step ?_ (fun _ => nofun)
    cases filter <;> rfl
  | setPathEffect effect =>
    refine builder.record_step ?_ (fun _ => nofun) rfl
    cases effect <;> rfl
  | setMaskFilter filter =>
    refine builder.record_step ?_ (fun _ => nofun) rfl
    cases filter <;> rfl

theorem setAttribute_step (call : AttributeCall p) :
    Step kit builder.recorder (.set call) (builder.setAttribute call).recorder := by
  unfold setAttribute
  split
  · exact builder.onSet_step call
  · next same => exact .sameAttribute (Bool.eq_false_iff.mpr same)

/-! ## Transforms and clips -/

@[simp]
theorem recorder_checkForDeferredSave :
    builder.checkForDeferredSave.recorder = builder.recorder.checkForDeferredSave := by
  unfold checkForDeferredSave Recorder.checkForDeferredSave
  cases deferred : builder.currentLayer.hasDeferredSaveOp with
  | false => simp [recorder, SaveInfo.scope, deferred]
  | true =>
    simp only [recorder, SaveInfo.scope, deferred, if_true]
    rfl

theorem recorder_recordTransform (call : TransformCall p) (renderOpInc : Nat)
    (apply : TrackedMatrix kit.toSkGeometry → TrackedMatrix kit.toSkGeometry) :
    (builder.recordTransform call renderOpInc apply).recorder =
      builder.recorder.checkForDeferredSave.push (.transformClip (.transform call)) := by
  rw [← recorder_checkForDeferredSave]
  rfl

/-- The recorder after a transform that may be left out. -/
def recordedTransform (recorder : Recorder p) (made : Option (TransformCall p)) : Recorder p :=
  made.elim recorder fun made =>
    recorder.checkForDeferredSave.push (.transformClip (.transform made))

theorem recorder_recordTransform_ite (recorded : Bool) (call : TransformCall p)
    (renderOpInc : Nat) (apply : TrackedMatrix kit.toSkGeometry → TrackedMatrix kit.toSkGeometry) :
    (if recorded then builder.recordTransform call renderOpInc apply else builder).recorder =
      recordedTransform builder.recorder (if recorded then some call else none) := by
  cases recorded with
  | false => rfl
  | true => exact builder.recorder_recordTransform call renderOpInc apply

theorem recorder_transform2DAffine (mxx mxy mxt myx myy myt : p.Scalar) :
    (builder.transform2DAffine mxx mxy mxt myx myy myt).recorder =
      recordedTransform builder.recorder
        (TransformCall.recorded.affine kit mxx mxy mxt myx myy myt) := by
  unfold transform2DAffine TransformCall.recorded.affine
  split
  · split
    · exact builder.recorder_recordTransform_ite _ _ _ _
    · exact builder.recorder_recordTransform _ _ _
  · rfl

theorem recorder_transform (call : TransformCall p) :
    (builder.transform call).recorder =
      recordedTransform builder.recorder (call.recorded kit) := by
  cases call with
  | translate tx ty => exact builder.recorder_recordTransform_ite _ _ _ _
  | scale sx sy => exact builder.recorder_recordTransform_ite _ _ _ _
  | rotate degrees => exact builder.recorder_recordTransform_ite _ _ _ _
  | skew sx sy => exact builder.recorder_recordTransform_ite _ _ _ _
  | transform2DAffine mxx mxy mxt myx myy myt => exact builder.recorder_transform2DAffine _ _ _ _ _ _
  | transformFullPerspective mxx mxy mxz mxt myx myy myz myt mzx mzy mzz mzt mwx mwy mwz mwt =>
    simp only [transform, transformFullPerspective, TransformCall.recorded]
    split
    · exact builder.recorder_transform2DAffine _ _ _ _ _ _
    · exact builder.recorder_recordTransform_ite _ _ _ _
  | transformReset =>
    change _ = builder.recorder.checkForDeferredSave.push _
    rw [← recorder_checkForDeferredSave]
    rfl

theorem transform_step (call : TransformCall p) :
    Step kit builder.recorder (.transform call) (builder.transform call).recorder := by
  rw [recorder_transform]
  cases recorded : call.recorded kit with
  | none => exact .keepTransform recorded
  | some made => exact .transform recorded

theorem recordClip_step {call made : ClipCall p} {op : TransformClipOp p}
    (tracker : DisplayListMatrixClipTracker kit.toSkGeometry)
    (recorded : call.recorded kit = some made) (clips : op.call = .clip made) :
    Step kit builder.recorder (.clip call) (builder.recordClip tracker op).recorder := by
  unfold recordClip
  dsimp only
  split
  · exact .clipAll
  · next visible =>
      simp only [Bool.or_eq_true, not_or, Bool.not_eq_true] at visible
      have step : Step kit builder.recorder (.clip call) _ := .clip recorded visible.1 clips
      rw [recorder_push, recorder_checkForDeferredSave]
      exact step

/-- A clip to a rectangle which the shape of the call is reduced to. -/
theorem clipRect_step {call : ClipCall p} {rect : SkRect p.Scalar}
    (reduced : call.shape.recorded kit = ClipShape.recorded.finite kit rect) :
    Step kit builder.recorder (.clip call)
      (builder.clipRect rect call.clipOp call.isAA).recorder := by
  unfold clipRect
  unfold ClipShape.recorded.finite at reduced
  split
  · next finite =>
      rw [if_pos finite] at reduced
      have recorded : call.recorded kit = some { call with shape := .rect rect } := by
        simp [ClipCall.recorded, reduced]
      refine builder.recordClip_step _ recorded ?_
      cases call.clipOp <;> rfl
  · next infinite =>
      rw [if_neg infinite] at reduced
      exact .keepClip (by simp [ClipCall.recorded, reduced])

/-- A clip to a rounded rectangle which the shape of the call is reduced to. -/
theorem clipRRect_step {call : ClipCall p} {rrect : p.RRect}
    (reduced : call.shape.recorded kit = ClipShape.recorded.simplified kit rrect) :
    Step kit builder.recorder (.clip call)
      (builder.clipRRect rrect call.clipOp call.isAA).recorder := by
  unfold clipRRect
  unfold ClipShape.recorded.simplified at reduced
  split
  · next isRect =>
      rw [if_pos isRect] at reduced
      exact builder.clipRect_step reduced
  · next isRounded =>
      rw [if_neg isRounded] at reduced
      have recorded : call.recorded kit = some { call with shape := .rrect rrect } := by
        simp [ClipCall.recorded, reduced]
      refine builder.recordClip_step _ recorded ?_
      cases call.clipOp <;> rfl

theorem clip_step (call : ClipCall p) :
    Step kit builder.recorder (.clip call) (builder.clip call).recorder := by
  obtain ⟨shape, clipOp, isAA⟩ := call
  cases shape with
  | rect rect => exact builder.clipRect_step rfl
  | rrect rrect => exact builder.clipRRect_step rfl
  | path path =>
    simp only [clip, clipPath]
    cases reduced : pathShape kit path with
    | rect rect =>
      refine builder.clipRect_step ?_
      simp [ClipShape.recorded, reduced]
    | rrect rrect =>
      refine builder.clipRRect_step ?_
      simp [ClipShape.recorded, reduced]
    | path shape =>
      have recorded : ClipCall.recorded kit ⟨.path path, clipOp, isAA⟩ =
          some ⟨.path shape, clipOp, isAA⟩ := by
        simp [ClipCall.recorded, ClipShape.recorded, reduced]
      refine builder.recordClip_step _ recorded ?_
      cases clipOp <;> rfl

/-! ## Draws -/

theorem drawStep_op (call : DrawCall p) : (builder.drawStep call).op.call = call.recorded kit := by
  cases call with
  | drawRRect rrect =>
    simp only [drawStep, drawRRect, DrawCall.recorded]
    split
    · rfl
    · split <;> rfl
  | drawPoints mode pts => cases mode <;> rfl
  | drawImage image point sampling renderWithAttributes => cases renderWithAttributes <;> rfl
  | drawImageNine image center dst filter renderWithAttributes =>
    cases renderWithAttributes <;> rfl
  | drawAtlas atlas sprites colors mode sampling cullRect renderWithAttributes =>
    cases cullRect <;> rfl
  | drawShadow path color elevation transparentOccluder dpr => cases transparentOccluder <;> rfl
  | _ => rfl

theorem drawStep_compatible (call : DrawCall p) :
    (builder.drawStep call).compatible =
      call.inheritsOpacity kit builder.current builder.currentOpacityCompatibility := by
  have hairline : builder.opacityHairlineCompatible =
      (builder.currentOpacityCompatibility && !builder.current.isHairline kit) := by
    simp [opacityHairlineCompatible, DlPaint.isHairline, bne]
  cases call with
  | drawRRect rrect =>
    simp only [drawStep, drawRRect, DrawCall.inheritsOpacity]
    split
    · rfl
    · split <;> rfl
  | drawPath path => exact hairline
  | drawArc bounds start sweep useCenter =>
    cases useCenter with
    | false => rfl
    | true => exact hairline
  | _ => rfl

/-- A draw in a scope that is a nop has no effect. -/
theorem drawStep_visible {call : DrawCall p} (effect : (builder.drawStep call).result ≠ .noEffect) :
    builder.currentLayer.isNop = false := by
  refine Bool.eq_false_iff.mpr fun nop => effect ?_
  have noEffect : ∀ paint flags, builder.paintResult paint flags = .noEffect :=
    fun _ _ => if_pos nop
  cases call with
  | drawRRect rrect =>
    simp only [drawStep, drawRRect]
    split
    · exact noEffect _ _
    · split <;> exact noEffect _ _
  | drawDisplayList displayList opacity => simp [drawStep, drawDisplayList, nop]
  | _ => exact noEffect _ _

theorem draw_step (call : DrawCall p) :
    Step kit builder.recorder (.draw call) (builder.draw call).recorder := by
  unfold draw render
  split
  · exact .skipDraw
  · next effect =>
      cases accumulated : builder.accumulateContent (builder.drawStep call).content with
      | none => exact .skipDraw
      | some next =>
        have same := (onlyBounds_accumulateContent accumulated).recorder_eq
        have step : Step kit builder.recorder (.draw call) _ :=
          .draw (builder.drawStep_visible effect) (builder.drawStep_op call)
        have recorded : (((next.push (.draw (builder.drawStep call).op) 1)
            |>.updateLayerOpacityCompatibility (builder.drawStep call).compatible)
            |>.updateLayerResult (builder.drawStep call).result).recorder =
              { builder.recorder.push (.draw (builder.drawStep call).op) with
                scope := builder.recorder.scope.report
                  (call.inheritsOpacity kit builder.recorder.current
                    builder.recorder.currentOpacityCompatibility) } := by
          rw [recorder_updateLayerResult, recorder_report, recorder_push, same,
            drawStep_compatible]
          rfl
        exact recorded ▸ step

/-! ## Saves and layers -/

theorem save_step : Step kit builder.recorder .save builder.save.recorder := .save

theorem recorder_pushSaveLayer (recordBounds : SkRect p.Scalar) (options : SaveLayerOptions)
    (backdrop : Option p.ImageFilter) :
    (builder.pushSaveLayer recordBounds options backdrop).recorder =
      builder.recorder.push (.save (layerOp options recordBounds backdrop) 0) := by
  unfold pushSaveLayer layerOp
  cases backdrop with
  | none => rfl
  | some backdrop => rw [recorder_push, onlyBounds_accumulateUnbounded_getD.recorder_eq]

@[simp]
theorem recorder_clipLayer (bounds : SkRect p.Scalar) (options : SaveLayerOptions) :
    (builder.clipLayer bounds options).recorder = builder.recorder := by
  unfold clipLayer
  split
  · rfl
  · split <;> rfl

theorem recorder_floodParent (options : SaveLayerOptions) :
    (builder.floodParent options).recorder = builder.recorder := by
  unfold floodParent
  split
  · exact onlyBounds_accumulateUnbounded_getD.recorder_eq
  · rfl

theorem recorder_openLayer (bounds : SkRect p.Scalar) (options : SaveLayerOptions)
    (backdrop : Option p.ImageFilter) :
    ∃ rect, (builder.openLayer bounds options backdrop).recorder =
      builder.recorder.saveLayer (layerOp options rect backdrop)
        (!options.rendersWithAttributes || builder.recorder.currentOpacityCompatibility) false := by
  have pushLayer : ∀ reported : DisplayListBuilder kit,
      (reported.pushLayer bounds options).recorder = { reported.recorder with
        scope :=
          { saveOffset := reported.recorder.storage.length
            isSaveLayer := true }
        outer := reported.recorder.scope :: reported.recorder.outer } := fun _ => rfl
  refine ⟨if options.boundsFromCaller then bounds else kit.emptyRect, ?_⟩
  unfold openLayer
  dsimp only
  rw [recorder_pushSaveLayer, pushLayer, recorder_report]
  rfl

theorem recorder_reportAttributes (options : SaveLayerOptions) :
    (builder.reportAttributes options).recorder = builder.recorder ∨
      (builder.reportAttributes options).recorder =
        { builder.recorder with scope := builder.recorder.scope.report false } := by
  unfold reportAttributes
  split
  · exact .inr (builder.recorder_report false)
  · exact .inl rfl

theorem saveLayer_step (bounds : SkRect p.Scalar) (options : SaveLayerOptions)
    (backdrop : Option p.ImageFilter) :
    Step kit builder.recorder (.saveLayer bounds options backdrop)
      (builder.saveLayer bounds options backdrop).recorder := by
  unfold saveLayer saveLayerWith
  dsimp only
  split
  · have step : Step kit builder.recorder (.saveLayer bounds options backdrop)
        (builder.recorder.save true) := .saveNopLayer
    exact step
  · next effect =>
      have visible : builder.recorder.scope.isNop = false :=
        Bool.eq_false_iff.mpr fun nop => effect (if_pos nop)
      obtain ⟨rect, opened⟩ := (builder.floodParent options.withoutOptimizations).recorder_openLayer
        bounds options.withoutOptimizations backdrop
      rw [recorder_floodParent] at opened
      rw [recorder_clipLayer, recorder_updateLayerResult]
      rcases recorder_reportAttributes
        ((builder.floodParent options.withoutOptimizations).openLayer bounds
          options.withoutOptimizations backdrop) options.withoutOptimizations with same | denied
      · rw [same, opened]
        exact .saveLayer visible rect false
      · rw [denied, opened]
        exact .saveLayer visible rect true

/-! ## Restores -/

@[simp]
theorem recorder_recordRestore :
    builder.recordRestore.recorder = builder.recorder.recordRestore := by
  have deferred : builder.recorder.scope.hasDeferredSaveOp =
      builder.currentLayer.hasDeferredSaveOp := rfl
  unfold recordRestore Recorder.recordRestore
  rw [deferred]
  dsimp only
  split
  · rfl
  · rfl

theorem recorder_restoreAccumulator (filter : Option p.ImageFilter) :
    (builder.restoreAccumulator filter).1.recorder = builder.recorder := by
  cases filter <;> rfl

theorem recorder_syncSave (info parent : SaveInfo p) :
    (builder.syncSave info parent).1.recorder = builder.recorder ∧
      (builder.syncSave info parent).2.scope = parent.scope.merge info.scope := by
  refine ⟨rfl, ?_⟩
  have cannot : info.scope.cannotInheritOpacity = info.cannotInheritOpacity := rfl
  have compatible : info.scope.hasCompatibleOp = info.hasCompatibleOp := rfl
  simp only [syncSave, Recorder.Scope.merge, cannot, compatible]
  split
  · rfl
  · split
    · exact scope_addCompatibleOp parent
    · rfl

omit [SkScalar p.Scalar] in
theorem scope_setUnbounded (parent : SaveInfo p) (success : Bool) :
    (if success then parent else parent.setUnbounded).scope = parent.scope := by
  cases success <;> rfl

theorem recorder_syncSaveLayer (info parent : SaveInfo p) (moved : Bool) :
    (∃ rect clipped, (builder.syncSaveLayer info parent moved).1.recorder =
      if moved then builder.recorder else builder.recorder.patchLayer info.scope rect clipped) ∧
    (builder.syncSaveLayer info parent moved).2.scope = parent.scope := by
  unfold syncSaveLayer
  dsimp only
  refine ⟨?_, ?_⟩
  · cases moved with
    | true =>
      refine ⟨kit.emptyRect, false, ?_⟩
      split
      · rw [(onlyBounds_accumulateInLayer _ _).recorder_eq]
        rfl
      · rfl
    | false =>
      split
      · refine ⟨?rect, ?clipped, ?patched⟩
        case patched =>
          rw [(onlyBounds_accumulateInLayer _ _).recorder_eq]
          rfl
      · exact ⟨_, _, rfl⟩
  · split
    · exact scope_setUnbounded parent _
    · rfl

/-- What is left to do once a scope is left only changes bounds. -/
theorem recorder_leave (info : SaveInfo p) (parent : SaveInfo p) (parents : List (SaveInfo p))
    (tracker : DisplayListMatrixClipTracker kit.toSkGeometry) :
    (let left := { builder with
        currentLayer := parent
        parents
        tracker }
      let (left, success) := left.restoreAccumulator info.filter
      if info.isUnbounded || !success then left.accumulateUnbounded.getD left else left).recorder =
    { builder.recorder with
      scope := parent.scope
      outer := parents.map SaveInfo.scope } := by
  dsimp only
  split
  · rw [onlyBounds_accumulateUnbounded_getD.recorder_eq, recorder_restoreAccumulator]
    rfl
  · rw [recorder_restoreAccumulator]
    rfl

theorem restore_step : Step kit builder.recorder .restore builder.restore.recorder := by
  unfold restore
  cases stack : builder.parents with
  | nil => exact .restoreNothing (by simp [recorder, stack])
  | cons parent parents =>
    have outer : builder.recorder.outer = parent.scope :: parents.map SaveInfo.scope := by
      simp [recorder, stack]
    dsimp only
    rw [recorder_leave]
    cases isLayer : builder.currentLayer.isSaveLayer with
    | false =>
      obtain ⟨recorded, merged⟩ :=
        builder.recordRestore.recorder_syncSave builder.currentLayer parent
      rw [if_neg nofun, recorded, merged, recorder_recordRestore]
      exact .restoreSave outer isLayer
    | true =>
      obtain ⟨⟨rect, clipped, recorded⟩, same⟩ := builder.recordRestore.recorder_syncSaveLayer
        builder.currentLayer parent (builder.moves .restore)
      rw [if_pos rfl, recorded, same, recorder_recordRestore]
      cases builder.moves .restore with
      | false => exact .restoreLayer outer isLayer rect clipped
      | true => exact .restoreMovedLayer outer isLayer

/-! ## Runs -/

theorem receive_step (call : ReceiverCall p) :
    Step kit builder.recorder call (builder.receive call).recorder := by
  cases call with
  | set call => exact builder.setAttribute_step call
  | save => exact builder.save_step
  | saveLayer bounds options backdrop => exact builder.saveLayer_step bounds options backdrop
  | restore => exact builder.restore_step
  | transform call => exact builder.transform_step call
  | clip call => exact builder.clip_step call
  | draw call => exact builder.draw_step call

section Keeping

variable {P : DisplayListBuilder kit → Prop}
  (receives : ∀ {builder : DisplayListBuilder kit} call, P builder → P (builder.receive call))

include receives

variable {builder}

/-- What every call of a receiver keeps, some of them keep. -/
theorem receiveAll_keeps (holds : P builder) (calls : List (ReceiverCall p)) :
    P (builder.receiveAll calls) := by
  induction calls generalizing builder with
  | nil => exact holds
  | cons call calls ih => exact ih (receives call holds)

theorem run_keeps (holds : P builder) (calls : List (BuilderCall kit)) : P (builder.run calls) := by
  rw [run_eq]
  exact receiveAll_keeps receives holds _

theorem restoreAll_keeps (holds : P builder) : P builder.restoreAll := by
  rw [restoreAll, ← receiveAll_restore]
  exact receiveAll_keeps receives holds _

end Keeping

/-- A restore leaves one scope. -/
theorem length_parents_restore : builder.restore.parents.length = builder.parents.length - 1 := by
  have left := congrArg List.length builder.restore_step.outer_restore
  simpa [recorder] using left

/-- Once everything is restored, nothing is open. -/
theorem parents_restoreAll : builder.restoreAll.parents = [] := by
  have opened : ∀ count, (restore^[count] builder).parents.length =
      builder.parents.length - count := by
    intro count
    induction count with
    | zero => rfl
    | succ count ih =>
      rw [Function.iterate_succ_apply', length_parents_restore, ih]
      omega
  exact List.length_eq_zero_iff.mp (by rw [restoreAll, opened, Nat.sub_self])

end DisplayListBuilder

end FlutterEngine.DisplayList
