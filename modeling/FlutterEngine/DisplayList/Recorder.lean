import FlutterEngine.DisplayList.DlBuilderCalls

/-!
# What a builder records

A `Recorder` is a builder without its bounds, clips and counters. Which draws are culled
and which clips leave nothing visible is open here: `Recorder.Step` has every outcome of a
call.
-/

namespace FlutterEngine.DisplayList

variable {p : Payloads} [SkScalar p.Scalar]

/-! ## Calls as they are recorded -/

/-- The transform that a call amounts to; none when it is left out. -/
def TransformCall.recorded (kit : Toolkit p) : TransformCall p → Option (TransformCall p)
  | translate tx ty => translated tx ty
  | scale sx sy =>
    if kit.isFinite sx && kit.isFinite sy && (sx != kit.literal 1 || sy != kit.literal 1) then
      some (scale sx sy)
    else none
  | rotate degrees =>
    if kit.mod degrees (kit.literal 360) != kit.literal 0 then some (rotate degrees) else none
  | skew sx sy =>
    if kit.isFinite sx && kit.isFinite sy && (sx != kit.literal 0 || sy != kit.literal 0) then
      some (skew sx sy)
    else none
  | transform2DAffine mxx mxy mxt myx myy myt => affine mxx mxy mxt myx myy myt
  | transformFullPerspective mxx mxy mxz mxt myx myy myz myt mzx mzy mzz mzt mwx mwy mwz mwt =>
    let zero := kit.literal 0
    let one := kit.literal 1
    if mxz == zero && myz == zero && mzx == zero && mzy == zero && mzz == one &&
        mzt == zero && mwx == zero && mwy == zero && mwz == zero && mwt == one then
      affine mxx mxy mxt myx myy myt
    else if [mxx, mxy, mxz, mxt, myx, myy, myz, myt, mzx, mzy, mzz, mzt, mwx, mwy, mwz,
        mwt].all kit.isFinite then
      some (transformFullPerspective
        mxx mxy mxz mxt myx myy myz myt mzx mzy mzz mzt mwx mwy mwz mwt)
    else none
  | transformReset => some transformReset
where
  /-- Not by zero, nor by what is not finite. -/
  translated (tx ty : p.Scalar) : Option (TransformCall p) :=
    if kit.isFinite tx && kit.isFinite ty && (tx != kit.literal 0 || ty != kit.literal 0) then
      some (translate tx ty)
    else none
  affine (mxx mxy mxt myx myy myt : p.Scalar) : Option (TransformCall p) :=
    if [mxx, myx, mxy, myy, mxt, myt].all kit.isFinite then
      if mxx == kit.literal 1 && mxy == kit.literal 0 && myx == kit.literal 0 &&
          myy == kit.literal 1 then
        translated mxt myt
      else some (transform2DAffine mxx mxy mxt myx myy myt)
    else none

/-- The simplest shape; none when it is a rectangle that is not finite. -/
def ClipShape.recorded (kit : Toolkit p) : ClipShape p → Option (ClipShape p)
  | rect bounds => finite bounds
  | rrect rounded => simplified rounded
  | path shape =>
    match DisplayListBuilder.pathShape kit shape with
    | rect bounds => finite bounds
    | rrect rounded => simplified rounded
    | path shape => some (path shape)
where
  finite (bounds : SkRect p.Scalar) : Option (ClipShape p) :=
    if kit.rectIsFinite bounds then some (rect bounds) else none
  simplified (rounded : p.RRect) : Option (ClipShape p) :=
    if kit.isRect rounded then finite (kit.getBounds rounded) else some (rrect rounded)

def ClipCall.recorded (kit : Toolkit p) (call : ClipCall p) : Option (ClipCall p) :=
  (call.shape.recorded kit).map fun shape => { call with shape }

/-- The simplest rounded rectangle, and an opacity of at most one. -/
def DrawCall.recorded (kit : Toolkit p) : DrawCall p → DrawCall p
  | drawRRect rounded =>
    if kit.isRect rounded then drawRect (kit.getBounds rounded)
    else if kit.rrectIsOval rounded then drawOval (kit.getBounds rounded)
    else drawRRect rounded
  | drawDisplayList displayList opacity =>
    drawDisplayList displayList (if opacity < kit.literal 1 then opacity else kit.literal 1)
  | call => call

/-! ## Opacity -/

/-- Whether a draw with these attributes can inherit an opacity. -/
def DlPaint.opacityCompatible (paint : DlPaint p) : Bool :=
  paint.colorFilter.isNone && !paint.isInvertColors &&
    DisplayListBuilder.isOpacityCompatible paint.blendMode

/-- The same of a draw whose strokes may overlap when they are not hairlines. -/
def DlPaint.isHairline (kit : Toolkit p) (paint : DlPaint p) : Bool :=
  paint.drawStyle != .fill && !decide (kit.literal 0 < paint.strokeWidth)

/-- Whether the draw can inherit an opacity when its attributes can or cannot. -/
def DrawCall.inheritsOpacity (kit : Toolkit p) (paint : DlPaint p) (compatible : Bool) :
    DrawCall p → Bool
  | drawPaint | drawLine _ _ | drawRect _ | drawOval _ | drawCircle _ _ | drawRRect _
  | drawDRRect _ _ | drawArc _ _ _ false => compatible
  | drawPath _ | drawArc _ _ _ true => compatible && !paint.isHairline kit
  | drawColor _ mode => DisplayListBuilder.isOpacityCompatible mode
  | drawImage _ _ _ renderWithAttributes | drawImageRect _ _ _ _ renderWithAttributes _
  | drawImageNine _ _ _ _ renderWithAttributes => !renderWithAttributes || compatible
  | drawDisplayList displayList _ => kit.nestedCanApplyGroupOpacity displayList
  | drawPoints _ _ | drawVertices _ _ | drawAtlas _ _ _ _ _ _ _ | drawTextBlob _ _ _
  | drawTextFrame _ _ _ | drawShadow _ _ _ _ _ => false

/-! ## The state -/

/-- What `SaveInfo` keeps for recording. -/
structure Recorder.Scope where
  saveOffset : Nat := 0
  isSaveLayer : Bool := false
  hasDeferredSaveOp : Bool := false
  isNop : Bool := false
  cannotInheritOpacity : Bool := false
  hasCompatibleOp : Bool := false

structure Recorder (p : Payloads) where
  storage : List (DLOp p)
  opIndex : Nat
  current : DlPaint p
  currentOpacityCompatibility : Bool
  scope : Recorder.Scope
  outer : List Recorder.Scope

namespace Recorder

namespace Scope

/-- An operation is reported. -/
def report (scope : Scope) (compatible : Bool) : Scope :=
  if compatible && !scope.hasCompatibleOp then
    if scope.cannotInheritOpacity then scope else { scope with hasCompatibleOp := true }
  else { scope with cannotInheritOpacity := true }

/-- What a save inside reported is passed on. -/
def merge (scope inner : Scope) : Scope :=
  if inner.cannotInheritOpacity then { scope with cannotInheritOpacity := true }
  else if inner.hasCompatibleOp then scope.report true
  else scope

end Scope

variable (recorder : Recorder p)

def push (op : DLOp p) : Recorder p :=
  { recorder with
    storage := recorder.storage ++ [op]
    opIndex := recorder.opIndex + 1 }

def patch (offset : Nat) (change : DLOp p → DLOp p) : Recorder p :=
  { recorder with storage := recorder.storage.modify offset change }

def checkForDeferredSave : Recorder p :=
  if recorder.scope.hasDeferredSaveOp then
    { recorder.push (.save .save 0) with
      scope := { recorder.scope with
        saveOffset := recorder.storage.length
        hasDeferredSaveOp := false } }
  else recorder

def recordRestore : Recorder p :=
  if recorder.scope.hasDeferredSaveOp then recorder
  else (recorder.patch recorder.scope.saveOffset (.withRestoreIndex recorder.opIndex)).push .restore

end Recorder

/-! ## Steps -/

/-- The record of a layer. -/
def layerOp (options : SaveLayerOptions) (rect : SkRect p.Scalar)
    (backdrop : Option p.ImageFilter) : SaveOp p :=
  match backdrop with
  | none => .saveLayer options rect
  | some backdrop => .saveLayerBackdrop options rect backdrop

namespace Recorder

variable (recorder : Recorder p)

def setColor (color : DlColor) : Recorder p :=
  if recorder.current.color != color then
    { recorder.push (.set (.setColor color)) with
      current := recorder.current.set (.setColor color) }
  else recorder

def save (isNop : Bool) : Recorder p :=
  { recorder with
    scope := { hasDeferredSaveOp := true, isNop }
    outer := recorder.scope :: recorder.outer }

def saveLayer (op : SaveOp p) (compatible cannotInheritOpacity : Bool) : Recorder p :=
  { recorder.push (.save op 0) with
    scope :=
      { saveOffset := recorder.storage.length
        isSaveLayer := true
        cannotInheritOpacity }
    outer := recorder.scope.report compatible :: recorder.outer }

/-- Leave the current scope. -/
def leave (scope : Scope) (outer : List Scope) : Recorder p :=
  { recorder.recordRestore with
    scope
    outer }

/-- Change the record of the layer that was left. -/
def patchLayer (scope : Scope) (rect : SkRect p.Scalar) (clipped : Bool) : Recorder p :=
  recorder.patch scope.saveOffset (.withContent rect clipped !scope.cannotInheritOpacity)

/-- The outcomes of a call. -/
inductive Step (kit : Toolkit p) (recorder : Recorder p) : ReceiverCall p → Recorder p → Prop where
  | sameAttribute {call} (same : DisplayListBuilder.changes kit recorder.current call = false) :
      Step kit recorder (.set call) recorder
  | setAttribute {call op compatible} (sets : op.call = call)
      (notPlain : ∀ color, call ≠ .setColorSource (some (.color color)))
      (compatibility : compatible = (recorder.current.set call).opacityCompatible ∨
        compatible = recorder.currentOpacityCompatibility ∧
          (recorder.current.set call).opacityCompatible = recorder.current.opacityCompatible) :
      Step kit recorder (.set call)
        { recorder.push (.set op) with
          current := recorder.current.set call
          currentOpacityCompatibility := compatible }
  | setPlainColorSource {color} :
      Step kit recorder (.set (.setColorSource (some (.color color))))
        ({ recorder with current := recorder.current.set (.setColorSource none) }.setColor color)
  | save : Step kit recorder .save (recorder.save recorder.scope.isNop)
  | saveNopLayer {bounds options backdrop} :
      Step kit recorder (.saveLayer bounds options backdrop) (recorder.save true)
  | saveLayer {bounds options backdrop} (visible : recorder.scope.isNop = false)
      (rect : SkRect p.Scalar) (cannotInheritOpacity : Bool) :
      Step kit recorder (.saveLayer bounds options backdrop)
        (recorder.saveLayer (layerOp options.withoutOptimizations rect backdrop)
          (!options.rendersWithAttributes || recorder.currentOpacityCompatibility)
          cannotInheritOpacity)
  | restoreNothing (bottom : recorder.outer = []) : Step kit recorder .restore recorder
  | restoreSave {parent outer} (stack : recorder.outer = parent :: outer)
      (isSave : recorder.scope.isSaveLayer = false) :
      Step kit recorder .restore (recorder.leave (parent.merge recorder.scope) outer)
  | restoreLayer {parent outer} (stack : recorder.outer = parent :: outer)
      (isLayer : recorder.scope.isSaveLayer = true) (rect : SkRect p.Scalar) (clipped : Bool) :
      Step kit recorder .restore
        ((recorder.leave parent outer).patchLayer recorder.scope rect clipped)
  /-- The record can no longer be changed. -/
  | restoreMovedLayer {parent outer} (stack : recorder.outer = parent :: outer)
      (isLayer : recorder.scope.isSaveLayer = true) :
      Step kit recorder .restore (recorder.leave parent outer)
  | keepTransform {call} (nothing : call.recorded kit = none) :
      Step kit recorder (.transform call) recorder
  | transform {call made} (recorded : call.recorded kit = some made) :
      Step kit recorder (.transform call)
        (recorder.checkForDeferredSave.push (.transformClip (.transform made)))
  | keepClip {call} (nothing : call.recorded kit = none) :
      Step kit recorder (.clip call) recorder
  | clipAll {call} :
      Step kit recorder (.clip call)
        { recorder with scope := { recorder.scope with isNop := true } }
  | clip {call made op} (recorded : call.recorded kit = some made)
      (visible : recorder.scope.isNop = false) (clips : op.call = .clip made) :
      Step kit recorder (.clip call) (recorder.checkForDeferredSave.push (.transformClip op))
  | skipDraw {call} : Step kit recorder (.draw call) recorder
  | draw {call op} (visible : recorder.scope.isNop = false) (draws : op.call = call.recorded kit) :
      Step kit recorder (.draw call)
        { recorder.push (.draw op) with
          scope := recorder.scope.report
            (call.inheritsOpacity kit recorder.current recorder.currentOpacityCompatibility) }

/-! ## Opacity compatibility -/

/-- The attributes and what is known of their compatibility are as before. -/
def SameAttributes (recorder next : Recorder p) : Prop :=
  next.current = recorder.current ∧
    next.currentOpacityCompatibility = recorder.currentOpacityCompatibility

omit [SkScalar p.Scalar] in
theorem sameAttributes_checkForDeferredSave :
    recorder.SameAttributes recorder.checkForDeferredSave := by
  unfold checkForDeferredSave
  split <;> exact ⟨rfl, rfl⟩

omit [SkScalar p.Scalar] in
theorem sameAttributes_leave (scope : Scope) (outer : List Scope) :
    recorder.SameAttributes (recorder.leave scope outer) := by
  unfold leave recordRestore
  split <;> exact ⟨rfl, rfl⟩

variable {kit : Toolkit p} {recorder} {next : Recorder p}

/-- Only setters change the attributes. -/
theorem Step.sameAttributes {call : ReceiverCall p} (step : Step kit recorder call next)
    (notSet : ∀ set, call ≠ .set set) : recorder.SameAttributes next := by
  cases step with
  | sameAttribute | setAttribute | setPlainColorSource => exact absurd rfl (notSet _)
  | save | saveNopLayer | saveLayer | restoreNothing | keepTransform | keepClip | clipAll
  | skipDraw | draw => exact ⟨rfl, rfl⟩
  | restoreSave | restoreMovedLayer => exact recorder.sameAttributes_leave _ _
  | @restoreLayer parent outer => exact recorder.sameAttributes_leave parent outer
  | transform | clip => exact recorder.sameAttributes_checkForDeferredSave

/-- A call brings the compatibility up to date, unless the attributes it is about are as
before. -/
theorem Step.compatibility {call : ReceiverCall p} (step : Step kit recorder call next) :
    next.currentOpacityCompatibility = next.current.opacityCompatible ∨
      next.currentOpacityCompatibility = recorder.currentOpacityCompatibility ∧
        next.current.opacityCompatible = recorder.current.opacityCompatible := by
  cases call with
  | set call =>
    cases step with
    | sameAttribute => exact .inr ⟨rfl, rfl⟩
    | setAttribute sets notPlain compatibility => exact compatibility
    | setPlainColorSource =>
      refine .inr ?_
      unfold setColor
      split <;> exact ⟨rfl, rfl⟩
  | _ =>
    obtain ⟨current, compatible⟩ := step.sameAttributes (fun _ => nofun)
    exact .inr ⟨compatible, congrArg _ current⟩

end Recorder

end FlutterEngine.DisplayList
