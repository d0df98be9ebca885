import FlutterEngine.Flow.LayerRuns

/-!
# The operations of nested layers

What a canvas does to an image that is drawn on it is an operation, and operations compose as a
monoid, the outer one on the left. The attributes that the state stack holds back are what is
missing on the canvas: its operation times that of a paint with these attributes is the
composition of all mutations, in nesting order. One opacity is held back for all that are nested
in it, and a paint rounds it once.
-/

namespace FlutterEngine.Flow

open FlutterEngine.Std DisplayList

universe u

variable {p : Payloads} [SkScalar p.Scalar]

/-- What the calls of a canvas do to an image. The last fields are what the state stack relies on
when it leaves out a transform or makes another one. -/
structure LayerOperations (kit : LayerToolkit p) (Operation : Type u) [Monoid Operation] where
  alpha : Nat → Operation
  colorFilter : p.ColorFilter → Operation
  imageFilter : p.ImageFilter → Operation
  /-- A transform or a clip, and the transform of the canvas that it is made under. -/
  act : kit.CanvasTransform → DelegateCall kit → Operation
  act_alpha : ∀ transform call value, Commute (act transform call) (alpha value)
  act_colorFilter : ∀ transform call filter, Commute (act transform call) (colorFilter filter)
  alpha_colorFilter : ∀ value filter, kit.canCommuteWithOpacity filter = true →
    Commute (alpha value) (colorFilter filter)
  alpha_opaque : alpha (kit.roundToAlpha (kit.literal 1)).toNat = 1
  one_not_lt : ¬kit.literal 1 < kit.literal 1
  translate_zero : ∀ transform tx ty, MutatorCall.translates kit tx ty = false →
    act transform (.translate tx ty) = 1
  transform33_identity : ∀ transform matrix, kit.isIdentity matrix = true →
    act transform (.transform33 matrix) = 1
  transform33_translate : ∀ transform matrix, kit.isTranslate matrix = true →
    act transform (.transform33 matrix) =
      act transform (.translate (kit.getTranslateX matrix) (kit.getTranslateY matrix))
  transform44_is3x3 : ∀ transform m44, TrackedMatrix.is3x3 m44 = true →
    act transform (.transform44 m44) = act transform (.transform33 (kit.asM33 m44))

variable {kit : LayerToolkit p} {Operation : Type u} [Monoid Operation]

namespace LayerOperations

variable (ops : LayerOperations kit Operation)

/-- A paint applies its image filter, then its alpha and then its colour filter. -/
def paint : Option (DlPaint p) → Operation
  | none => 1
  | some paint => paint.colorFilter.elim 1 ops.colorFilter * ops.alpha paint.color.getAlpha *
      paint.imageFilter.elim 1 ops.imageFilter

/-- A paint that is filled with these attributes. -/
def fills (attributes : RenderingAttributes p) : Operation :=
  ops.paint (attributes.fill kit .srcOver)

/-- A paint with this opacity alone. -/
def opacity (opacity : p.Scalar) : Operation :=
  ops.fills { RenderingAttributes.default kit with opacity }

/-- A call of the canvas under this transform. -/
def call (transform : kit.CanvasTransform) : DelegateCall kit → Operation
  | .save => 1
  | .saveLayer _ attributes blend _ => ops.paint (attributes.fill kit blend)
  | call => ops.act transform call

/-- What is drawn on a canvas after these calls goes through all of them. -/
def calls : DlCanvas kit → List (DelegateCall kit) → Operation
  | _, [] => 1
  | canvas, call :: rest =>
    ops.call canvas.current.transform call * calls (canvas.move (DlCanvas.delegated call)) rest

/-- A mutation under this transform of the canvas. There is no backdrop filter. -/
def mutation (transform : kit.CanvasTransform) : MutatorCall kit → Operation
  | .saveLayer _ | .applyBackdropFilter .. => 1
  | .applyOpacity _ opacity => ops.opacity opacity
  | .applyImageFilter _ filter => filter.elim 1 ops.imageFilter
  | .applyColorFilter _ filter => filter.elim 1 ops.colorFilter
  | .translate tx ty => ops.act transform (.translate tx ty)
  | .transform33 matrix => ops.act transform (.transform33 matrix)
  | .transform44 m44 => ops.act transform (.transform44 m44)
  | .integralTransform => ops.act transform .integralTransform
  | .clipRect rect isAA => ops.act transform (.clipRect rect .intersect isAA)
  | .clipRRect rrect isAA => ops.act transform (.clipRRect rrect .intersect isAA)
  | .clipPath path isAA => ops.act transform (.clipPath path .intersect isAA)

end LayerOperations

/-- The attributes that a caller with these flags applies itself. -/
def RenderingAttributes.declared (kit : LayerToolkit p) (attributes : RenderingAttributes p)
    (flags : BitVec 32) : RenderingAttributes p where
  saveLayerBounds := attributes.saveLayerBounds
  opacity :=
    if flags &&& LayerStateStack.kCallerCanApplyOpacity == 0 then kit.literal 1
    else attributes.opacity
  colorFilter :=
    if flags &&& LayerStateStack.kCallerCanApplyColorFilter == 0 then none
    else attributes.colorFilter
  imageFilter :=
    if flags &&& LayerStateStack.kCallerCanApplyImageFilter == 0 then none
    else attributes.imageFilter

/-- A run, and the composition of its mutations. -/
structure LayerDrawing (kit : LayerToolkit p) (Operation : Type u) where
  run : LayerRun kit
  composition : Operation

namespace LayerDrawing

/-- The transform of a canvas. -/
def transform (drawing : LayerDrawing kit Operation) (address : Nat) : kit.CanvasTransform :=
  (drawing.run.stack.canvases address).current.transform

/-- What a call does to the composition. -/
def composed (ops : LayerOperations kit Operation) (address : Nat)
    (drawing : LayerDrawing kit Operation) : LayerCall kit → Operation
  | .mutate _ call => drawing.composition * ops.mutation (drawing.transform address) call
  | _ => drawing.composition

/-- Runs on a canvas that was installed at the start. -/
def machine (ops : LayerOperations kit Operation) (canvases : Nat → DlCanvas kit)
    (address : Nat) : Machine (LayerDrawing kit Operation) (LayerCall kit) where
  Initial drawing := drawing =
    ⟨⟨LayerStateStack.setDelegate { canvases := canvases } (some address), []⟩, 1⟩
  step drawing call :=
    (drawing.run.call call).map fun run => ⟨run, drawing.composed ops address call⟩

end LayerDrawing

/-- The call nests a mutation in the ones before, which has no backdrop filter. -/
def LayerCall.Nests : LayerCall kit → Prop
  | .save | .applyState .. => True
  | .mutate _ (.applyBackdropFilter ..) => False
  | .mutate .. => True
  | .endScope | .clearDelegate | .setDelegate _ | .setPrerollDelegate .. => False

/-- An opacity that is nested in one held back is not changed by rounding both at once. -/
def LayerStateStack.RoundsOnce (ops : LayerOperations kit Operation)
    (stack : LayerStateStack kit) : MutatorCall kit → Prop
  | .applyOpacity _ factor =>
    let outer := stack.maybeSaveLayer.outstanding.opacity
    factor < kit.literal 1 →
      ops.opacity (outer * factor) = ops.opacity outer * ops.opacity factor
  | _ => True

def LayerRun.RoundsOnce (ops : LayerOperations kit Operation) (run : LayerRun kit) :
    LayerCall kit → Prop
  | .mutate _ call => run.stack.RoundsOnce ops call
  | _ => True

/-! ## What a paint does -/

namespace LayerOperations

variable {ops : LayerOperations kit Operation} {outstanding : RenderingAttributes p}

/-- The alpha of a paint with this opacity. -/
def fillAlpha (kit : LayerToolkit p) (opacity : p.Scalar) : Nat :=
  (kit.roundToAlpha
    (if opacity < kit.literal 1 then stdMax opacity (kit.literal 0) else kit.literal 1)).toNat

theorem alpha_fillAlpha {opacity : p.Scalar} (full : ¬opacity < kit.literal 1) :
    ops.alpha (fillAlpha kit opacity) = 1 := by
  unfold fillAlpha
  rw [if_neg full]
  exact ops.alpha_opaque

/-- Without attributes there is no paint, and one would do nothing. -/
theorem fills_eq (attributes : RenderingAttributes p) :
    ops.fills attributes = attributes.colorFilter.elim 1 ops.colorFilter *
      ops.alpha (fillAlpha kit attributes.opacity) *
        attributes.imageFilter.elim 1 ops.imageFilter := by
  unfold fills RenderingAttributes.fill
  dsimp only
  split
  · simp only [paint, DlColor.getAlpha_withAlpha, fillAlpha, decide_eq_true_eq]
  · next plain =>
      simp only [Bool.or_eq_true, not_or, decide_eq_true_eq, Option.not_isSome_iff_eq_none]
        at plain
      obtain ⟨⟨⟨full, noColorFilter⟩, noImageFilter⟩, -⟩ := plain
      rw [alpha_fillAlpha full, noColorFilter, noImageFilter, Option.elim_none, Option.elim_none,
        one_mul, one_mul]
      rfl

theorem opacity_eq (opacity : p.Scalar) :
    ops.opacity opacity = ops.alpha (fillAlpha kit opacity) := by
  unfold LayerOperations.opacity
  rw [fills_eq]
  exact (mul_one _).trans (one_mul _)

theorem alpha_default : ops.alpha (fillAlpha kit (RenderingAttributes.default kit).opacity) = 1 :=
  alpha_fillAlpha ops.one_not_lt

theorem fills_default : ops.fills (.default kit) = 1 := by
  rw [fills_eq, alpha_default]
  exact (mul_one _).trans (one_mul _)

/-- What is held back commutes with transforms and clips, but for an image filter. -/
theorem act_commute_fills (noImageFilter : outstanding.imageFilter = none)
    (transform : kit.CanvasTransform) (call : DelegateCall kit) :
    Commute (ops.act transform call) (ops.fills outstanding) := by
  rw [fills_eq, noImageFilter]
  refine .mul_right (.mul_right ?_ (ops.act_alpha ..)) (.one_right _)
  cases outstanding.colorFilter with
  | none => exact .one_right _
  | some filter => exact ops.act_colorFilter ..

theorem calls_concat (canvas : DlCanvas kit) (sent : List (DelegateCall kit))
    (call : DelegateCall kit) :
    ops.calls canvas (sent ++ [call]) = ops.calls canvas sent *
      ops.call (canvas.moves (sent.map DlCanvas.delegated)).current.transform call := by
  induction sent generalizing canvas with
  | nil => exact (mul_one _).trans (one_mul _).symm
  | cons first rest ih =>
    rw [List.cons_append, calls, calls, ih, mul_assoc]
    rfl

end LayerOperations

/-! ## What is held back -/

/-- The canvas has got the calls of the entries, and its operation times that of what is held back
is the composition. -/
structure Holds (ops : LayerOperations kit Operation) (canvases : Nat → DlCanvas kit)
    (address : Nat) (stack : LayerStateStack kit) (composition : Operation) : Prop where
  received : Received canvases (.canvas address) (replay stack.stateStack) stack
  outstanding : stack.outstanding = attributesAfter stack.stateStack
  composed : ops.calls (canvases address) (replay stack.stateStack) *
    ops.fills stack.outstanding = composition

namespace Holds

variable {ops : LayerOperations kit Operation} {canvases : Nat → DlCanvas kit} {address : Nat}
  {stack : LayerStateStack kit} {composition : Operation}

theorem transform_eq (holds : Holds ops canvases address stack composition) :
    (stack.canvases address).current.transform = ((canvases address).moves
      ((replay stack.stateStack).map DlCanvas.delegated)).current.transform := by
  rw [holds.received.2, Function.update_self]

variable {entry : StateEntry kit}

variable (holds : Holds ops canvases address stack composition)

include holds

/-- Push an entry: its call with what is held back after it does what was held back before it
does with the effect. -/
theorem push (plain : entry.plain = entry) {effect : Operation}
    (moves : (entry.call? stack.outstanding).elim 1
        (ops.call (stack.canvases address).current.transform) *
      ops.fills (entry.attributes stack.outstanding) = ops.fills stack.outstanding * effect) :
    Holds ops canvases address (stack.push entry) (composition * effect) := by
  have entries : (stack.push entry).stateStack = entry :: stack.stateStack :=
    StateEntry.apply_stateStack entry
  have attributes : (stack.push entry).outstanding = entry.attributes stack.outstanding :=
    StateEntry.apply_outstanding entry
  have sent : replay (entry :: stack.stateStack) =
      replay stack.stateStack ++ (entry.call? stack.outstanding).toList := by
    rw [replay, plain, holds.outstanding]
  refine ⟨?_, ?_, ?_⟩
  · rw [entries, sent]
    exact holds.received.push entry
  · rw [entries, attributes, holds.outstanding]
    rfl
  · rw [entries, attributes, sent, ← holds.composed, mul_assoc, ← moves, ← mul_assoc]
    refine congrArg (· * ops.fills (entry.attributes stack.outstanding)) ?_
    cases entry.call? stack.outstanding with
    | none => rw [Option.toList_none, List.append_nil, Option.elim_none, mul_one]
    | some call =>
      rw [Option.toList_some, LayerOperations.calls_concat, ← holds.transform_eq]
      rfl

/-- An entry with an effect of its own has none on the composition. -/
theorem push_neutral (plain : entry.plain = entry)
    (moves : (entry.call? stack.outstanding).elim 1
        (ops.call (stack.canvases address).current.transform) *
      ops.fills (entry.attributes stack.outstanding) = ops.fills stack.outstanding) :
    Holds ops canvases address (stack.push entry) composition := by
  rw [← mul_one composition]
  exact holds.push plain (moves.trans (mul_one _).symm)

/-- The transform after a save or a layer. -/
theorem transform_push {call : DelegateCall kit} (sends : entry.call? stack.outstanding = some call)
    (opens : call.opens = true) :
    ((stack.push entry).canvases address).current.transform =
      (stack.canvases address).current.transform := by
  have received := holds.received.push entry
  rw [sends, Option.toList_some] at received
  rw [received.2, Function.update_self, holds.transform_eq, List.map_append,
    SavedStates.moves_append]
  cases call with
  | save => rfl
  | saveLayer bounds attributes blend backdrop => rfl
  | _ => cases opens

theorem saveLayer (bounds : SkRect p.Scalar) :
    Holds ops canvases address (stack.saveLayer bounds) composition ∧
      (stack.saveLayer bounds).outstanding = .default kit ∧
      ((stack.saveLayer bounds).canvases address).current.transform =
        (stack.canvases address).current.transform := by
  refine ⟨holds.push_neutral rfl ?_, StateEntry.apply_outstanding _, holds.transform_push rfl rfl⟩
  change ops.fills stack.outstanding * ops.fills (.default kit) = _
  rw [LayerOperations.fills_default, mul_one]

theorem doSave :
    Holds ops canvases address stack.doSave composition ∧
      stack.doSave.outstanding = stack.outstanding ∧
      (stack.doSave.canvases address).current.transform =
        (stack.canvases address).current.transform :=
  ⟨holds.push_neutral rfl (one_mul _), StateEntry.apply_outstanding _, holds.transform_push rfl rfl⟩

/-- Where an image filter is held back, a layer takes it. -/
theorem maybeSaveLayerFor (saveNeeded : Bool) :
    Holds ops canvases address (stack.maybeSaveLayerFor saveNeeded) composition ∧
      (stack.maybeSaveLayerFor saveNeeded).outstanding.imageFilter = none ∧
      ((stack.maybeSaveLayerFor saveNeeded).canvases address).current.transform =
        (stack.canvases address).current.transform := by
  unfold LayerStateStack.maybeSaveLayerFor
  by_cases filtered : stack.outstanding.imageFilter.isSome = true
  · rw [if_pos filtered]
    obtain ⟨saved, outstanding, transform⟩ := holds.saveLayer stack.outstanding.saveLayerBounds
    exact ⟨saved, by rw [outstanding]; rfl, transform⟩
  · rw [if_neg filtered]
    have noImageFilter := Option.not_isSome_iff_eq_none.mp filtered
    split
    · obtain ⟨saved, outstanding, transform⟩ := holds.doSave
      exact ⟨saved, by rw [outstanding, noImageFilter], transform⟩
    · exact ⟨holds, noImageFilter, rfl⟩

theorem maybeSaveLayer :
    Holds ops canvases address stack.maybeSaveLayer composition ∧
      stack.maybeSaveLayer.outstanding.imageFilter = none := by
  obtain ⟨saved, noImageFilter, -⟩ := holds.maybeSaveLayerFor false
  exact ⟨saved, noImageFilter⟩

theorem pushOpacity (bounds : SkRect p.Scalar) {factor : p.Scalar}
    (rounds : ops.opacity (stack.maybeSaveLayer.outstanding.opacity * factor) =
      ops.opacity stack.maybeSaveLayer.outstanding.opacity * ops.opacity factor) :
    Holds ops canvases address (stack.pushOpacity bounds factor)
      (composition * ops.opacity factor) := by
  obtain ⟨saved, noImageFilter⟩ := holds.maybeSaveLayer
  refine saved.push rfl ?_
  rw [LayerOperations.opacity_eq, LayerOperations.opacity_eq] at rounds
  change 1 * ops.fills { stack.maybeSaveLayer.outstanding with
    saveLayerBounds := bounds, opacity := stack.maybeSaveLayer.outstanding.opacity * factor } = _
  rw [LayerOperations.fills_eq, LayerOperations.fills_eq, rounds, noImageFilter, one_mul,
    Option.elim_none, mul_one, mul_one, mul_assoc]

theorem pushImageFilter (bounds : SkRect p.Scalar) (filter : p.ImageFilter) :
    Holds ops canvases address (stack.pushImageFilter bounds filter)
      (composition * ops.imageFilter filter) := by
  obtain ⟨saved, noImageFilter⟩ := holds.maybeSaveLayer
  refine saved.push rfl ?_
  change 1 * ops.fills { stack.maybeSaveLayer.outstanding with
    saveLayerBounds := bounds, imageFilter := some filter } = _
  rw [LayerOperations.fills_eq, LayerOperations.fills_eq, noImageFilter, one_mul,
    Option.elim_none, mul_one, Option.elim_some]

/-- What is held back after `maybe_save_layer` of a colour filter commutes with it. -/
theorem maybeSaveLayerForColorFilter (filter : p.ColorFilter) :
    Holds ops canvases address (stack.maybeSaveLayerForColorFilter filter) composition ∧
      (stack.maybeSaveLayerForColorFilter filter).outstanding.imageFilter = none ∧
      (stack.maybeSaveLayerForColorFilter filter).outstanding.colorFilter = none ∧
      Commute (ops.colorFilter filter)
        (ops.opacity (stack.maybeSaveLayerForColorFilter filter).outstanding.opacity) := by
  unfold LayerStateStack.maybeSaveLayerForColorFilter
  split
  · obtain ⟨saved, outstanding, -⟩ := holds.saveLayer stack.outstanding.saveLayerBounds
    rw [outstanding]
    refine ⟨saved, rfl, rfl, ?_⟩
    rw [LayerOperations.opacity_eq, LayerOperations.alpha_default]
    exact .one_right _
  · next kept =>
      simp only [Bool.or_eq_true, not_or, Bool.and_eq_true, decide_eq_true_eq,
        Option.not_isSome_iff_eq_none, not_and, Bool.not_eq_true', Bool.not_eq_false] at kept
      obtain ⟨⟨noColorFilter, noImageFilter⟩, commutes⟩ := kept
      refine ⟨holds, noImageFilter, noColorFilter, ?_⟩
      rw [LayerOperations.opacity_eq]
      by_cases translucent : stack.outstanding.opacity < kit.literal 1
      · exact (ops.alpha_colorFilter _ filter (commutes translucent)).symm
      · rw [LayerOperations.alpha_fillAlpha translucent]
        exact .one_right _

theorem pushColorFilter (bounds : SkRect p.Scalar) (filter : p.ColorFilter) :
    Holds ops canvases address (stack.pushColorFilter bounds filter)
      (composition * ops.colorFilter filter) := by
  obtain ⟨saved, noImageFilter, noColorFilter, commutes⟩ :=
    holds.maybeSaveLayerForColorFilter filter
  refine saved.push rfl ?_
  change 1 * ops.fills { (stack.maybeSaveLayerForColorFilter filter).outstanding with
    saveLayerBounds := bounds, colorFilter := some filter } = _
  rw [LayerOperations.opacity_eq] at commutes
  rw [LayerOperations.fills_eq, LayerOperations.fills_eq, noImageFilter, noColorFilter, one_mul,
    Option.elim_none, Option.elim_none, mul_one, mul_one, one_mul, Option.elim_some]
  exact commutes

/-- A transform or a clip is made on the canvas, below what is held back. -/
theorem pushGuarded
    (context : MutatorContext) (plain : entry.plain = entry) {call : DelegateCall kit}
    (sends : ∀ outstanding, entry.call? outstanding = some call)
    (keeps : ∀ outstanding, entry.attributes outstanding = outstanding)
    (acts : call.opens = false) :
    Holds ops canvases address (context.pushGuarded stack entry).2
      (composition * ops.act (stack.canvases address).current.transform call) := by
  obtain ⟨saved, noImageFilter, transform⟩ := holds.maybeSaveLayerFor context.saveNeeded
  have called : ∀ transform, ops.call transform call = ops.act transform call := by
    intro transform
    cases call with
    | save => cases acts
    | saveLayer bounds attributes blend backdrop => cases acts
    | _ => rfl
  refine saved.push plain ?_
  rw [sends, keeps, Option.elim_some, called, transform]
  exact LayerOperations.act_commute_fills noImageFilter ..

theorem translate (context : MutatorContext) (tx ty : p.Scalar) :
    Holds ops canvases address (context.translate stack tx ty).2
      (composition * ops.act (stack.canvases address).current.transform (.translate tx ty)) := by
  unfold MutatorContext.translate
  split
  · exact holds.pushGuarded context rfl (fun _ => rfl) (fun _ => rfl) rfl
  · next still =>
      rw [ops.translate_zero _ _ _ ((Bool.not_eq_true _).mp still), mul_one]
      exact holds

theorem transform33 (context : MutatorContext) (matrix : kit.SkMatrix) :
    Holds ops canvases address (context.transform33 stack matrix).2
      (composition * ops.act (stack.canvases address).current.transform (.transform33 matrix)) := by
  unfold MutatorContext.transform33
  split
  · next translates =>
      rw [ops.transform33_translate _ _ translates]
      exact holds.translate context _ _
  · split
    · exact holds.pushGuarded context rfl (fun _ => rfl) (fun _ => rfl) rfl
    · next same =>
        rw [Bool.not_eq_true', Bool.not_eq_false] at same
        rw [ops.transform33_identity _ _ same, mul_one]
        exact holds

theorem transform44 (context : MutatorContext) (m44 : kit.SkM44) :
    Holds ops canvases address (context.transform44 stack m44).2
      (composition * ops.act (stack.canvases address).current.transform (.transform44 m44)) := by
  unfold MutatorContext.transform44
  split
  · next same =>
      rw [ops.transform44_is3x3 _ _ same]
      exact holds.transform33 context _
  · exact holds.pushGuarded context rfl (fun _ => rfl) (fun _ => rfl) rfl

/-- A mutation without a backdrop filter, whose opacity is rounded with those held back. -/
theorem mutate (context : MutatorContext)
    {scope : Nat} {call : MutatorCall kit} (nests : (LayerCall.mutate scope call).Nests)
    (rounds : stack.RoundsOnce ops call) :
    Holds ops canvases address (context.mutate stack call).2
      (composition * ops.mutation (stack.canvases address).current.transform call) := by
  cases call with
  | saveLayer bounds =>
    rw [LayerOperations.mutation, mul_one]
    exact (holds.saveLayer bounds).1
  | applyOpacity bounds factor =>
    change Holds _ _ _ (if factor < kit.literal 1 then stack.pushOpacity bounds factor
      else stack) (composition * ops.opacity factor)
    split
    · next translucent => exact holds.pushOpacity bounds (rounds translucent)
    · next full =>
        rw [LayerOperations.opacity_eq, LayerOperations.alpha_fillAlpha full, mul_one]
        exact holds
  | applyImageFilter bounds filter =>
    cases filter with
    | none =>
      change Holds _ _ _ stack (composition * 1)
      rw [mul_one]
      exact holds
    | some filter => exact holds.pushImageFilter bounds filter
  | applyColorFilter bounds filter =>
    cases filter with
    | none =>
      change Holds _ _ _ stack (composition * 1)
      rw [mul_one]
      exact holds
    | some filter => exact holds.pushColorFilter bounds filter
  | applyBackdropFilter bounds filter blendMode => exact nests.elim
  | translate tx ty => exact holds.translate context tx ty
  | transform33 matrix => exact holds.transform33 context matrix
  | transform44 m44 => exact holds.transform44 context m44
  | integralTransform => exact holds.pushGuarded context rfl (fun _ => rfl) (fun _ => rfl) rfl
  | clipRect rect isAA => exact holds.pushGuarded context rfl (fun _ => rfl) (fun _ => rfl) rfl
  | clipRRect rrect isAA => exact holds.pushGuarded context rfl (fun _ => rfl) (fun _ => rfl) rfl
  | clipPath path isAA => exact holds.pushGuarded context rfl (fun _ => rfl) (fun _ => rfl) rfl

/-- `applyState`: a layer takes what the caller does not declare. -/
theorem applyState (bounds : SkRect p.Scalar) (flags : BitVec 32) :
    ∀ applied, applied = (if stack.needsSaveLayer flags then stack.saveLayer bounds else stack) →
      Holds ops canvases address applied composition ∧
        ops.fills (applied.outstanding.declared kit flags) = ops.fills applied.outstanding := by
  intro applied same
  have undeclared : ∀ outstanding : RenderingAttributes p,
      (flags &&& LayerStateStack.kCallerCanApplyOpacity == 0 →
        ¬outstanding.opacity < kit.literal 1) →
      (flags &&& LayerStateStack.kCallerCanApplyColorFilter == 0 →
        outstanding.colorFilter = none) →
      (flags &&& LayerStateStack.kCallerCanApplyImageFilter == 0 →
        outstanding.imageFilter = none) →
      ops.fills (outstanding.declared kit flags) = ops.fills outstanding := by
    intro outstanding full noColorFilter noImageFilter
    rw [LayerOperations.fills_eq, LayerOperations.fills_eq]
    unfold RenderingAttributes.declared
    dsimp only
    refine congrArg₂ _ (congrArg₂ _ ?_ ?_) ?_
    · split
      · next without => rw [noColorFilter without]
      · rfl
    · split
      · next without =>
          rw [LayerOperations.alpha_fillAlpha (full without)]
          exact LayerOperations.alpha_default
      · rfl
    · split
      · next without => rw [noImageFilter without]
      · rfl
  subst same
  split
  · obtain ⟨saved, outstanding, -⟩ := holds.saveLayer bounds
    refine ⟨saved, undeclared _ ?_ ?_ ?_⟩ <;> rw [outstanding]
    · exact fun _ => ops.one_not_lt
    · exact fun _ => rfl
    · exact fun _ => rfl
  · next applies =>
      unfold LayerStateStack.needsSaveLayer at applies
      simp only [Bool.or_eq_true, not_or, Bool.and_eq_true, not_and, decide_eq_true_eq,
        Option.isSome_iff_ne_none] at applies
      obtain ⟨⟨opacity, imageFilter⟩, colorFilter⟩ := applies
      refine ⟨holds, undeclared _ ?_ ?_ ?_⟩
      · exact fun without translucent => opacity translucent without
      · exact fun without => by_contra fun some => colorFilter some without
      · exact fun without => by_contra fun some => imageFilter some without

end Holds

/-! ## Runs -/

namespace LayerDrawing

variable {ops : LayerOperations kit Operation} {canvases : Nat → DlCanvas kit} {address : Nat}
  {drawing : LayerDrawing kit Operation}

theorem holds_initial (valid : (machine ops canvases address).Initial drawing) :
    Holds ops canvases address drawing.run.stack drawing.composition := by
  cases valid
  refine ⟨⟨rfl, (Function.update_eq_self address canvases).symm⟩, rfl, ?_⟩
  exact (one_mul _).trans LayerOperations.fills_default

theorem holds_step {call : LayerCall kit} {next : LayerDrawing kit Operation}
    (holds : Holds ops canvases address drawing.run.stack drawing.composition)
    (nests : call.Nests) (rounds : drawing.run.RoundsOnce ops call)
    (transition : (machine ops canvases address).step drawing call = some next) :
    Holds ops canvases address next.run.stack next.composition := by
  obtain ⟨run, called, rfl⟩ := Option.map_eq_some_iff.mp transition
  cases call with
  | save =>
    cases called
    exact holds
  | applyState bounds flags =>
    cases called
    exact (holds.applyState bounds flags _ rfl).1
  | mutate scope call =>
    obtain ⟨context, -, rfl⟩ := LayerRun.call_mutate called
    exact holds.mutate context nests rounds
  | endScope => exact nests.elim
  | clearDelegate => exact nests.elim
  | setDelegate canvas => exact nests.elim
  | setPrerollDelegate cullRect matrix => exact nests.elim

/-- Content under `applyState` that applies what it declares goes through all mutations, in
nesting order. -/
structure Composes (ops : LayerOperations kit Operation) (canvases : Nat → DlCanvas kit)
    (address : Nat) (drawing : LayerDrawing kit Operation) (flags : BitVec 32)
    (applied : LayerRun kit) : Prop where
  received :
    Received canvases (.canvas address) (replay applied.stack.stateStack) applied.stack
  composes : ops.calls (canvases address) (replay applied.stack.stateStack) *
    ops.fills (applied.stack.outstanding.declared kit flags) = drawing.composition

/-- Where no opacity is changed by rounding, nested mutations compose. -/
theorem reachable_composes
    (reached : (machine ops canvases address).Reachable
      (fun drawing call => call.Nests ∧ drawing.run.RoundsOnce ops call) drawing)
    (bounds : SkRect p.Scalar) (flags : BitVec 32) {applied : LayerRun kit}
    (applies : drawing.run.call (.applyState bounds flags) = some applied) :
    drawing.Composes ops canvases address flags applied := by
  have holds := reached.invariant
    (fun drawing => Holds ops canvases address drawing.run.stack drawing.composition)
    (fun _ valid => holds_initial valid)
    fun holds meets transition => holds_step holds meets.1 meets.2 transition
  cases applies
  obtain ⟨saved, declared⟩ := holds.applyState bounds flags _ rfl
  exact ⟨saved.received, by rw [declared]; exact saved.composed⟩

section Samples

open LayerRuns

/-- An alpha scales an image, which has no colours. -/
def scalings : LayerOperations translations Rat where
  alpha value := value / 255
  colorFilter _ := 1
  imageFilter _ := 1
  act _ _ := 1
  act_alpha _ _ _ := .all ..
  act_colorFilter _ _ _ := .all ..
  alpha_colorFilter _ _ _ := .all ..
  alpha_opaque := by decide +kernel
  one_not_lt := by decide +kernel
  translate_zero _ _ _ _ := rfl
  transform33_identity _ _ _ := rfl
  transform33_translate _ _ _ := rfl
  transform44_is3x3 _ _ _ := rfl

instance : ∀ call : LayerCall kit, Decidable call.Nests
  | .save | .applyState .. => isTrue trivial
  | .mutate _ call =>
    match call with
    | .applyBackdropFilter .. => isFalse id
    | .saveLayer _ | .applyOpacity .. | .applyImageFilter .. | .applyColorFilter ..
    | .translate .. | .transform33 _ | .transform44 _ | .integralTransform | .clipRect ..
    | .clipRRect .. | .clipPath .. => isTrue trivial
  | .endScope | .clearDelegate | .setDelegate _ | .setPrerollDelegate .. => isFalse id

instance [DecidableEq Operation] (stack : LayerStateStack kit) :
    ∀ call, Decidable (stack.RoundsOnce ops call)
  | .applyOpacity _ factor => inferInstanceAs (Decidable (factor < _ → _ = _))
  | .saveLayer _ | .applyImageFilter .. | .applyColorFilter .. | .applyBackdropFilter ..
  | .translate .. | .transform33 _ | .transform44 _ | .integralTransform | .clipRect ..
  | .clipRRect .. | .clipPath .. => isTrue trivial

instance [DecidableEq Operation] (run : LayerRun kit) : ∀ call, Decidable (run.RoundsOnce ops call)
  | .mutate _ call => inferInstanceAs (Decidable (run.stack.RoundsOnce ops call))
  | .save | .applyState .. | .endScope | .clearDelegate | .setDelegate _
  | .setPrerollDelegate .. => isTrue trivial

/-- A filter is held back with an opacity, and a layer takes it before the translation. -/
theorem reachable_composes_filtered : ∃ drawing : LayerDrawing translations Rat,
    (machine scalings blankCanvases 0).Reachable
      (fun drawing call => call.Nests ∧ drawing.run.RoundsOnce scalings call) drawing ∧
    drawing.composition = 128 / 255 ∧
    ∀ applied, drawing.run.call
        (.applyState ⟨0, 0, 9, 9⟩ LayerStateStack.kCallerCanApplyOpacity) = some applied →
      drawing.Composes scalings blankCanvases 0 LayerStateStack.kCallerCanApplyOpacity applied := by
  have start : (machine scalings blankCanvases 0).Reachable
      (fun drawing call => call.Nests ∧ drawing.run.RoundsOnce scalings call) _ := .initial rfl
  obtain ⟨drawing, reached, scaled⟩ := start.exists_of_run
    [.save, .mutate 0 (.applyOpacity ⟨0, 0, 9, 9⟩ (1 / 2)),
      .mutate 0 (.applyImageFilter ⟨0, 0, 9, 9⟩ (some ())), .save, .mutate 0 (.translate 1 2)]
    (fun drawing => drawing.composition = 128 / 255) (by decide +kernel) (by decide +kernel)
  exact ⟨drawing, reached, of_decide_eq_true scaled,
    fun applied => reachable_composes reached _ _⟩

/-- Two nested opacities of a half are 128 of 255 each, and 64 of 255 together. -/
theorem not_composes_of_two_opacities :
    ¬∀ drawing : LayerDrawing translations Rat,
      (machine scalings blankCanvases 0).Reachable (fun _ call => call.Nests) drawing →
      ∀ bounds flags applied, drawing.run.call (.applyState bounds flags) = some applied →
        drawing.Composes scalings blankCanvases 0 flags applied := by
  intro composes
  have start : (machine scalings blankCanvases 0).Reachable (fun _ call => call.Nests) _ :=
    .initial rfl
  obtain ⟨drawing, reached, differs⟩ := start.exists_of_run
    [.save, .mutate 0 (.applyOpacity ⟨0, 0, 9, 9⟩ (1 / 2)), .save,
      .mutate 0 (.applyOpacity ⟨0, 0, 9, 9⟩ (1 / 2))]
    (fun drawing => drawing.run.stack.needsSaveLayer LayerStateStack.kCallerCanApplyOpacity = false ∧
      scalings.calls (blankCanvases 0) (replay drawing.run.stack.stateStack) *
        scalings.fills (drawing.run.stack.outstanding.declared translations
          LayerStateStack.kCallerCanApplyOpacity) ≠ drawing.composition)
    (by decide +kernel) (by decide +kernel)
  obtain ⟨applies, differs⟩ := of_decide_eq_true differs
  refine differs (composes drawing reached ⟨0, 0, 9, 9⟩ LayerStateStack.kCallerCanApplyOpacity
    ⟨drawing.run.stack, .autoRestore drawing.run.stack.stateStack.length :: drawing.run.scopes⟩
    ?_).composes
  unfold LayerRun.call
  dsimp only
  rw [applies]
  rfl

end Samples

end LayerDrawing

end FlutterEngine.Flow
