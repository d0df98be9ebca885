import Mathlib.Data.List.Nodup
import FlutterEngine.DisplayList.BuilderRecorder
import FlutterEngine.DisplayList.WholeNumbers

/-!
# The records of layers

`Restore` goes back to the record of the layer it leaves and writes the bounds of the
content and two options into it. The record of a layer changes at no other time, so it
ends up as that restore left it.
-/

namespace FlutterEngine.DisplayList

variable {p : Payloads}

/-- The options and the rectangle of a layer's record. -/
def DLOp.layer? : DLOp p → Option (SaveLayerOptions × SkRect p.Scalar)
  | save (.saveLayer options rect) _ => some (options, rect)
  | save (.saveLayerBackdrop options rect _) _ => some (options, rect)
  | _ => none

@[simp]
theorem DLOp.layer?_withRestoreIndex (op : DLOp p) (restoreIndex : Int) :
    (op.withRestoreIndex restoreIndex).layer? = op.layer? := by
  cases op with
  | save op index => cases op <;> rfl
  | _ => rfl

/-- The options with what a restore adds to them. -/
def SaveLayerOptions.adding (options : SaveLayerOptions) (clipped distributes : Bool) :
    SaveLayerOptions :=
  let options := if clipped then options.withContentIsClipped else options
  if distributes then options.withCanDistributeOpacity else options

theorem DLOp.layer?_withContent (op : DLOp p) (rect : SkRect p.Scalar)
    (clipped distributes : Bool) :
    (op.withContent rect clipped distributes).layer? =
      op.layer?.map fun layer => (layer.1.adding clipped distributes, rect) := by
  cases op with
  | save op index => cases op <;> rfl
  | _ => rfl

theorem layer?_layerOp (options : SaveLayerOptions) (rect : SkRect p.Scalar)
    (backdrop : Option p.ImageFilter) (restoreIndex : Int) :
    (DLOp.save (layerOp options rect backdrop) restoreIndex).layer? = some (options, rect) := by
  cases backdrop <;> rfl

namespace Recorder

/-! ## Open layers -/

/-- The offset of the record of a layer. -/
def Scope.mark (scope : Scope) : Option Nat :=
  if scope.isSaveLayer then some scope.saveOffset else none

/-- A layer is recorded when it is opened. -/
def Scope.AtOnce (scope : Scope) : Prop :=
  scope.isSaveLayer = true → scope.hasDeferredSaveOp = false

/-- The same to what is open. -/
structure Scope.Like (scope other : Scope) : Prop where
  mark : scope.mark = other.mark
  atOnce : other.AtOnce → scope.AtOnce

theorem Scope.Like.refl (scope : Scope) : scope.Like scope := ⟨rfl, fun atOnce => atOnce⟩

theorem Scope.like_report (scope : Scope) (compatible : Bool) :
    (scope.report compatible).Like scope := by
  unfold report
  split
  · split <;> exact ⟨rfl, fun atOnce => atOnce⟩
  · exact ⟨rfl, fun atOnce => atOnce⟩

theorem Scope.like_merge (scope inner : Scope) : (scope.merge inner).Like scope := by
  unfold merge
  split
  · exact ⟨rfl, fun atOnce => atOnce⟩
  · split
    · exact scope.like_report true
    · exact .refl scope

variable (recorder : Recorder p)

/-- The marks of all scopes, the innermost first. -/
def marks : List (Option Nat) := recorder.scope.mark :: recorder.outer.map Scope.mark

/-- The record of a layer at this offset. -/
def layerAt (offset : Nat) : Option (SaveLayerOptions × SkRect p.Scalar) :=
  recorder.storage[offset]?.bind DLOp.layer?

theorem layerAt_length : recorder.layerAt recorder.storage.length = none := by
  simp [layerAt]

theorem layerAt_push (op : DLOp p) (offset : Nat) :
    (recorder.push op).layerAt offset =
      if offset = recorder.storage.length then op.layer? else recorder.layerAt offset := by
  unfold layerAt push
  dsimp only
  split
  · next last => simp [last]
  · next other =>
      rcases Nat.lt_or_gt_of_ne other with before | after
      · rw [List.getElem?_append_left before]
      · have beyond : (recorder.storage ++ [op]).length ≤ offset := by
          rw [List.length_append]
          exact after
        rw [List.getElem?_eq_none beyond, List.getElem?_eq_none after.le]

/-- A record of anything else leaves the layers as they are. -/
theorem layerAt_push_of_none {op : DLOp p} (other : op.layer? = none) (offset : Nat) :
    (recorder.push op).layerAt offset = recorder.layerAt offset := by
  rw [layerAt_push, other]
  split
  · next last => rw [last, layerAt_length]
  · rfl

theorem layerAt_patch (target offset : Nat) (change : DLOp p → DLOp p) :
    (recorder.patch target change).layerAt offset =
      if target = offset then recorder.storage[offset]?.bind fun op => (change op).layer?
      else recorder.layerAt offset := by
  unfold layerAt patch
  dsimp only
  rw [List.getElem?_modify]
  split
  · cases recorder.storage[offset]? <;> rfl
  · simp

@[simp]
theorem layerAt_patch_restoreIndex (target offset : Nat) (restoreIndex : Int) :
    (recorder.patch target (.withRestoreIndex restoreIndex)).layerAt offset =
      recorder.layerAt offset := by
  rw [layerAt_patch]
  simp only [DLOp.layer?_withRestoreIndex]
  exact ite_self _

theorem layerAt_patchLayer (scope : Scope) (rect : SkRect p.Scalar) (clipped : Bool)
    (offset : Nat) :
    (recorder.patchLayer scope rect clipped).layerAt offset =
      if scope.saveOffset = offset then (recorder.layerAt offset).map fun layer =>
        (layer.1.adding clipped !scope.cannotInheritOpacity, rect)
      else recorder.layerAt offset := by
  rw [patchLayer, layerAt_patch]
  simp only [DLOp.layer?_withContent]
  split
  · rw [layerAt]
    cases recorder.storage[offset]? <;> rfl
  · rfl

@[simp]
theorem layerAt_recordRestore (offset : Nat) :
    recorder.recordRestore.layerAt offset = recorder.layerAt offset := by
  unfold recordRestore
  split
  · rfl
  · rw [layerAt_push_of_none _ rfl, layerAt_patch_restoreIndex]

@[simp]
theorem layerAt_leave (scope : Scope) (outer : List Scope) (offset : Nat) :
    (recorder.leave scope outer).layerAt offset = recorder.layerAt offset :=
  recorder.layerAt_recordRestore offset

@[simp]
theorem layerAt_checkForDeferredSave (offset : Nat) :
    recorder.checkForDeferredSave.layerAt offset = recorder.layerAt offset := by
  unfold checkForDeferredSave
  split
  · exact recorder.layerAt_push_of_none rfl offset
  · rfl

/-! ## What a call does to layers -/

/-- The outermost scope is no layer, and layers are recorded at once. -/
structure Formed : Prop where
  base : recorder.marks.getLast? = some none
  scope : recorder.scope.AtOnce
  outer : ∀ scope ∈ recorder.outer, scope.AtOnce

variable {recorder} {next : Recorder p}

/-- The current scope is like what it was. -/
theorem Formed.same (formed : recorder.Formed) (like : next.scope.Like recorder.scope)
    (outer : next.outer = recorder.outer) : next.Formed where
  base := by
    rw [marks, like.mark, outer]
    exact formed.base
  scope := like.atOnce formed.scope
  outer := by
    rw [outer]
    exact formed.outer

variable {parent scope : Scope}

/-- A scope is opened. -/
theorem Formed.opened (formed : recorder.Formed) (atOnce : next.scope.AtOnce)
    (outer : next.outer = parent :: recorder.outer) (like : parent.Like recorder.scope) :
    next.Formed where
  base := by
    rw [marks, outer, List.map_cons, like.mark, List.getLast?_cons_cons]
    exact formed.base
  scope := atOnce
  outer := by
    rw [outer]
    exact List.forall_mem_cons.mpr ⟨like.atOnce formed.scope, formed.outer⟩

/-- A scope is left. -/
theorem Formed.left (formed : recorder.Formed)
    (stack : recorder.outer = parent :: next.outer) (like : next.scope.Like parent) :
    next.Formed where
  base := by
    have base := formed.base
    rw [marks, stack, List.map_cons, List.getLast?_cons_cons] at base
    rw [marks, like.mark]
    exact base
  scope := like.atOnce (formed.outer parent (by simp [stack]))
  outer scope member := formed.outer scope (by simp [stack, member])

/-- A deferred save is no layer, so it has no mark. -/
theorem like_checkForDeferredSave (atOnce : recorder.scope.AtOnce) :
    recorder.checkForDeferredSave.scope.Like recorder.scope := by
  unfold checkForDeferredSave
  split
  · next deferred =>
      have isSave : recorder.scope.isSaveLayer = false :=
        Bool.eq_false_iff.mpr fun isLayer => by simp [atOnce isLayer] at deferred
      exact ⟨by simp [Scope.mark, isSave], fun _ _ => rfl⟩
  · exact .refl _

theorem outer_checkForDeferredSave : recorder.checkForDeferredSave.outer = recorder.outer := by
  unfold checkForDeferredSave
  split <;> rfl

/-- What a call has done to the records of layers and to the layers that are open. The
layers it has left are listed. -/
inductive LayerChange (recorder next : Recorder p) : List Nat → Prop where
  | keeps (opened : next.marks.reduceOption = recorder.marks.reduceOption)
      (layers : ∀ offset, next.layerAt offset = recorder.layerAt offset) :
      LayerChange recorder next []
  | opens (options : SaveLayerOptions) (rect : SkRect p.Scalar)
      (opened : next.marks.reduceOption =
        recorder.storage.length :: recorder.marks.reduceOption)
      (layers : ∀ offset, next.layerAt offset =
        if offset = recorder.storage.length then some (options.withoutOptimizations, rect)
        else recorder.layerAt offset) :
      LayerChange recorder next []
  | leaves (target : Nat)
      (opened : recorder.marks.reduceOption = target :: next.marks.reduceOption)
      (layers : ∀ offset, offset ≠ target → next.layerAt offset = recorder.layerAt offset)
      (still : (next.layerAt target).isSome = (recorder.layerAt target).isSome) :
      LayerChange recorder next [target]

/-- The layer that a call leaves. -/
def layersLeft (recorder : Recorder p) : ReceiverCall p → List Nat
  | .restore => if recorder.outer.isEmpty then [] else recorder.scope.mark.toList
  | _ => []

/-- The current scope is like what it was. -/
theorem LayerChange.same (like : next.scope.Like recorder.scope)
    (outer : next.outer = recorder.outer)
    (layers : ∀ offset, next.layerAt offset = recorder.layerAt offset) :
    LayerChange recorder next [] := by
  refine .keeps ?_ layers
  rw [marks, like.mark, outer]
  rfl

theorem mark_of_isSave (isSave : scope.isSaveLayer = false) :
    scope.mark = none := by simp [Scope.mark, isSave]

theorem mark_of_isLayer (isLayer : scope.isSaveLayer = true) :
    scope.mark = some scope.saveOffset := by simp [Scope.mark, isLayer]

/-- Leaving a layer, whether or not its record is changed. -/
theorem LayerChange.left {outer : List Scope}
    (stack : recorder.outer = parent :: outer) (isLayer : recorder.scope.isSaveLayer = true)
    (scope : next.scope = parent) (rest : next.outer = outer)
    (layers : ∀ offset, offset ≠ recorder.scope.saveOffset →
      next.layerAt offset = recorder.layerAt offset)
    (still : (next.layerAt recorder.scope.saveOffset).isSome =
      (recorder.layerAt recorder.scope.saveOffset).isSome) :
    LayerChange recorder next (recorder.layersLeft .restore) := by
  have left : recorder.layersLeft .restore = [recorder.scope.saveOffset] := by
    simp [layersLeft, stack, mark_of_isLayer isLayer]
  rw [left]
  refine .leaves _ ?_ layers still
  rw [marks, marks, stack, mark_of_isLayer isLayer, scope, rest]
  rfl

variable [SkScalar p.Scalar] {kit : Toolkit p} {call : ReceiverCall p}

theorem Step.formed (formed : recorder.Formed) (step : Step kit recorder call next) :
    next.Formed := by
  cases step with
  | sameAttribute | restoreNothing | keepTransform | keepClip | skipDraw => exact formed
  | setAttribute => exact formed.same (.refl _) rfl
  | setPlainColorSource =>
    unfold setColor
    split <;> exact formed.same (.refl _) rfl
  | save | saveNopLayer => exact formed.opened (fun isLayer => nomatch isLayer) rfl (.refl _)
  | saveLayer => exact formed.opened (fun _ => rfl) rfl (recorder.scope.like_report _)
  | restoreSave stack => exact formed.left stack (Scope.like_merge _ _)
  | restoreLayer stack => exact formed.left stack (.refl _)
  | restoreMovedLayer stack => exact formed.left stack (.refl _)
  | transform | clip =>
    exact formed.same (like_checkForDeferredSave formed.scope) outer_checkForDeferredSave
  | clipAll => exact formed.same ⟨rfl, fun atOnce => atOnce⟩ rfl
  | draw => exact formed.same (recorder.scope.like_report _) rfl

/-- What a call does to the records of layers. -/
theorem Step.layerChange (formed : recorder.Formed) (step : Step kit recorder call next) :
    LayerChange recorder next (recorder.layersLeft call) := by
  cases step with
  | sameAttribute | keepTransform | keepClip | skipDraw => exact .same (.refl _) rfl fun _ => rfl
  | restoreNothing bottom =>
    rw [layersLeft, bottom]
    exact .same (.refl _) rfl fun _ => rfl
  | setAttribute => exact .same (.refl _) rfl (recorder.layerAt_push_of_none rfl)
  | setPlainColorSource =>
    unfold setColor
    split
    · exact .same (.refl _) rfl (recorder.layerAt_push_of_none rfl)
    · exact .same (.refl _) rfl fun _ => rfl
  | save | saveNopLayer => exact .keeps rfl fun _ => rfl
  | @saveLayer bounds options backdrop visible rect cannotInheritOpacity =>
    refine .opens options rect ?_ fun offset => ?_
    · rw [marks, Recorder.saveLayer, List.map_cons, (recorder.scope.like_report _).mark]
      rfl
    · rw [← layer?_layerOp options.withoutOptimizations rect backdrop 0]
      exact recorder.layerAt_push _ offset
  | @restoreSave parent outer stack isSave =>
    rw [layersLeft, stack, mark_of_isSave isSave]
    refine .keeps ?_ (recorder.layerAt_leave _ _)
    rw [marks, marks, stack, mark_of_isSave isSave, leave, (Scope.like_merge _ _).mark]
    rfl
  | @restoreLayer parent outer stack isLayer rect clipped =>
    refine .left stack isLayer rfl rfl (fun offset other => ?_) ?_
    · rw [layerAt_patchLayer, if_neg other.symm, layerAt_leave]
    · rw [layerAt_patchLayer, if_pos rfl, Option.isSome_map, layerAt_leave]
  | @restoreMovedLayer parent outer stack isLayer =>
    refine .left stack isLayer rfl rfl (fun offset _ => recorder.layerAt_leave _ _ offset) ?_
    rw [layerAt_leave]
  | transform | clip =>
    refine .same (like_checkForDeferredSave formed.scope) outer_checkForDeferredSave ?_
    intro offset
    rw [layerAt_push_of_none _ rfl, layerAt_checkForDeferredSave]
  | clipAll => exact .same ⟨rfl, fun atOnce => atOnce⟩ rfl fun _ => rfl
  | draw =>
    exact .same (recorder.scope.like_report _) rfl (recorder.layerAt_push_of_none rfl)

/-! ## Layers that were left -/

/-- Every record of a layer is of a layer that is open, and as it was pushed, or of one that
was left. -/
structure Tracked (recorder : Recorder p) (left : List Nat) : Prop where
  formed : recorder.Formed
  distinct : (recorder.marks.reduceOption ++ left).Nodup
  recorded : ∀ offset, (recorder.layerAt offset).isSome ↔
    offset ∈ recorder.marks.reduceOption ++ left
  pushed : ∀ offset ∈ recorder.marks.reduceOption, ∃ options rect,
    recorder.layerAt offset = some (SaveLayerOptions.withoutOptimizations options, rect)

namespace Tracked

variable {left leaving : List Nat}

omit [SkScalar p.Scalar]

theorem free (tracked : Tracked recorder left) :
    recorder.storage.length ∉ recorder.marks.reduceOption ++ left := by
  intro member
  have taken := (tracked.recorded _).mpr member
  rw [layerAt_length] at taken
  cases taken

theorem target_notMem (tracked : Tracked recorder left) {target : Nat} {opened : List Nat}
    (split : recorder.marks.reduceOption = target :: opened) : target ∉ opened ++ left := by
  have distinct := tracked.distinct
  rw [split] at distinct
  exact (List.nodup_cons.mp distinct).1

theorem change (tracked : Tracked recorder left) (formed : next.Formed)
    (change : LayerChange recorder next leaving) : Tracked next (left ++ leaving) := by
  cases change with
  | keeps opened layers =>
    rw [List.append_nil]
    refine ⟨formed, opened ▸ tracked.distinct, fun offset => ?_, fun offset member => ?_⟩
    · rw [opened, layers]
      exact tracked.recorded offset
    · rw [layers]
      exact tracked.pushed offset (opened ▸ member)
  | opens options rect opened layers =>
    rw [List.append_nil]
    refine ⟨formed, ?_, fun offset => ?_, fun offset member => ?_⟩
    · rw [opened, List.cons_append]
      exact List.nodup_cons.mpr ⟨tracked.free, tracked.distinct⟩
    · rw [opened, layers, List.cons_append, List.mem_cons, ← tracked.recorded]
      split
      · next last => simp [last]
      · next other => simp [other]
    · rw [opened] at member
      rw [layers]
      rcases List.mem_cons.mp member with rfl | earlier
      · exact ⟨options, rect, if_pos rfl⟩
      · have other : offset ≠ recorder.storage.length := by
          rintro rfl
          exact tracked.free (List.mem_append_left _ earlier)
        rw [if_neg other]
        exact tracked.pushed offset earlier
  | leaves target opened layers still =>
    have perm : (next.marks.reduceOption ++ (left ++ [target])).Perm
        (recorder.marks.reduceOption ++ left) := by
      rw [opened, ← List.append_assoc]
      exact List.perm_append_singleton target _
    refine ⟨formed, perm.nodup_iff.mpr tracked.distinct, fun offset => ?_,
      fun offset member => ?_⟩
    · rw [perm.mem_iff, ← tracked.recorded]
      rcases eq_or_ne offset target with rfl | other
      · rw [still]
      · rw [layers offset other]
    · have other : offset ≠ target := by
        rintro rfl
        exact tracked.target_notMem opened (List.mem_append_left _ member)
      rw [layers offset other]
      exact tracked.pushed offset (opened ▸ .tail _ member)

/-- The record of a layer that was left stays as it is. -/
theorem unchanged (tracked : Tracked recorder left) (change : LayerChange recorder next leaving)
    {offset : Nat} (wasLeft : offset ∈ left) : next.layerAt offset = recorder.layerAt offset := by
  have known := List.mem_append_right recorder.marks.reduceOption wasLeft
  cases change with
  | keeps opened layers => exact layers offset
  | opens options rect opened layers =>
    rw [layers, if_neg]
    rintro rfl
    exact tracked.free known
  | leaves target opened layers still =>
    refine layers offset ?_
    rintro rfl
    exact tracked.target_notMem opened (List.mem_append_right _ wasLeft)

end Tracked

end Recorder

/-! ## What a restore computes -/

/-- What `Restore` writes into the record of the layer that it leaves. -/
structure LayerContent (p : Payloads) where
  rect : SkRect p.Scalar
  contentIsClipped : Bool
  canDistributeOpacity : Bool

/-- The record of a layer, read as options and rectangle, has this content. -/
def LayerContent.IsIn (content : LayerContent p) (layer : SaveLayerOptions × SkRect p.Scalar) :
    Prop :=
  layer = ({ layer.1 with
    contentIsClipped := content.contentIsClipped
    canDistributeOpacity := content.canDistributeOpacity }, content.rect)

theorem LayerContent.isIn_withoutOptimizations (content : LayerContent p)
    (options : SaveLayerOptions) (rect : SkRect p.Scalar) :
    content.IsIn (options.withoutOptimizations, rect) ↔
      content.contentIsClipped = false ∧ content.canDistributeOpacity = false ∧
        rect = content.rect := by
  constructor
  · intro same
    exact ⟨(congrArg (·.1.contentIsClipped) same).symm,
      (congrArg (·.1.canDistributeOpacity) same).symm, congrArg Prod.snd same⟩
  · rintro ⟨whole, cannot, same⟩
    rw [IsIn, whole, cannot, same]
    rfl

variable [SkScalar p.Scalar]

/-- The caller's bounds cut the content. -/
def CutBy (kit : Toolkit p) (contentBounds : SkRect p.Scalar)
    (layer : SaveLayerOptions × SkRect p.Scalar) : Prop :=
  layer.1.boundsFromCaller ∧ !kit.isEmpty contentBounds ∧ !kit.contains layer.2 contentBounds

instance (kit : Toolkit p) (contentBounds : SkRect p.Scalar)
    (layer : SaveLayerOptions × SkRect p.Scalar) : Decidable (CutBy kit contentBounds layer) :=
  inferInstanceAs (Decidable (_ ∧ _))

variable {layer : SaveLayerOptions × SkRect p.Scalar}

omit [SkScalar p.Scalar] in
theorem clippedContent_eq (kit : Toolkit p) (contentBounds : SkRect p.Scalar) {op : SaveOp p}
    {restoreIndex : Int} (isLayer : (DLOp.save op restoreIndex).layer? = some layer) :
    op.clippedContent kit contentBounds =
      if CutBy kit contentBounds layer then
        ((kit.intersect contentBounds layer.2).getD contentBounds, true)
      else (contentBounds, false) := by
  cases op with
  | save => cases isLayer
  | saveLayer => cases isLayer; rfl
  | saveLayerBackdrop => cases isLayer; rfl

namespace DisplayListBuilder

open Recorder

variable {kit : Toolkit p} (builder : DisplayListBuilder kit)

/-- The bounds of what the current layer holds. -/
def contentBounds : SkRect p.Scalar :=
  ((builder.currentLayer.layerAccumulator.bind (builder.layerAccumulators[·]?)).getD
    (.blank kit)).bounds kit

/-- The record of the current layer. -/
def layerRecord : Option (SaveLayerOptions × SkRect p.Scalar) :=
  builder.recorder.layerAt builder.currentLayer.saveOffset

/-- The bounds of the content, within those of the caller when they cut it, and the options
that go with them. -/
def layerContent (layer : SaveLayerOptions × SkRect p.Scalar) : LayerContent p where
  rect :=
    if CutBy kit builder.contentBounds layer then
      (kit.intersect builder.contentBounds layer.2).getD builder.contentBounds
    else builder.contentBounds
  contentIsClipped := decide (CutBy kit builder.contentBounds layer)
  canDistributeOpacity := builder.currentLayer.isGroupOpacityCompatible

/-- The call leaves a layer. -/
def LeavesLayer : ReceiverCall p → Prop
  | .restore => builder.parents.isEmpty = false ∧ builder.currentLayer.isSaveLayer = true
  | _ => False

instance (call : ReceiverCall p) : Decidable (builder.LeavesLayer call) :=
  match call with
  | .restore => inferInstanceAs (Decidable (_ ∧ _))
  | .set _ | .save | .saveLayer _ _ _ | .transform _ | .clip _ | .draw _ =>
    inferInstanceAs (Decidable False)

/-- What the call computes for the record at an offset. -/
def computedBy (call : ReceiverCall p) : List (Nat × LayerContent p) :=
  if builder.LeavesLayer call then
    (builder.layerRecord.map fun layer =>
      (builder.currentLayer.saveOffset, builder.layerContent layer)).toList
  else []

/-- What the calls compute for the records of the layers that they leave. -/
def computed : DisplayListBuilder kit → List (ReceiverCall p) → List (Nat × LayerContent p)
  | _, [] => []
  | builder, call :: calls => builder.computedBy call ++ computed (builder.receive call) calls

/-- The change of the record reaches it, or is none: nothing has inherited the opacity, and
the record has the bounds of the content already. -/
def ChangeLands : Prop :=
  builder.moves .restore = false ∨
    builder.currentLayer.cannotInheritOpacity = true ∧
      ∃ layer ∈ builder.layerRecord, layer.2 = builder.contentBounds ∧
        ¬CutBy kit builder.contentBounds layer

instance [DecidableEq p.Scalar] : Decidable builder.ChangeLands :=
  inferInstanceAs (Decidable (_ ∨ _ ∧ _))

/-- Whenever the calls leave a layer, its change lands. -/
def ChangesLand : DisplayListBuilder kit → List (ReceiverCall p) → Prop
  | _, [] => True
  | builder, call :: calls =>
    (builder.LeavesLayer call → builder.ChangeLands) ∧ ChangesLand (builder.receive call) calls

instance decidableChangesLand [DecidableEq p.Scalar] : (builder : DisplayListBuilder kit) →
    (calls : List (ReceiverCall p)) → Decidable (builder.ChangesLand calls)
  | _, [] => inferInstanceAs (Decidable True)
  | builder, call :: calls =>
    have := decidableChangesLand (builder.receive call) calls
    inferInstanceAs (Decidable ((builder.LeavesLayer call → builder.ChangeLands) ∧
      (builder.receive call).ChangesLand calls))

/-- The record of the current layer once it is restored. -/
theorem storage_syncSaveLayer (parent : SaveInfo p) (moved : Bool)
    (recorded : builder.layerRecord = some layer) :
    (builder.syncSaveLayer builder.currentLayer parent moved).1.storage =
      if moved then builder.storage
      else builder.storage.modify builder.currentLayer.saveOffset
        (.withContent (builder.layerContent layer).rect
          (builder.layerContent layer).contentIsClipped
          (builder.layerContent layer).canDistributeOpacity) := by
  obtain ⟨op, stored, isLayer⟩ := Option.bind_eq_some_iff.mp recorded
  cases op with
  | save op restoreIndex =>
    have found : builder.storage[builder.currentLayer.saveOffset]? =
        some (.save op restoreIndex) := stored
    have cut := clippedContent_eq kit builder.contentBounds isLayer
    have accumulated : ∀ (changed : DisplayListBuilder kit) (info : SaveInfo p) bounds,
        (changed.accumulateInLayer info bounds).storage = changed.storage := fun _ _ _ =>
      congrArg Recorder.storage (onlyBounds_accumulateInLayer _ _).recorder_eq
    have content : op.clippedContent kit builder.contentBounds =
        ((builder.layerContent layer).rect, (builder.layerContent layer).contentIsClipped) := by
      rw [cut]
      unfold layerContent
      split <;> simp_all
    unfold syncSaveLayer
    unfold contentBounds at content
    simp only [found, content]
    cases moved with
    | true =>
      split
      · exact accumulated _ _ _
      · rfl
    | false =>
      split
      · exact accumulated _ _ _
      · rfl
  | _ => cases isLayer

/-- The record of the restore changes no layer. -/
theorem layerContent_recordRestore :
    builder.recordRestore.currentLayer = builder.currentLayer ∧
      builder.recordRestore.layerRecord = builder.layerRecord ∧
      builder.recordRestore.layerContent = builder.layerContent := by
  have current : builder.recordRestore.currentLayer = builder.currentLayer := by
    unfold recordRestore
    dsimp only
    split <;> rfl
  refine ⟨current, ?_, ?_⟩
  · rw [layerRecord, current, recorder_recordRestore, layerAt_recordRestore]
    rfl
  · unfold recordRestore
    dsimp only
    split <;> rfl

theorem layerAt_restore (opened : builder.LeavesLayer .restore)
    (recorded : builder.layerRecord = some layer) :
    builder.restore.recorder.layerAt builder.currentLayer.saveOffset =
      some (if builder.moves .restore then layer
        else (layer.1.adding (builder.layerContent layer).contentIsClipped
            (builder.layerContent layer).canDistributeOpacity,
          (builder.layerContent layer).rect)) := by
  obtain ⟨current, record, content⟩ := builder.layerContent_recordRestore
  unfold restore
  cases stack : builder.parents with
  | nil => simp [LeavesLayer, stack] at opened
  | cons parent parents =>
    dsimp only
    rw [recorder_leave, if_pos opened.2]
    have stored := builder.recordRestore.storage_syncSaveLayer parent (builder.moves .restore)
      (record.trans recorded)
    rw [current, content] at stored
    have restored : builder.recordRestore.recorder.layerAt builder.currentLayer.saveOffset =
        some layer := by
      rw [← current]
      exact record.trans recorded
    cases moved : builder.moves .restore with
    | true =>
      rw [moved, if_pos rfl] at stored
      simp only [layerAt, recorder, stored]
      exact restored
    | false =>
      rw [moved, if_neg Bool.false_ne_true] at stored
      have patched := builder.recordRestore.recorder.layerAt_patch
        builder.currentLayer.saveOffset builder.currentLayer.saveOffset
        (.withContent (builder.layerContent layer).rect
          (builder.layerContent layer).contentIsClipped
          (builder.layerContent layer).canDistributeOpacity)
      simp only [layerAt, recorder, stored]
      refine patched.trans ?_
      rw [if_pos rfl]
      simp only [DLOp.layer?_withContent]
      obtain ⟨op, found, isLayer⟩ := Option.bind_eq_some_iff.mp restored
      rw [found]
      simp [isLayer]

/-- The restored record has the content exactly when the change lands. -/
theorem isIn_restored_iff {options : SaveLayerOptions} {rect : SkRect p.Scalar}
    (recorded : builder.layerRecord = some (options.withoutOptimizations, rect)) :
    (builder.layerContent (options.withoutOptimizations, rect)).IsIn
        (if builder.moves .restore then (options.withoutOptimizations, rect)
        else (options.withoutOptimizations.adding
            (builder.layerContent (options.withoutOptimizations, rect)).contentIsClipped
            (builder.layerContent (options.withoutOptimizations, rect)).canDistributeOpacity,
          (builder.layerContent (options.withoutOptimizations, rect)).rect)) ↔
      builder.ChangeLands := by
  cases moved : builder.moves .restore with
  | false =>
    refine iff_of_true ?_ (.inl moved)
    rw [if_neg nofun]
    unfold LayerContent.IsIn SaveLayerOptions.adding
    cases (builder.layerContent (options.withoutOptimizations, rect)).contentIsClipped <;>
      cases (builder.layerContent (options.withoutOptimizations, rect)).canDistributeOpacity <;>
        rfl
  | true =>
    rw [if_pos rfl, LayerContent.isIn_withoutOptimizations]
    simp only [ChangeLands, moved, recorded, Option.mem_def, Option.some.injEq,
      exists_eq_left', false_or, Bool.true_eq_false, layerContent, decide_eq_false_iff_not]
    constructor
    · rintro ⟨whole, cannot, same⟩
      rw [if_neg whole] at same
      exact ⟨by simpa [SaveInfo.isGroupOpacityCompatible] using cannot, same, whole⟩
    · rintro ⟨cannot, same, whole⟩
      rw [if_neg whole]
      exact ⟨whole, by simp [SaveInfo.isGroupOpacityCompatible, cannot], same⟩

/-! ## Runs -/

variable {builder} {left : List Nat}

section

variable (tracked : Tracked builder.recorder left)

include tracked

/-- A call that leaves a layer has computed what its record is to be. -/
theorem computedBy_of_leaves {call : ReceiverCall p} (leaves : builder.LeavesLayer call) :
    ∃ options rect,
      builder.layerRecord = some (SaveLayerOptions.withoutOptimizations options, rect) ∧
        builder.computedBy call = [(builder.currentLayer.saveOffset,
          builder.layerContent (options.withoutOptimizations, rect))] := by
  cases call with
  | restore =>
    have marked : builder.currentLayer.saveOffset ∈ builder.recorder.marks.reduceOption := by
      have mark : builder.recorder.scope.mark = some builder.currentLayer.saveOffset :=
        mark_of_isLayer leaves.2
      rw [marks, mark]
      exact List.mem_cons_self
    obtain ⟨options, rect, recorded⟩ := tracked.pushed _ marked
    have record : builder.layerRecord = some (options.withoutOptimizations, rect) := recorded
    refine ⟨options, rect, record, ?_⟩
    rw [computedBy, if_pos leaves, record]
    rfl
  | _ => exact leaves.elim

/-- The calls are computed for the layers that they leave. -/
theorem layersLeft_eq (call : ReceiverCall p) :
    builder.recorder.layersLeft call = (builder.computedBy call).map Prod.fst := by
  by_cases leaves : builder.LeavesLayer call
  · obtain ⟨options, rect, -, computed⟩ := computedBy_of_leaves tracked leaves
    rw [computed]
    cases call with
    | restore =>
      have mark : builder.recorder.scope.mark = some builder.currentLayer.saveOffset :=
        mark_of_isLayer leaves.2
      have outer : builder.recorder.outer.isEmpty = false := by simpa [recorder] using leaves.1
      simp [layersLeft, outer, mark]
    | _ => exact leaves.elim
  · rw [computedBy, if_neg leaves]
    cases call with
    | restore =>
      cases empty : builder.parents.isEmpty with
      | true => simp_all [layersLeft, recorder]
      | false =>
        have isSave : builder.recorder.scope.isSaveLayer = false :=
          Bool.eq_false_iff.mpr fun isLayer => leaves ⟨empty, isLayer⟩
        rw [layersLeft, mark_of_isSave isSave]
        exact ite_self _
    | _ => rfl

theorem tracked_receive (call : ReceiverCall p) :
    Tracked (builder.receive call).recorder
      (left ++ (builder.computedBy call).map Prod.fst) := by
  rw [← layersLeft_eq tracked]
  have step := builder.receive_step call
  exact tracked.change (step.formed tracked.formed) (step.layerChange tracked.formed)

theorem tracked_receiveAll (calls : List (ReceiverCall p)) :
    Tracked (builder.receiveAll calls).recorder
      (left ++ (builder.computed calls).map Prod.fst) := by
  induction calls generalizing builder left with
  | nil =>
    rw [computed, List.map_nil, List.append_nil]
    exact tracked
  | cons call calls ih =>
    have rest := ih (tracked_receive tracked call)
    rw [List.append_assoc, ← List.map_append] at rest
    exact rest

/-- The record of a layer that was left stays as it is. -/
theorem layerAt_receiveAll
    (calls : List (ReceiverCall p)) {offset : Nat} (wasLeft : offset ∈ left) :
    (builder.receiveAll calls).recorder.layerAt offset = builder.recorder.layerAt offset := by
  induction calls generalizing builder left with
  | nil => rfl
  | cons call calls ih =>
    have step := (builder.receive_step call).layerChange tracked.formed
    rw [← tracked.unchanged step wasLeft]
    exact ih (tracked_receive tracked call) (List.mem_append_left _ wasLeft)

end

/-- The record at an offset has this content. -/
def HasContent (builder : DisplayListBuilder kit) (computed : Nat × LayerContent p) : Prop :=
  ∃ layer, builder.recorder.layerAt computed.1 = some layer ∧ computed.2.IsIn layer

theorem hasContent_computedBy_iff (tracked : Tracked builder.recorder left)
    (call : ReceiverCall p) :
    (∀ computed ∈ builder.computedBy call, (builder.receive call).HasContent computed) ↔
      (builder.LeavesLayer call → builder.ChangeLands) := by
  by_cases leaves : builder.LeavesLayer call
  · obtain ⟨options, rect, recorded, computed⟩ := computedBy_of_leaves tracked leaves
    rw [computed, ← builder.isIn_restored_iff recorded]
    cases call with
    | restore =>
      have restored : (builder.receive .restore).recorder.layerAt _ = _ :=
        builder.layerAt_restore leaves recorded
      simp only [List.mem_singleton, forall_eq, HasContent, restored, Option.some.injEq,
        exists_eq_left', leaves, forall_const]
    | _ => exact leaves.elim
  · rw [computedBy, if_neg leaves]
    exact iff_of_true (fun _ member => nomatch member) fun leavesLayer => (leaves leavesLayer).elim

/-- What was computed is in the records at the end exactly when every change landed. -/
theorem hasContent_computed_iff (tracked : Tracked builder.recorder left)
    (calls : List (ReceiverCall p)) :
    (∀ computed ∈ builder.computed calls, (builder.receiveAll calls).HasContent computed) ↔
      builder.ChangesLand calls := by
  induction calls generalizing builder left with
  | nil => exact iff_of_true (fun _ member => nomatch member) trivial
  | cons call calls ih =>
    have received := tracked_receive tracked call
    have kept : (∀ computed ∈ builder.computedBy call,
          ((builder.receive call).receiveAll calls).HasContent computed) ↔
        ∀ computed ∈ builder.computedBy call, (builder.receive call).HasContent computed := by
      refine forall₂_congr fun computed member => ?_
      have wasLeft : computed.1 ∈ left ++ (builder.computedBy call).map Prod.fst :=
        List.mem_append_right _ (List.mem_map_of_mem member)
      rw [HasContent, HasContent, layerAt_receiveAll received calls wasLeft]
    change (∀ computed ∈ builder.computedBy call ++ (builder.receive call).computed calls,
      ((builder.receive call).receiveAll calls).HasContent computed) ↔ _
    rw [List.forall_mem_append, kept, hasContent_computedBy_iff tracked, ih received]
    rfl

/-! ## Built display lists -/

/-- Nothing is recorded yet. The storage may have any size. -/
structure Begun (builder : DisplayListBuilder kit) : Prop where
  storage : builder.storage = []
  parents : builder.parents = []
  base : builder.currentLayer.isSaveLayer = false

theorem begun_new (kit : Toolkit p) (cullRect : SkRect p.Scalar) (prepareRtree : Bool) :
    (new kit cullRect prepareRtree).Begun := ⟨rfl, rfl, rfl⟩

theorem Begun.tracked (begun : builder.Begun) : Tracked builder.recorder [] := by
  have mark : builder.recorder.scope.mark = none := mark_of_isSave begun.base
  have outer : builder.recorder.outer = [] := by simp [recorder, begun.parents]
  have marks : builder.recorder.marks = [none] := by rw [Recorder.marks, mark, outer]; rfl
  have layers : ∀ offset, builder.recorder.layerAt offset = none := fun offset => by
    simp [layerAt, recorder, begun.storage]
  refine ⟨⟨by rw [marks]; rfl, fun isLayer => ?_, by simp [outer]⟩, ?_, fun offset => ?_, ?_⟩
  · exact absurd (begun.base.symm.trans isLayer) Bool.false_ne_true
  · rw [marks]
    exact List.nodup_nil
  · rw [marks, layers]
    exact iff_of_false Bool.false_ne_true List.not_mem_nil
  · rw [marks]
    exact List.forall_mem_nil _

variable (builder) in
/-- The calls of a receiver that these calls and `Build` make. -/
def recording (calls : List (BuilderCall kit)) : List (ReceiverCall p) :=
  builder.receiverRun calls ++ List.replicate (builder.run calls).parents.length .restore

variable (builder) in
theorem receiveAll_recording (calls : List (BuilderCall kit)) :
    builder.receiveAll (builder.recording calls) = (builder.run calls).restoreAll := by
  rw [recording, receiveAll_append, ← run_eq, receiveAll_restore]
  rfl

end DisplayListBuilder

/-- Each record of a layer has the content that was computed for it, and once. -/
structure BuiltDisplayList.HasComputed (list : BuiltDisplayList p)
    (computed : List (Nat × LayerContent p)) : Prop where
  once : (computed.map Prod.fst).Nodup
  layers : ∀ offset op, list.storage[offset]? = some op → ∀ layer, op.layer? = some layer →
    ∃ content, (offset, content) ∈ computed ∧ content.IsIn layer

namespace DisplayListBuilder

variable {kit : Toolkit p}

/-- With everything restored, no layer is open. -/
theorem marks_restoreAll {builder : DisplayListBuilder kit}
    (formed : builder.restoreAll.recorder.Formed) :
    builder.restoreAll.recorder.marks.reduceOption = [] := by
  have outer : builder.restoreAll.recorder.outer = [] := by
    simp [recorder, builder.parents_restoreAll]
  have base := formed.base
  rw [Recorder.marks, outer] at base ⊢
  have mark : builder.restoreAll.recorder.scope.mark = none := Option.some.inj base
  rw [mark]
  rfl

/-- Each record of a layer that is built has the content that its restore has computed
exactly when every change landed: the record of the restore did not move the records, or
there was nothing to change. -/
theorem hasComputed_iff {builder : DisplayListBuilder kit} (begun : builder.Begun)
    (calls : List (BuilderCall kit)) :
    (builder.run calls).build.1.HasComputed (builder.computed (builder.recording calls)) ↔
      builder.ChangesLand (builder.recording calls) := by
  have tracked := tracked_receiveAll begun.tracked (builder.recording calls)
  rw [← hasContent_computed_iff begun.tracked]
  rw [receiveAll_recording] at tracked ⊢
  rw [List.nil_append] at tracked
  have closed := marks_restoreAll tracked.formed
  have distinct := tracked.distinct
  have recorded := tracked.recorded
  rw [closed, List.nil_append] at distinct
  simp only [closed, List.nil_append] at recorded
  constructor
  · rintro ⟨-, layers⟩ ⟨offset, content⟩ member
    have known := (recorded offset).mpr (List.mem_map_of_mem member)
    obtain ⟨layer, layerAt⟩ := Option.isSome_iff_exists.mp known
    obtain ⟨op, stored, isLayer⟩ := Option.bind_eq_some_iff.mp layerAt
    obtain ⟨found, computed, isIn⟩ := layers offset op stored layer isLayer
    have same := List.inj_on_of_nodup_map distinct computed member rfl
    cases same
    exact ⟨layer, layerAt, isIn⟩
  · intro all
    refine ⟨distinct, fun offset op stored layer isLayer => ?_⟩
    have layerAt : (builder.run calls).restoreAll.recorder.layerAt offset = some layer :=
      Option.bind_eq_some_iff.mpr ⟨op, stored, isLayer⟩
    obtain ⟨⟨same, content⟩, computed, rfl⟩ :=
      List.mem_map.mp ((recorded offset).mp (Option.isSome_of_eq_some layerAt))
    obtain ⟨other, otherAt, isIn⟩ := all _ computed
    cases layerAt.symm.trans otherAt
    exact ⟨content, computed, isIn⟩

/-! ## A layer that fills a page -/

/-- The records of layers, of points and of restores have their sizes. -/
def sizedKit : Toolkit WholeNumbers.payloads where
  __ := WholeNumbers.kit
  recordSize
    | .restore => 8
    | .save (.saveLayer _ _) _ => 32
    | .draw (.drawPoints pts) => 8 + 8 * pts.length
    | _ => 64

/-- Points in a layer. -/
def pointsInLayer (count : Nat) : List (BuilderCall sizedKit) :=
  let point : SkPoint WholeNumbers.Coordinate :=
    ⟨WholeNumbers.saturate 5, WholeNumbers.saturate 5⟩
  [.saveLayer none none none, .draw (.drawPoints .points (List.replicate count point)) {}]

/-- One point leaves room for the restore. -/
theorem hasComputed_point :
    ((new sizedKit sizedKit.kMaxCullRect false).run (pointsInLayer 1)).build.1.HasComputed
      ((new sizedKit sizedKit.kMaxCullRect false).computed
        ((new sizedKit sizedKit.kMaxCullRect false).recording (pointsInLayer 1))) := by
  refine (hasComputed_iff (begun_new sizedKit sizedKit.kMaxCullRect false) _).mpr ?_
  decide +kernel

/-- A layer and 507 points fill the first page, so its restore moves the records, and the
rectangle of the layer stays empty. -/
theorem not_hasComputed :
    ¬ ∀ calls : List (BuilderCall sizedKit),
      ((new sizedKit sizedKit.kMaxCullRect false).run calls).build.1.HasComputed
        ((new sizedKit sizedKit.kMaxCullRect false).computed
          ((new sizedKit sizedKit.kMaxCullRect false).recording calls)) := by
  intro all
  let builder := new sizedKit sizedKit.kMaxCullRect false
  have empty : ((builder.run (pointsInLayer 507)).build.1.storage[0]?.bind DLOp.layer?).map
      Prod.snd = some sizedKit.emptyRect := by decide +kernel
  have filled : ∀ entry ∈ builder.computed (builder.recording (pointsInLayer 507)),
      entry.2.rect ≠ sizedKit.emptyRect := by decide +kernel
  obtain ⟨layer, recorded, rect⟩ := Option.map_eq_some_iff.mp empty
  obtain ⟨op, stored, isLayer⟩ := Option.bind_eq_some_iff.mp recorded
  obtain ⟨content, computed, isIn⟩ := (all (pointsInLayer 507)).layers 0 op stored layer isLayer
  exact filled _ computed ((congrArg Prod.snd isIn).symm.trans rect)

end DisplayListBuilder

end FlutterEngine.DisplayList
