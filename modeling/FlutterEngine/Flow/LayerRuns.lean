import FlutterEngine.DisplayList.CullRect
import FlutterEngine.Flow.LayerScopes
import FlutterEngine.Std.Machine

/-!
# Delegates that are swapped

A run is compared with the same run on a stack whose delegate was installed at the start, and
which gets no backdrop filters. The two agree at every point at which a delegate is installed,
where every transform and every clip has a save below it in the innermost scope. A context that
has saved does not save again, and when it is used in a scope that was opened after that, the
scope ends without a restore of the delegate.
-/

namespace FlutterEngine.Flow

open FlutterEngine.Std DisplayList

variable {p : Payloads} {kit : LayerToolkit p}

/-- Calls on a stack and its scopes. A context is named by how many scopes were opened after it
and have not ended. -/
inductive LayerCall (kit : LayerToolkit p) where
  | save
  | applyState (bounds : SkRect p.Scalar) (canApplyFlags : BitVec 32)
  | endScope
  | mutate (scope : Nat) (call : MutatorCall kit)
  | clearDelegate
  | setDelegate (canvas : Option Nat)
  | setPrerollDelegate (cullRect : SkRect p.Scalar) (matrix : kit.SkMatrix)

/-- A stack and the scopes that are open, the innermost first. -/
structure LayerRun (kit : LayerToolkit p) where
  stack : LayerStateStack kit
  scopes : List LayerScope := []

/-- The call without its backdrop filter. -/
def MutatorCall.plain : MutatorCall kit → MutatorCall kit
  | .applyBackdropFilter bounds _ blendMode => .applyBackdropFilter bounds none blendMode
  | call => call

variable [SkScalar p.Scalar]

namespace LayerStateStack

/-- The stack with this delegate. -/
def install (stack : LayerStateStack kit) : NewDelegate kit → LayerStateStack kit
  | .dummy => stack.clearDelegate
  | .canvas address => stack.setDelegate (some address)
  | .preroll cullRect matrix => stack.setPrerollDelegate cullRect matrix

end LayerStateStack

/-- The delegate is not installed on a canvas that is installed already. -/
def NewDelegate.Fresh (new : NewDelegate kit) (stack : LayerStateStack kit) : Prop :=
  ∀ address, new = .canvas address → stack.delegate.canvas? ≠ some address

namespace LayerRun

variable (run : LayerRun kit)

def call : LayerCall kit → Option (LayerRun kit)
  | .save => some { run with scopes := .mutator ⟨run.stack.stateStack.length, true⟩ :: run.scopes }
  | .applyState bounds canApplyFlags => some
      { stack := if run.stack.needsSaveLayer canApplyFlags then run.stack.saveLayer bounds
          else run.stack
        scopes := .autoRestore run.stack.stateStack.length :: run.scopes }
  | .endScope =>
    match run.scopes with
    | [] => none
    | scope :: scopes => some ⟨run.stack.restoreToCount scope.stackRestoreCount, scopes⟩
  | .mutate scope call =>
    match run.scopes[scope]? with
    | some (.mutator context) =>
      let (context, stack) := context.mutate run.stack call
      some ⟨stack, run.scopes.set scope (.mutator context)⟩
    | _ => none
  | .clearDelegate => some { run with stack := run.stack.clearDelegate }
  | .setDelegate canvas => some { run with stack := run.stack.setDelegate canvas }
  | .setPrerollDelegate cullRect matrix =>
    some { run with stack := run.stack.setPrerollDelegate cullRect matrix }

/-- The call where the delegate was installed at the start: without swaps and backdrop filters. -/
def callFromStart : LayerCall kit → Option (LayerRun kit)
  | .mutate scope call => run.call (.mutate scope call.plain)
  | .clearDelegate | .setDelegate _ | .setPrerollDelegate .. => some run
  | call => run.call call

variable {run}

/-- The call of a context, which is then changed in its place. -/
theorem call_mutate {scope : Nat} {call : MutatorCall kit} {next : LayerRun kit}
    (called : run.call (.mutate scope call) = some next) :
    ∃ context, run.scopes[scope]? = some (.mutator context) ∧
      next = ⟨(context.mutate run.stack call).2,
        run.scopes.set scope (.mutator (context.mutate run.stack call).1)⟩ := by
  simp only [LayerRun.call] at called
  split at called
  · next context found =>
      exact ⟨context, found, (Option.some.inj called).symm⟩
  · cases called

end LayerRun

/-- A run, and the one with a delegate that was installed at the start. -/
structure LayerRuns (kit : LayerToolkit p) where
  run : LayerRun kit
  fromStart : LayerRun kit

/-- Runs over these canvases, beside those with this delegate from the start. -/
def LayerRuns.machine (canvases : Nat → DlCanvas kit) (new : NewDelegate kit) :
    Machine (LayerRuns kit) (LayerCall kit) where
  Initial runs := runs =
    ⟨⟨{ canvases := canvases }, []⟩, ⟨LayerStateStack.install { canvases := canvases } new, []⟩⟩
  step runs call := do
    let run ← runs.run.call call
    let fromStart ← runs.fromStart.callFromStart call
    return ⟨run, fromStart⟩

/-! ## Calls of contexts -/

namespace MutatorCall

def translates (kit : LayerToolkit p) (tx ty : p.Scalar) : Bool :=
  !(tx == kit.literal 0 && ty == kit.literal 0)

def transforms (matrix : kit.SkMatrix) : Bool :=
  if kit.isTranslate matrix then
    translates kit (kit.getTranslateX matrix) (kit.getTranslateY matrix)
  else !kit.isIdentity matrix

/-- The call pushes a transform or a clip. -/
def acts : MutatorCall kit → Bool
  | .translate tx ty => translates kit tx ty
  | .transform33 matrix => transforms matrix
  | .transform44 m44 =>
    if TrackedMatrix.is3x3 m44 then transforms (kit.asM33 m44) else true
  | .integralTransform | .clipRect .. | .clipRRect .. | .clipPath .. => true
  | .saveLayer _ | .applyOpacity .. | .applyImageFilter .. | .applyColorFilter ..
  | .applyBackdropFilter .. => false

end MutatorCall

variable {canvases : Nat → DlCanvas kit} {installed new : NewDelegate kit} {innermost : Nat}
  {outer : List Nat} {stack other : LayerStateStack kit} {context : MutatorContext}

/-- Two contexts that were used alike, on two stacks that got the same entries. -/
structure PairedContexts (canvases : Nat → DlCanvas kit) (installed new : NewDelegate kit)
    (counts : List Nat) (context : MutatorContext)
    (used usedOther : MutatorContext × LayerStateStack kit) : Prop where
  same : usedOther.1 = used.1
  restoreCount : used.1.stackRestoreCount = context.stackRestoreCount
  paired : Paired canvases installed new counts used.2 usedOther.2

namespace Paired

/-- A save is made for a transform or a clip, or lies above the innermost restore count. -/
def Guards (context : MutatorContext) (stack : LayerStateStack kit) (innermost : Nat) : Prop :=
  context.saveNeeded = true ∨ stack.outstanding.imageFilter.isSome = true ∨
    stack.OpensAbove innermost

section

variable (inv : Paired canvases installed new (innermost :: outer) stack other)

include inv

theorem translate (tx ty : p.Scalar)
    (guarded : MutatorCall.translates kit tx ty = true → Guards context stack innermost) :
    PairedContexts canvases installed new (innermost :: outer) context
      (context.translate stack tx ty) (context.translate other tx ty) := by
  unfold MutatorContext.translate
  split
  · next moves =>
      exact ⟨rfl, rfl, inv.pushGuarded context rfl (fun _ => trivial) (guarded moves)⟩
  · exact ⟨rfl, rfl, inv⟩

theorem transform33 (matrix : kit.SkMatrix)
    (guarded : MutatorCall.transforms matrix = true → Guards context stack innermost) :
    PairedContexts canvases installed new (innermost :: outer) context
      (context.transform33 stack matrix) (context.transform33 other matrix) := by
  unfold MutatorContext.transform33
  unfold MutatorCall.transforms at guarded
  by_cases translation : kit.isTranslate matrix = true
  · rw [if_pos translation] at guarded
    rw [if_pos translation, if_pos translation]
    exact inv.translate _ _ guarded
  · rw [if_neg translation] at guarded
    rw [if_neg translation, if_neg translation]
    split
    · next changes =>
        exact ⟨rfl, rfl, inv.pushGuarded context rfl (fun _ => trivial) (guarded changes)⟩
    · exact ⟨rfl, rfl, inv⟩

theorem transform44 (m44 : kit.SkM44)
    (guarded : MutatorCall.acts (.transform44 m44) = true → Guards context stack innermost) :
    PairedContexts canvases installed new (innermost :: outer) context
      (context.transform44 stack m44) (context.transform44 other m44) := by
  unfold MutatorContext.transform44
  simp only [MutatorCall.acts] at guarded
  by_cases plane : TrackedMatrix.is3x3 m44 = true
  · rw [if_pos plane] at guarded
    rw [if_pos plane, if_pos plane]
    exact inv.transform33 _ guarded
  · rw [if_neg plane] at guarded
    rw [if_neg plane, if_neg plane]
    exact ⟨rfl, rfl, inv.pushGuarded context rfl (fun _ => trivial) (guarded rfl)⟩

theorem pushOpacity (bounds : SkRect p.Scalar) (opacity : p.Scalar) :
    Paired canvases installed new (innermost :: outer) (stack.pushOpacity bounds opacity)
      (other.pushOpacity bounds opacity) := by
  have saved := inv.maybeSaveLayer (List.cons_ne_nil _ _)
  unfold LayerStateStack.pushOpacity
  dsimp only
  rw [saved.outstanding]
  exact saved.push (List.cons_ne_nil _ _) ⟨rfl, rfl⟩ nofun

theorem pushImageFilter (bounds : SkRect p.Scalar) (filter : p.ImageFilter) :
    Paired canvases installed new (innermost :: outer) (stack.pushImageFilter bounds filter)
      (other.pushImageFilter bounds filter) := by
  have saved := inv.maybeSaveLayer (List.cons_ne_nil _ _)
  unfold LayerStateStack.pushImageFilter
  dsimp only
  rw [saved.outstanding]
  exact saved.push (List.cons_ne_nil _ _) ⟨rfl, rfl⟩ nofun

theorem pushColorFilter (bounds : SkRect p.Scalar) (filter : p.ColorFilter) :
    Paired canvases installed new (innermost :: outer) (stack.pushColorFilter bounds filter)
      (other.pushColorFilter bounds filter) := by
  have saved : Paired canvases installed new (innermost :: outer)
      (stack.maybeSaveLayerForColorFilter filter) (other.maybeSaveLayerForColorFilter filter) := by
    unfold LayerStateStack.maybeSaveLayerForColorFilter
    rw [inv.outstanding]
    split
    · exact (inv.saveLayer (List.cons_ne_nil _ _) _).1
    · exact inv
  unfold LayerStateStack.pushColorFilter
  dsimp only
  rw [saved.outstanding]
  exact saved.push (List.cons_ne_nil _ _) ⟨rfl, rfl⟩ nofun

theorem pushBackdrop
    (bounds : SkRect p.Scalar) (filter : Option p.ImageFilter) (blendMode : DlBlendMode) :
    Paired canvases installed new (innermost :: outer)
      (stack.pushBackdrop bounds filter blendMode) (other.pushBackdrop bounds none blendMode) := by
  unfold LayerStateStack.pushBackdrop
  rw [inv.outstanding]
  have pushed := inv.push_opening (.backdropFilter bounds filter blendMode stack.outstanding)
    (List.cons_ne_nil _ _) rfl rfl
  exact pushed.1

theorem mutate
    (call : MutatorCall kit) (guarded : call.acts = true → Guards context stack innermost) :
    PairedContexts canvases installed new (innermost :: outer) context
      (context.mutate stack call) (context.mutate other call.plain) := by
  cases call with
  | saveLayer bounds => exact ⟨rfl, rfl, (inv.saveLayer (List.cons_ne_nil _ _) bounds).1⟩
  | applyOpacity bounds opacity =>
    refine ⟨rfl, rfl, ?_⟩
    change Paired _ _ _ _ (if _ then _ else _) (if _ then _ else _)
    split
    · exact inv.pushOpacity bounds opacity
    · exact inv
  | applyImageFilter bounds filter =>
    refine ⟨rfl, rfl, ?_⟩
    cases filter with
    | none => exact inv
    | some filter => exact inv.pushImageFilter bounds filter
  | applyColorFilter bounds filter =>
    refine ⟨rfl, rfl, ?_⟩
    cases filter with
    | none => exact inv
    | some filter => exact inv.pushColorFilter bounds filter
  | applyBackdropFilter bounds filter blendMode =>
    exact ⟨rfl, rfl, inv.pushBackdrop bounds filter blendMode⟩
  | translate tx ty => exact inv.translate tx ty guarded
  | transform33 matrix => exact inv.transform33 matrix guarded
  | transform44 m44 => exact inv.transform44 m44 guarded
  | integralTransform =>
    exact ⟨rfl, rfl, inv.pushGuarded context rfl (fun _ => trivial) (guarded rfl)⟩
  | clipRect rect isAA =>
    exact ⟨rfl, rfl, inv.pushGuarded context rfl (fun _ => trivial) (guarded rfl)⟩
  | clipRRect rrect isAA =>
    exact ⟨rfl, rfl, inv.pushGuarded context rfl (fun _ => trivial) (guarded rfl)⟩
  | clipPath path isAA =>
    exact ⟨rfl, rfl, inv.pushGuarded context rfl (fun _ => trivial) (guarded rfl)⟩

end

/-- A fresh delegate gets the replay. -/
theorem install {counts : List Nat} (inv : Paired canvases installed new counts stack other)
    (next : NewDelegate kit) (fresh : next.Fresh stack) :
    Paired canvases next new counts (stack.install next) other ∧
    Received canvases next (replay stack.stateStack) (stack.install next) := by
  cases next with
  | dummy => exact ⟨inv.cleared, inv.clearDelegate⟩
  | canvas address => exact inv.setDelegate (fresh address rfl)
  | preroll cullRect matrix => exact inv.setPrerollDelegate cullRect matrix

theorem install_outstanding {counts : List Nat}
    (inv : Paired canvases installed new counts stack other) (next : NewDelegate kit) :
    (stack.install next).outstanding = stack.outstanding := by
  by_cases fresh : next.Fresh stack
  · have swapped := (inv.install next fresh).1
    exact swapped.outstanding.symm.trans inv.outstanding
  · unfold NewDelegate.Fresh at fresh
    push Not at fresh
    obtain ⟨address, rfl, same⟩ := fresh
    change (stack.setDelegate (some address)).outstanding = _
    unfold LayerStateStack.setDelegate
    rw [if_pos same.symm]

end Paired

/-! ## Runs -/

/-- A transform or a clip is used in a context that saves for it, or over a save of the innermost
scope. -/
def LayerRun.StaysInScope (run : LayerRun kit) : LayerCall kit → Prop
  | .mutate scope call => call.acts = true →
      ∀ context, run.scopes[scope]? = some (.mutator context) →
        ∀ innermost ∈ run.scopes.head?,
          Paired.Guards context run.stack innermost.stackRestoreCount
  | _ => True

/-- The two runs have the same scopes, and their stacks the same entries. -/
structure LayerRuns.Kept (canvases : Nat → DlCanvas kit) (new : NewDelegate kit)
    (runs : LayerRuns kit) : Prop where
  scopes : runs.fromStart.scopes = runs.run.scopes
  paired : ∃ installed, Paired canvases installed new
    (runs.run.scopes.map LayerScope.stackRestoreCount) runs.run.stack runs.fromStart.stack

namespace LayerRuns

variable {runs next : LayerRuns kit}

/-- A context that is used keeps its restore count. -/
theorem counts_set {scopes : List LayerScope} {scope : Nat} {before after : MutatorContext}
    (found : scopes[scope]? = some (.mutator before))
    (same : after.stackRestoreCount = before.stackRestoreCount) :
    (scopes.set scope (.mutator after)).map LayerScope.stackRestoreCount =
      scopes.map LayerScope.stackRestoreCount := by
  obtain ⟨inside, found⟩ := List.getElem?_eq_some_iff.mp found
  have insideMap : scope < (scopes.map LayerScope.stackRestoreCount).length := by
    rwa [List.length_map]
  have kept : (LayerScope.mutator after).stackRestoreCount =
      (scopes.map LayerScope.stackRestoreCount)[scope] := by
    rw [List.getElem_map, found]
    exact same
  rw [List.map_set, kept, List.set_getElem_self]

theorem kept_call (inv : runs.Kept canvases new) {call : LayerCall kit}
    (meets : runs.run.StaysInScope call)
    (transition : (machine canvases new).step runs call = some next) : next.Kept canvases new := by
  obtain ⟨run, called, rest⟩ := Option.bind_eq_some_iff.mp transition
  obtain ⟨fromStart, calledOther, same⟩ := Option.bind_eq_some_iff.mp rest
  obtain rfl := Option.some.inj same
  obtain ⟨⟨stack, scopes⟩, ⟨other, scopesOther⟩⟩ := runs
  obtain ⟨same, installed, paired⟩ := inv
  obtain rfl : scopesOther = scopes := same
  cases call with
  | save =>
    obtain rfl := Option.some.inj called
    obtain rfl := Option.some.inj calledOther
    have lengths : other.stateStack.length = stack.stateStack.length := by
      rw [paired.stateStack, List.length_map]
    refine ⟨?_, installed, paired.openScope⟩
    change LayerScope.mutator ⟨other.stateStack.length, true⟩ :: _ = _
    rw [lengths]
  | applyState bounds canApplyFlags =>
    obtain rfl := Option.some.inj called
    obtain rfl := Option.some.inj calledOther
    have lengths : other.stateStack.length = stack.stateStack.length := by
      rw [paired.stateStack, List.length_map]
    have needs : other.needsSaveLayer canApplyFlags = stack.needsSaveLayer canApplyFlags := by
      unfold LayerStateStack.needsSaveLayer
      rw [paired.outstanding]
    refine ⟨?_, installed, ?_⟩
    · change LayerScope.autoRestore other.stateStack.length :: _ = _
      rw [lengths]
    · change Paired _ _ _ _ (if _ then _ else _)
        (if other.needsSaveLayer canApplyFlags = true then _ else _)
      rw [needs]
      split
      · exact (paired.openScope.saveLayer (List.cons_ne_nil _ _) bounds).1
      · exact paired.openScope
  | endScope =>
    cases scopesOther with
    | nil => cases called
    | cons scope scopes =>
      obtain rfl := Option.some.inj called
      obtain rfl := Option.some.inj calledOther
      exact ⟨rfl, installed, paired.close⟩
  | mutate scope call =>
    obtain ⟨context, found, rfl⟩ := LayerRun.call_mutate called
    obtain ⟨contextOther, foundOther, rfl⟩ := LayerRun.call_mutate calledOther
    obtain rfl : contextOther = context :=
      LayerScope.mutator.inj (Option.some.inj (foundOther.symm.trans found))
    cases scopesOther with
    | nil => cases found
    | cons innermost outer =>
      have used : PairedContexts canvases installed new _ contextOther
          (contextOther.mutate stack call) (contextOther.mutate other call.plain) :=
        paired.mutate call fun acts => meets acts contextOther found innermost rfl
      refine ⟨?_, installed, ?_⟩
      · dsimp only
        rw [used.same]
      · dsimp only
        rw [counts_set found used.restoreCount]
        exact used.paired
  | clearDelegate =>
    obtain rfl := Option.some.inj called
    obtain rfl := Option.some.inj calledOther
    exact ⟨rfl, _, paired.cleared⟩
  | setDelegate canvas =>
    obtain rfl := Option.some.inj called
    obtain rfl := Option.some.inj calledOther
    exact ⟨rfl, paired.setDelegate_any canvas⟩
  | setPrerollDelegate cullRect matrix =>
    obtain rfl := Option.some.inj called
    obtain rfl := Option.some.inj calledOther
    exact ⟨rfl, _, (paired.setPrerollDelegate cullRect matrix).1⟩

theorem kept_initial (valid : (machine canvases new).Initial runs) : runs.Kept canvases new := by
  obtain rfl := valid
  have start : Paired canvases .dummy .dummy [] ({ canvases := canvases } : LayerStateStack kit)
      { canvases := canvases } :=
    { inScope := ⟨rfl, trivial, .nil, nofun, nofun, .inr ⟨rfl, rfl⟩⟩
      received := ⟨[], .nil, rfl, rfl⟩
      stateStack := rfl
      outstanding := rfl
      fromStart := ⟨rfl, rfl⟩ }
  obtain ⟨paired, received⟩ := start.install new fun _ _ => nofun
  refine ⟨rfl, .dummy, start.inScope, start.received, ?_, paired.outstanding.symm, received⟩
  exact List.map_eq_nil_iff.mp paired.stateStack.symm

/-- A swap leaves the outstanding attributes as they are, and gives a fresh delegate what it would
have got from the start. When all scopes have ended the attributes are the default ones, and the
canvases, with their save counts, are as they were; so is the save count of a tracker. -/
structure Seamless (canvases : Nat → DlCanvas kit) (new : NewDelegate kit)
    (runs : LayerRuns kit) : Prop where
  cleared : runs.run.stack.clearDelegate.outstanding = runs.run.stack.outstanding
  outstanding : (runs.run.stack.install new).outstanding = runs.run.stack.outstanding
  sameDelegate : new.Fresh runs.run.stack →
    (runs.run.stack.install new).delegate = runs.fromStart.stack.delegate
  sameCanvases : new.Fresh runs.run.stack →
    (runs.run.stack.install new).canvases = runs.fromStart.stack.canvases
  ended : runs.run.scopes = [] → runs.run.stack.outstanding = .default kit ∧
    runs.run.stack.canvases = canvases ∧
    ∀ tracker, runs.run.stack.delegate = .preroll tracker → tracker.getSaveCount = 1

/-- Where every transform and clip stays in its scope, delegates are swapped seamlessly. -/
theorem reachable_seamless
    (reached : (machine canvases new).Reachable (fun runs call => runs.run.StaysInScope call)
      runs) : runs.Seamless canvases new := by
  obtain ⟨scopes, installed, paired⟩ := reached.invariant (LayerRuns.Kept canvases new)
    (fun _ valid => kept_initial valid) fun inv meets transition => kept_call inv meets transition
  refine ⟨(Paired.clearDelegate_entries _).2, paired.install_outstanding new, ?_, ?_,
    fun ended => ?_⟩
  · exact fun fresh => ((paired.install new fresh).2.unique paired.fromStart).1
  · exact fun fresh => ((paired.install new fresh).2.unique paired.fromStart).2
  · have empty : runs.run.stack.stateStack = [] := by
      have outermost := paired.inScope.outermost
      rw [ended] at outermost
      exact (outermost.resolve_left List.not_mem_nil).2
    obtain ⟨calls, sent, received⟩ := paired.received
    rw [empty] at sent
    cases sent
    refine ⟨by rw [paired.inScope.outstanding, empty]; rfl, ?_⟩
    cases installed with
    | dummy =>
      refine ⟨received.2, fun tracker installed => ?_⟩
      rw [received.1] at installed
      cases installed
    | canvas address =>
      refine ⟨received.2.trans (Function.update_eq_self address canvases), ?_⟩
      intro tracker installed
      rw [received.1] at installed
      cases installed
    | preroll cullRect matrix =>
      refine ⟨received.2, fun tracker installed => ?_⟩
      rw [received.1] at installed
      cases installed
      rfl

section Samples

instance (context : MutatorContext) (stack : LayerStateStack kit) (innermost : Nat) :
    Decidable (Paired.Guards context stack innermost) :=
  inferInstanceAs (Decidable (_ ∨ _ ∨ ∃ entry ∈ _, _))

instance (run : LayerRun kit) : ∀ call, Decidable (run.StaysInScope call)
  | .mutate scope call =>
    match found : run.scopes[scope]? with
    | some (.mutator context) =>
      decidable_of_iff (call.acts = true → ∀ innermost ∈ run.scopes.head?,
        Paired.Guards context run.stack innermost.stackRestoreCount) (by
          simp [LayerRun.StaysInScope, found])
    | some (.autoRestore _) | none => isTrue (by simp [LayerRun.StaysInScope, found])
  | .save | .applyState .. | .endScope | .clearDelegate | .setDelegate _
  | .setPrerollDelegate .. => isTrue trivial

abbrev rationalPayloads : Payloads where
  __ := plainPayloads
  Scalar := Rat
  RRect := SkRect Rat
  Path := SkRect Rat
  literal number := number

instance : SkScalar rationalPayloads.Scalar where
  beq first second := decide (first = second)
  decidableLE := inferInstanceAs (DecidableLE Rat)
  decidableLT := inferInstanceAs (DecidableLT Rat)

/-- Transforms are the offsets they translate by. -/
def translations : LayerToolkit rationalPayloads where
  __ := Translations.geometry
  roundToAlpha opacity := BitVec.ofInt 8 ⌊opacity * 255 + 1 / 2⌋
  roundToScalar scalar := ⌊scalar + 1 / 2⌋
  isTranslate _ := true
  isIdentity := fun (offset : Rat × Rat) => decide (offset = (0, 0))
  isScaleTranslate _ := true
  getTranslateX offset := offset.1
  getTranslateY offset := offset.2
  setTranslate _ tx ty := (tx, ty)
  setRC offset row column value :=
    if column = 3 then (if row = 0 then (value, offset.2) else (offset.1, value)) else offset
  canCommuteWithOpacity _ := true
  CanvasTransform := Rat × Rat
  canvasTranslate offset tx ty := (offset.1 + tx, offset.2 + ty)
  canvasTransform44 offset other := (offset.1 + other.1, offset.2 + other.2)
  canvasTransform33 offset other := (offset.1 + other.1, offset.2 + other.2)
  canvasSetTransform _ other := other
  canvasFullPerspective offset := offset

def blankCanvases (_ : Nat) : DlCanvas translations := ⟨{ transform := ((0, 0) : Rat × Rat) }, []⟩

/-- The transform of a canvas. -/
def offset (stack : LayerStateStack translations) (address : Nat) : Rat × Rat :=
  (stack.canvases address).current.transform

/-- A canvas takes the place of another one inside of a layer with a backdrop filter. -/
theorem reachable_seamless_swapped :
    ∃ runs : LayerRuns translations,
      (machine blankCanvases (.canvas 1)).Reachable
        (fun runs call => runs.run.StaysInScope call) runs ∧
      runs.run.stack.stateStack.length = 5 ∧ runs.Seamless blankCanvases (.canvas 1) := by
  have start : (machine blankCanvases (.canvas 1)).Reachable
      (fun runs call => runs.run.StaysInScope call) _ := .initial rfl
  obtain ⟨runs, reached, length⟩ := start.exists_of_run
    [.setDelegate (some 0), .save, .mutate 0 (.translate 1 2),
      .mutate 0 (.applyBackdropFilter ⟨0, 0, 9, 9⟩ (some ()) .srcOver),
      .save, .mutate 0 (.clipRect ⟨0, 0, 5, 5⟩ true)]
    (fun runs => runs.run.stack.stateStack.length = 5) (by decide +kernel) (by decide +kernel)
  exact ⟨runs, reached, of_decide_eq_true length, reachable_seamless reached⟩

/-- A context that has saved is used again in the scope of another. -/
theorem not_seamless_of_outer_context :
    ¬∀ runs : LayerRuns translations,
      (machine blankCanvases (.canvas 1)).Reachable (fun _ _ => True) runs →
      runs.Seamless blankCanvases (.canvas 1) := by
  intro seamless
  have start : (machine blankCanvases (.canvas 1)).Reachable (fun _ _ => True) _ := .initial rfl
  obtain ⟨runs, reached, checked⟩ := start.exists_of_run
    [.setDelegate (some 0), .save, .mutate 0 (.translate 1 0), .save, .mutate 1 (.translate 2 0),
      .endScope]
    (fun runs => runs.run.stack.delegate.canvas? = some 0 ∧
      offset (runs.run.stack.install (.canvas 1)) 1 ≠ offset runs.fromStart.stack 1)
    (by decide +kernel) (by decide +kernel)
  obtain ⟨installed, differ⟩ := of_decide_eq_true checked
  refine differ ?_
  unfold offset
  rw [(seamless runs reached).sameCanvases]
  rintro address ⟨⟩
  rw [installed]
  decide

end Samples

end LayerRuns

end FlutterEngine.Flow
