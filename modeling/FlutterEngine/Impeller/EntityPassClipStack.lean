import Mathlib.Data.List.Basic
import FlutterEngine.Std.Machine

/-!
# The clips recorded for replay

`EntityPassClipStack` of `entity_pass_clip_stack.cc`. Every vector is a list with its last item
first. `ContentContext::kEnableStencilThenCover` is true: what `ApplyClipState` would do with a
restore otherwise is not compiled. Access to the back of an empty vector is undefined, and
`none`.
-/

namespace FlutterEngine.Impeller

open FlutterEngine.Std

/-- What of an `Entity` the clips depend on, and the rest of it. -/
structure Entity (Contents : Type) where
  clipDepth : UInt32
  contents : Contents
deriving DecidableEq, Repr

/-- `Contents::ClipCoverage::Type`. -/
inductive ClipCoverageType where
  | noChange
  | append
  | restore
deriving DecidableEq, Repr

/-- `Contents::ClipCoverage`. -/
structure ClipCoverage (Rect : Type) where
  type : ClipCoverageType := .noChange
  coverage : Option Rect := none
deriving DecidableEq, Repr

structure ClipCoverageLayer (Rect : Type) where
  coverage : Option Rect
  clipDepth : Nat
deriving DecidableEq, Repr

structure ReplayResult (Rect Contents : Type) where
  entity : Entity Contents
  clipCoverage : Option Rect
deriving DecidableEq, Repr

structure ClipStateResult where
  shouldRender : Bool := false
  clipDidChange : Bool := false
deriving DecidableEq, Repr

structure SubpassState (Rect Contents : Type) where
  renderedClipEntities : List (ReplayResult Rect Contents) := []
  clipCoverage : List (ClipCoverageLayer Rect)
deriving DecidableEq, Repr

structure EntityPassClipStack (Rect Contents : Type) where
  subpassState : List (SubpassState Rect Contents)
deriving DecidableEq, Repr

variable {Rect Contents : Type}

/-- What `RecordEntity` does to the current subpass. -/
def SubpassState.recordEntity (subpass : SubpassState Rect Contents) (entity : Entity Contents)
    (type : ClipCoverageType) (clipCoverage : Option Rect) : SubpassState Rect Contents :=
  match type with
  | .noChange => subpass
  | .append =>
    { subpass with
      renderedClipEntities := ⟨entity, clipCoverage⟩ :: subpass.renderedClipEntities }
  | .restore => { subpass with renderedClipEntities := subpass.renderedClipEntities.tail }

/-- `resize` of the coverage stack; new layers are value-initialised. -/
def resizeLayers (layers : List (ClipCoverageLayer Rect)) (size : Nat) :
    List (ClipCoverageLayer Rect) :=
  List.replicate (size - layers.length) ⟨none, 0⟩ ++ layers.drop (layers.length - size)

namespace EntityPassClipStack

variable (stack : EntityPassClipStack Rect Contents)

/-- The constructor, of an initial coverage. -/
def create (initialCoverageRect : Rect) : EntityPassClipStack Rect Contents where
  subpassState := [{ clipCoverage := [⟨some initialCoverageRect, 0⟩] }]

def pushSubpass (subpassCoverage : Option Rect) (clipDepth : Nat) :
    EntityPassClipStack Rect Contents where
  subpassState := { clipCoverage := [⟨subpassCoverage, clipDepth⟩] } :: stack.subpassState

def popSubpass : Option (EntityPassClipStack Rect Contents) :=
  match stack.subpassState with
  | [] => none
  | _ :: below => some ⟨below⟩

def getReplayEntities : Option (List (ReplayResult Rect Contents)) :=
  stack.subpassState.head?.map (·.renderedClipEntities.reverse)

def getClipCoverageLayers : Option (List (ClipCoverageLayer Rect)) :=
  stack.subpassState.head?.map (·.clipCoverage.reverse)

/-- The entity with a clip depth relative to the floor, as it is recorded and rendered. -/
def relativeEntity (entity : Entity Contents) (clipDepthFloor : Nat) : Entity Contents :=
  { entity with clipDepth := UInt32.ofInt (entity.clipDepth.toNat - clipDepthFloor) }

/-- The case of `kAppend`, in the current subpass. -/
def applyAppend (subpass : SubpassState Rect Contents) (coverage : Option Rect)
    (entity : Entity Contents) (clipDepthFloor : Nat) :
    Option (ClipStateResult × Entity Contents × SubpassState Rect Contents) := do
  let op ← subpass.clipCoverage.head?
  let appended := { subpass with
    clipCoverage := ⟨coverage, (entity.clipDepth + 1).toNat⟩ :: subpass.clipCoverage }
  -- The whole screen is already being clipped.
  if op.coverage.isNone then return ({ clipDidChange := true }, entity, appended)
  let entity := relativeEntity entity clipDepthFloor
  return ({ shouldRender := true, clipDidChange := true }, entity,
    appended.recordEntity entity .append coverage)

/-- The case of `kRestore`, in the current subpass. -/
def applyRestore (subpass : SubpassState Rect Contents) (entity : Entity Contents) :
    Option (ClipStateResult × Entity Contents × SubpassState Rect Contents) := do
  let back ← subpass.clipCoverage.head?
  let front ← subpass.clipCoverage.getLast?
  -- Drop clip restores that will do nothing.
  if back.clipDepth ≤ entity.clipDepth.toNat then return ({}, entity, subpass)
  -- The index wraps around, and the vector cannot be that long.
  if entity.clipDepth.toNat < front.clipDepth then none
  let restorationIndex := entity.clipDepth.toNat - front.clipDepth
  let restored := { subpass with
    clipCoverage := resizeLayers subpass.clipCoverage (restorationIndex + 1) }
  let back ← restored.clipCoverage.head?
  return ({ clipDidChange := true }, entity,
    if back.coverage.isSome then restored.recordEntity entity .restore none else restored)

/-- `ApplyClipState`, with the entity that it leaves. -/
def applyClipState (globalClipCoverage : ClipCoverage Rect) (entity : Entity Contents)
    (clipDepthFloor : Nat) :
    Option (ClipStateResult × Entity Contents × EntityPassClipStack Rect Contents) :=
  match stack.subpassState with
  | [] => none
  | subpass :: below =>
    (match globalClipCoverage.type with
      | .noChange =>
        some (({ shouldRender := true } : ClipStateResult),
          relativeEntity entity clipDepthFloor, subpass)
      | .append => applyAppend subpass globalClipCoverage.coverage entity clipDepthFloor
      | .restore => applyRestore subpass entity).map
    fun (result, entity, subpass) => (result, entity, ⟨subpass :: below⟩)

end EntityPassClipStack

/-! ## What is in force -/

/-- An append: the depth of its clip, and what it recorded, if anything. -/
structure Append (Rect Contents : Type) where
  clipDepth : Nat
  recorded : Option (ReplayResult Rect Contents)
deriving DecidableEq, Repr

/-- The stack, and for each subpass the appends that are in force, the last one first. -/
structure ClipHistory (Rect Contents : Type) where
  stack : EntityPassClipStack Rect Contents
  inForce : List (List (Append Rect Contents))
deriving DecidableEq, Repr

inductive ClipCall (Rect Contents : Type) where
  | pushSubpass (subpassCoverage : Option Rect) (clipDepth : Nat)
  | popSubpass
  | applyClipState (globalClipCoverage : ClipCoverage Rect) (entity : Entity Contents)
      (clipDepthFloor : Nat)
deriving DecidableEq, Repr

namespace ClipHistory

open EntityPassClipStack

variable (history : ClipHistory Rect Contents)

/-- The coverage stack of the current subpass. -/
def layers : List (ClipCoverageLayer Rect) :=
  (history.stack.subpassState.head?.map (·.clipCoverage)).getD []

/-- The append of this entity, which is recorded when there is something left to clip. -/
def appendOf (coverage : Option Rect) (entity : Entity Contents) (clipDepthFloor : Nat) :
    Append Rect Contents where
  clipDepth := (entity.clipDepth + 1).toNat
  recorded :=
    if history.layers.head?.any (·.coverage.isSome) then
      some ⟨relativeEntity entity clipDepthFloor, coverage⟩
    else none

/-- Appends of the current subpass come into force, and a restore ends those of deeper clips. -/
def change (globalClipCoverage : ClipCoverage Rect) (entity : Entity Contents)
    (clipDepthFloor : Nat) (appends : List (Append Rect Contents)) : List (Append Rect Contents) :=
  match globalClipCoverage.type with
  | .noChange => appends
  | .append => history.appendOf globalClipCoverage.coverage entity clipDepthFloor :: appends
  | .restore => appends.filter (·.clipDepth ≤ entity.clipDepth.toNat)

def call : ClipCall Rect Contents → Option (ClipHistory Rect Contents)
  | .pushSubpass subpassCoverage clipDepth =>
    some ⟨history.stack.pushSubpass subpassCoverage clipDepth, [] :: history.inForce⟩
  | .popSubpass => history.stack.popSubpass.map (⟨·, history.inForce.tail⟩)
  | .applyClipState globalClipCoverage entity clipDepthFloor =>
    (history.stack.applyClipState globalClipCoverage entity clipDepthFloor).map
      fun (_, _, stack) => ⟨stack,
        history.inForce.modifyHead (history.change globalClipCoverage entity clipDepthFloor)⟩

/-- A clip stack of an initial coverage, and the calls of it. -/
def machine : Machine (ClipHistory Rect Contents) (ClipCall Rect Contents) where
  Initial history := ∃ initialCoverageRect, history = ⟨create initialCoverageRect, [[]]⟩
  step := call

end ClipHistory

/-! ## Layers, appends and recorded entities in step -/

/-- The layers of a subpass above its floor are those of the appends in force, and exactly what
the appends recorded is kept for replay. -/
inductive InStep : List (ClipCoverageLayer Rect) → List (Append Rect Contents) →
    List (ReplayResult Rect Contents) → Prop where
  | floor (layer : ClipCoverageLayer Rect) : InStep [layer] [] []
  | append {layer below : ClipCoverageLayer Rect} {rest : List (ClipCoverageLayer Rect)}
      {append : Append Rect Contents} {appends : List (Append Rect Contents)}
      {replays : List (ReplayResult Rect Contents)} (prior : InStep (below :: rest) appends replays)
      (deeper : layer.clipDepth = below.clipDepth + 1) (same : append.clipDepth = layer.clipDepth)
      (recorded : append.recorded.isSome = below.coverage.isSome) :
      InStep (layer :: below :: rest) (append :: appends) (append.recorded.toList ++ replays)

namespace InStep

variable {layers dropped rest : List (ClipCoverageLayer Rect)} {kept : ClipCoverageLayer Rect}
  {appends : List (Append Rect Contents)} {replays : List (ReplayResult Rect Contents)}

section

variable (inStep : InStep layers appends replays)

include inStep

theorem ne_nil : layers ≠ [] := by
  cases inStep <;> exact List.cons_ne_nil _ _

/-- What is recorded is what the appends recorded. -/
theorem replays_eq :
    replays = appends.filterMap (·.recorded) := by
  induction inStep with
  | floor layer => rfl
  | @append layer below rest append appends replays prior deeper same recorded ih =>
    cases held : append.recorded <;> simp [held, ih]

theorem depths_eq :
    appends.map (·.clipDepth) = layers.dropLast.map (·.clipDepth) := by
  induction inStep with
  | floor layer => rfl
  | append prior deeper same recorded ih => simp [same, ih]

/-- The depths of the layers are consecutive. -/
theorem consecutive :
    ∃ floor, layers.reverse.map (·.clipDepth) = List.range' floor layers.length ∧
      ∀ layer ∈ layers.head?, layer.clipDepth + 1 = floor + layers.length := by
  induction inStep with
  | floor layer => exact ⟨layer.clipDepth, rfl, by simp⟩
  | @append layer below rest append appends replays prior deeper same recorded ih =>
    obtain ⟨floor, depths, top⟩ := ih
    have top := top below rfl
    refine ⟨floor, ?_, ?_⟩
    · have depth : layer.clipDepth = floor + 1 * (below :: rest).length := by omega
      rw [List.reverse_cons, List.map_append, depths, List.map_singleton, depth,
        ← List.range'_concat]
      rfl
    · rintro _ ⟨rfl⟩
      rw [List.length_cons]
      omega

end

theorem depth_of_split (inStep : InStep (dropped ++ kept :: rest) appends replays) :
    (∀ layer ∈ (dropped ++ kept :: rest).head?, layer.clipDepth = kept.clipDepth + dropped.length) ∧
      (∀ layer ∈ dropped, kept.clipDepth < layer.clipDepth) := by
  induction dropped generalizing appends replays with
  | nil => simp
  | cons layer dropped ih =>
    have below : ∃ below, (dropped ++ kept :: rest).head? = some below := by
      cases dropped <;> exact ⟨_, rfl⟩
    obtain ⟨below, top⟩ := below
    rw [List.cons_append] at inStep
    generalize sameLayers : dropped ++ kept :: rest = later at inStep top
    cases inStep with
    | floor => cases top
    | @append _ _ _ append appends replays prior deeper =>
      cases top
      rw [← sameLayers] at prior
      obtain ⟨head, deep⟩ := ih prior
      have depth := head below (by rw [sameLayers]; rfl)
      refine ⟨?_, ?_⟩
      · rintro _ ⟨rfl⟩
        rw [List.length_cons]
        omega
      · intro other listed
        obtain rfl | listed := List.mem_cons.mp listed
        · omega
        · exact deep other listed

/-- Taking layers off the top takes off as many recorded entities as there are layers below them
with something left to clip. -/
theorem split (inStep : InStep (dropped ++ kept :: rest) appends replays) :
    ∃ newer older lost left, appends = newer ++ older ∧ replays = lost ++ left ∧
      InStep (kept :: rest) older left ∧
      (∀ append ∈ newer, kept.clipDepth < append.clipDepth) ∧
      lost.length = (dropped ++ [kept]).tail.countP (·.coverage.isSome) := by
  induction dropped generalizing appends replays with
  | nil => exact ⟨[], appends, [], replays, rfl, rfl, inStep, by simp, rfl⟩
  | cons layer dropped ih =>
    have deep := inStep.depth_of_split.2 layer List.mem_cons_self
    have below : ∃ below others, dropped ++ [kept] = below :: others ∧
        dropped ++ kept :: rest = below :: (others ++ rest) := by
      cases dropped with
      | nil => exact ⟨kept, [], rfl, rfl⟩
      | cons below others => exact ⟨below, others ++ [kept], rfl, by simp⟩
    obtain ⟨below, others, tops, laters⟩ := below
    rw [List.cons_append, laters] at inStep
    cases inStep with
    | @append _ _ _ append appends replays prior deeper same recorded =>
      rw [← laters] at prior
      obtain ⟨newer, older, lost, left, rfl, rfl, inStep, deeper, count⟩ := ih prior
      refine ⟨append :: newer, older, append.recorded.toList ++ lost, left, rfl, by simp,
        inStep, ?_, ?_⟩
      · intro other listed
        obtain rfl | listed := List.mem_cons.mp listed
        · rwa [same]
        · exact deeper other listed
      · rw [tops, List.tail_cons] at count
        rw [List.cons_append, List.tail_cons, tops, List.countP_cons, List.length_append, count,
          ← recorded, Option.length_toList]
        cases append.recorded <;> simp [Nat.add_comm]

end InStep

/-! ## Calls -/

section Restore

variable {subpass : SubpassState Rect Contents} {appends : List (Append Rect Contents)}
  {entity : Entity Contents}

/-- Every layer that a restore to this depth drops, but the top one, has nothing left to clip. -/
def DropsOneClip (layers : List (ClipCoverageLayer Rect)) (clipDepth : Nat) : Prop :=
  ∀ layer ∈ layers.tail, clipDepth < layer.clipDepth → layer.coverage = none

variable {replays : List (ReplayResult Rect Contents)}

/-- A restore to a depth between the floor and the top splits the layers at that depth. -/
theorem InStep.split_at {layers : List (ClipCoverageLayer Rect)} {clipDepth : Nat}
    {back front : ClipCoverageLayer Rect} (inStep : InStep layers appends replays)
    (top : layers.head? = some back) (bottom : layers.getLast? = some front)
    (above : front.clipDepth ≤ clipDepth) (below : clipDepth < back.clipDepth) :
    ∃ layer dropped kept rest, layers = layer :: dropped ++ kept :: rest ∧
      kept.clipDepth = clipDepth ∧
      resizeLayers layers (clipDepth - front.clipDepth + 1) = kept :: rest := by
  obtain ⟨floor, depths, highest⟩ := inStep.consecutive
  have highest := highest back top
  have lowest : front.clipDepth = floor := by
    have first := congrArg List.head? depths
    rw [List.head?_map, List.head?_reverse, bottom] at first
    have some_floor : (List.range' floor layers.length).head? = some floor := by
      have nonempty := List.length_pos_of_ne_nil inStep.ne_nil
      rw [List.head?_range', if_neg (by omega)]
    rw [some_floor] at first
    exact Option.some_inj.mp first
  have long : clipDepth - front.clipDepth + 1 ≤ layers.length := by omega
  obtain ⟨kept, rest, remains⟩ : ∃ kept rest,
      layers.drop (layers.length - (clipDepth - front.clipDepth + 1)) = kept :: rest := by
    apply List.exists_cons_of_ne_nil
    rw [Ne, List.drop_eq_nil_iff]
    omega
  obtain ⟨layer, dropped, taken⟩ : ∃ layer dropped,
      layers.take (layers.length - (clipDepth - front.clipDepth + 1)) = layer :: dropped := by
    apply List.exists_cons_of_ne_nil
    rw [Ne, List.take_eq_nil_iff, not_or]
    exact ⟨by omega, inStep.ne_nil⟩
  have whole : layers = layer :: dropped ++ kept :: rest := by
    rw [← taken, ← remains, List.take_append_drop]
  refine ⟨layer, dropped, kept, rest, whole, ?_, ?_⟩
  · have count := congrArg List.length taken
    rw [List.length_take] at count
    rw [whole] at inStep top
    have depth := inStep.depth_of_split.1 back top
    rw [← count] at depth
    omega
  · rw [resizeLayers, remains, Nat.sub_eq_zero_of_le long]
    rfl

/-- Without what is dropped, the kept layers are those of the appends of no deeper clip. -/
theorem filter_kept {newer older : List (Append Rect Contents)} {kept : ClipCoverageLayer Rect}
    {rest : List (ClipCoverageLayer Rect)} (inStep : InStep (kept :: rest) older replays)
    (deeper : ∀ append ∈ newer, kept.clipDepth < append.clipDepth) :
    (newer ++ older).filter (·.clipDepth ≤ kept.clipDepth) = older := by
  have gone : newer.filter (·.clipDepth ≤ kept.clipDepth) = [] := by
    rw [List.filter_eq_nil_iff]
    intro append listed
    simpa using deeper append listed
  have stay : older.filter (·.clipDepth ≤ kept.clipDepth) = older := by
    rw [List.filter_eq_self]
    intro append listed
    obtain ⟨floor, depths, top⟩ := inStep.consecutive
    have top := top kept rfl
    have member : append.clipDepth ∈ (kept :: rest).dropLast.map (·.clipDepth) := by
      rw [← inStep.depths_eq]
      exact List.mem_map_of_mem listed
    have inside : append.clipDepth ∈ (kept :: rest).reverse.map (·.clipDepth) := by
      rw [List.map_reverse, List.mem_reverse]
      exact (List.dropLast_sublist _).map _ |>.subset member
    rw [depths, List.mem_range'_1] at inside
    rw [decide_eq_true_iff]
    omega
  rw [List.filter_append, gone, stay, List.nil_append]

/-- A restore that drops a layer keeps replay in step exactly when it drops one clip. -/
theorem InStep.restore_iff {layers : List (ClipCoverageLayer Rect)}
    {layer kept : ClipCoverageLayer Rect} {dropped rest : List (ClipCoverageLayer Rect)}
    (inStep : InStep layers appends replays) (whole : layers = layer :: dropped ++ kept :: rest) :
    InStep (kept :: rest) (appends.filter (·.clipDepth ≤ kept.clipDepth))
        (if kept.coverage.isSome then replays.tail else replays) ↔
      DropsOneClip layers kept.clipDepth := by
  subst whole
  obtain ⟨newer, older, lost, left, rfl, rfl, keptStep, deeper, count⟩ := inStep.split
  have beyond := inStep.depth_of_split.2
  rw [filter_kept keptStep deeper]
  rw [List.cons_append, List.tail_cons, List.countP_append, List.countP_singleton] at count
  have drops : DropsOneClip (layer :: dropped ++ kept :: rest) kept.clipDepth ↔
      dropped.countP (·.coverage.isSome) = 0 := by
    rw [List.countP_eq_zero]
    refine ⟨fun one other listed => ?_, fun one other listed deep => ?_⟩
    · have none := one other (List.mem_append_left _ listed) (beyond other (.tail _ listed))
      simp [none]
    · obtain listed | listed := List.mem_append.mp listed
      · simpa using one other listed
      · obtain ⟨floor, depths, top⟩ := keptStep.consecutive
        have top := top kept rfl
        have inside : other.clipDepth ∈ (kept :: rest).reverse.map (·.clipDepth) :=
          List.mem_map_of_mem (List.mem_reverse.mpr listed)
        rw [depths, List.mem_range'_1] at inside
        omega
  rw [drops]
  constructor
  · intro restored
    have same := restored.replays_eq.trans keptStep.replays_eq.symm
    split at same
    · rename_i covered
      have length := congrArg List.length same
      rw [List.length_tail, List.length_append, count, if_pos covered] at length
      omega
    · rename_i uncovered
      have length := congrArg List.length same
      rw [List.length_append, count, if_neg uncovered] at length
      omega
  · intro none
    rw [none] at count
    by_cases covered : kept.coverage.isSome = true
    · rw [if_pos covered] at count ⊢
      obtain ⟨replay, rfl⟩ := List.length_eq_one_iff.mp count
      exact keptStep
    · rw [if_neg covered] at count ⊢
      obtain rfl := List.length_eq_zero_iff.mp count
      exact keptStep

end Restore

namespace ClipHistory

open EntityPassClipStack

variable (history : ClipHistory Rect Contents)

/-- What the calls are promised: an entity is appended at the top depth, and restored to a depth
between the floor of the subpass and its top. -/
def Called : ClipCall Rect Contents → Prop
  | .applyClipState ⟨.append, _⟩ entity _ =>
    ∀ back ∈ history.layers.head?, entity.clipDepth.toNat = back.clipDepth
  | .applyClipState ⟨.restore, _⟩ entity _ =>
    (∀ front ∈ history.layers.getLast?, front.clipDepth ≤ entity.clipDepth.toNat) ∧
      ∀ back ∈ history.layers.head?, entity.clipDepth.toNat ≤ back.clipDepth
  | _ => True

/-- A clip is not appended at the last depth of 32 bits, and a restore drops one clip. -/
def DropsOne : ClipCall Rect Contents → Prop
  | .applyClipState ⟨.append, _⟩ entity _ => entity.clipDepth.toNat + 1 < 2 ^ 32
  | .applyClipState ⟨.restore, _⟩ entity _ =>
    DropsOneClip history.layers entity.clipDepth.toNat
  | _ => True

/-- Replay holds what the appends in force recorded, in their order, and the layers above the
floor are those of these appends, at consecutive depths. -/
structure ReplaysInForce : Prop where
  replays : history.stack.getReplayEntities =
    history.inForce.head?.map fun appends => appends.reverse.filterMap (·.recorded)
  layers : ∀ layers ∈ history.stack.getClipCoverageLayers, ∃ floor,
    layers.map (·.clipDepth) = List.range' floor layers.length ∧
      history.inForce.head?.map (fun appends => appends.reverse.map (·.clipDepth)) =
        some (layers.tail.map (·.clipDepth))

/-- Every subpass is in step. -/
def AllInStep : Prop :=
  List.Forall₂
    (fun subpass appends => InStep subpass.clipCoverage appends subpass.renderedClipEntities)
    history.stack.subpassState history.inForce

variable {history} {next : ClipHistory Rect Contents}

theorem AllInStep.replaysInForce (allInStep : history.AllInStep) : history.ReplaysInForce := by
  obtain ⟨stack, inForce⟩ := history
  obtain ⟨subpasses⟩ := stack
  cases allInStep with
  | nil => exact ⟨rfl, by rintro layers ⟨⟩⟩
  | @cons subpass appends below others inStep rest =>
    refine ⟨?_, ?_⟩
    · simp only [getReplayEntities, List.head?_cons, Option.map_some, inStep.replays_eq,
        List.filterMap_reverse]
    · rintro _ ⟨rfl⟩
      obtain ⟨floor, depths, -⟩ := inStep.consecutive
      refine ⟨floor, ?_, ?_⟩
      · rw [depths, List.length_reverse]
      · rw [List.head?_cons, Option.map_some, List.map_reverse, inStep.depths_eq,
          List.tail_reverse, List.map_reverse]

/-- An append keeps the current subpass in step. -/
theorem append_inStep {subpass changed : SubpassState Rect Contents}
    {below : List (SubpassState Rect Contents)} {inForce : List (List (Append Rect Contents))}
    {appends : List (Append Rect Contents)} {coverage : Option Rect}
    {entity left : Entity Contents} {clipDepthFloor : Nat} {result : ClipStateResult}
    (inStep : InStep subpass.clipCoverage appends subpass.renderedClipEntities)
    (called : ∀ back ∈ subpass.clipCoverage.head?, entity.clipDepth.toNat = back.clipDepth)
    (narrow : entity.clipDepth.toNat + 1 < 2 ^ 32)
    (applies : applyAppend subpass coverage entity clipDepthFloor = some (result, left, changed)) :
    InStep changed.clipCoverage
      (appendOf ⟨⟨subpass :: below⟩, inForce⟩ coverage entity clipDepthFloor :: appends)
      changed.renderedClipEntities := by
  obtain ⟨back, top, applies⟩ := Option.bind_eq_some_iff.mp applies
  obtain ⟨rest, layers⟩ : ∃ rest, subpass.clipCoverage = back :: rest :=
    List.head?_eq_some_iff.mp top
  have depth : (entity.clipDepth + 1).toNat = back.clipDepth + 1 := by
    rw [UInt32.toNat_add, called back top]
    exact Nat.mod_eq_of_lt (by rw [← called back top]; exact narrow)
  have recorded : (appendOf ⟨⟨subpass :: below⟩, inForce⟩ coverage entity clipDepthFloor).recorded =
      if back.coverage.isSome then some ⟨relativeEntity entity clipDepthFloor, coverage⟩
      else none := by
    simp [appendOf, ClipHistory.layers, top]
  rw [layers] at inStep
  have appended : InStep (⟨coverage, (entity.clipDepth + 1).toNat⟩ :: back :: rest)
      (appendOf ⟨⟨subpass :: below⟩, inForce⟩ coverage entity clipDepthFloor :: appends) _ :=
    inStep.append depth rfl (by rw [recorded]; cases back.coverage <;> rfl)
  rw [recorded] at appended
  simp only [Option.pure_def] at applies
  split at applies
  · rename_i empty
    cases applies
    rw [Option.isNone_iff_eq_none] at empty
    simpa [empty, layers] using appended
  · rename_i covered
    cases applies
    have covered : back.coverage.isSome = true := Option.isSome_iff_ne_none.mpr (by
      simpa using covered)
    simpa [covered, layers, SubpassState.recordEntity] using appended

/-- A restore that drops one clip, or none, keeps the current subpass in step. -/
theorem restore_inStep {subpass changed : SubpassState Rect Contents}
    {appends : List (Append Rect Contents)} {entity left : Entity Contents}
    {result : ClipStateResult}
    (inStep : InStep subpass.clipCoverage appends subpass.renderedClipEntities)
    (called : (∀ front ∈ subpass.clipCoverage.getLast?, front.clipDepth ≤ entity.clipDepth.toNat) ∧
      ∀ back ∈ subpass.clipCoverage.head?, entity.clipDepth.toNat ≤ back.clipDepth)
    (dropsOne : DropsOneClip subpass.clipCoverage entity.clipDepth.toNat)
    (applies : applyRestore subpass entity = some (result, left, changed)) :
    InStep changed.clipCoverage (appends.filter (·.clipDepth ≤ entity.clipDepth.toNat))
      changed.renderedClipEntities := by
  obtain ⟨back, top, applies⟩ := Option.bind_eq_some_iff.mp applies
  obtain ⟨front, bottom, applies⟩ := Option.bind_eq_some_iff.mp applies
  split at applies
  · rename_i shallow
    cases applies
    obtain ⟨rest, layers⟩ := List.head?_eq_some_iff.mp top
    have same := le_antisymm shallow (called.2 back top)
    have stay := filter_kept (layers ▸ inStep) (List.forall_mem_nil _)
    rw [List.nil_append] at stay
    rw [← same, stay]
    exact inStep
  · rename_i deep
    rw [not_le] at deep
    obtain ⟨layer, dropped, kept, rest, whole, depth, resized⟩ :=
      inStep.split_at top bottom (called.1 front bottom) deep
    rw [if_neg (by have := called.1 front bottom; omega)] at applies
    simp only [resized, List.head?_cons, Option.bind_eq_bind, Option.bind_some,
      Option.pure_def] at applies
    cases applies
    rw [← depth] at dropsOne ⊢
    have restored := (inStep.restore_iff whole).mpr dropsOne
    cases covered : kept.coverage.isSome <;>
      simpa [covered, SubpassState.recordEntity] using restored

/-- Each call that keeps its promises and drops one clip keeps every subpass in step. -/
theorem AllInStep.call {op : ClipCall Rect Contents} (allInStep : history.AllInStep)
    (called : history.Called op) (dropsOne : history.DropsOne op)
    (calls : history.call op = some next) : next.AllInStep := by
  obtain ⟨⟨subpasses⟩, inForce⟩ := history
  cases op with
  | pushSubpass subpassCoverage clipDepth =>
    cases calls
    exact .cons (.floor _) allInStep
  | popSubpass =>
    obtain ⟨stack, pops, rfl⟩ := Option.map_eq_some_iff.mp calls
    cases allInStep with
    | nil => cases pops
    | cons inStep rest =>
      cases pops
      exact rest
  | applyClipState globalClipCoverage entity clipDepthFloor =>
    obtain ⟨⟨result, left, stack⟩, applies, rfl⟩ := Option.map_eq_some_iff.mp calls
    obtain ⟨type, coverage⟩ := globalClipCoverage
    cases allInStep with
    | nil => cases applies
    | @cons subpass appends below others inStep rest =>
      obtain ⟨⟨_, _, changed⟩, changes, same⟩ := Option.map_eq_some_iff.mp applies
      cases same
      cases type with
      | noChange =>
        cases changes
        exact .cons inStep rest
      | append => exact .cons (append_inStep inStep called dropsOne changes) rest
      | restore => exact .cons (restore_inStep inStep called dropsOne changes) rest

/-- In every state reached by calls that keep their promises, where every restore drops one clip
at most, replay holds the recorded appends in force. -/
theorem reachable_replaysInForce
    (reached : (machine : Machine (ClipHistory Rect Contents) _).Reachable
      (fun history op => history.Called op ∧ history.DropsOne op) history) :
    history.ReplaysInForce := by
  apply AllInStep.replaysInForce
  refine reached.invariant AllInStep ?_ fun allInStep meets calls =>
    allInStep.call meets.1 meets.2 calls
  rintro history ⟨initialCoverageRect, rfl⟩
  exact .cons (.floor _) .nil

section Samples

/-- An append with something left to clip at this depth. -/
def clip (clipDepth : UInt32) : ClipCall Unit Unit :=
  .applyClipState ⟨.append, some ()⟩ ⟨clipDepth, ()⟩ 0

def restoreTo (clipDepth : UInt32) : ClipCall Unit Unit :=
  .applyClipState ⟨.restore, none⟩ ⟨clipDepth, ()⟩ 0

instance (layers : List (ClipCoverageLayer Unit)) (clipDepth : Nat) :
    Decidable (DropsOneClip layers clipDepth) :=
  inferInstanceAs (Decidable (∀ layer ∈ layers.tail, _ → _))

instance (history : ClipHistory Unit Unit) (op : ClipCall Unit Unit) :
    Decidable (history.Called op) :=
  match op with
  | .applyClipState ⟨.append, _⟩ _ _ => inferInstanceAs (Decidable (∀ back ∈ _, _ = _))
  | .applyClipState ⟨.restore, _⟩ _ _ =>
    inferInstanceAs (Decidable ((∀ front ∈ _, _ ≤ _) ∧ ∀ back ∈ _, _ ≤ _))
  | .applyClipState ⟨.noChange, _⟩ _ _ | .pushSubpass _ _ | .popSubpass =>
    inferInstanceAs (Decidable True)

instance (history : ClipHistory Unit Unit) (op : ClipCall Unit Unit) :
    Decidable (history.DropsOne op) :=
  match op with
  | .applyClipState ⟨.append, _⟩ _ _ => inferInstanceAs (Decidable (_ < _))
  | .applyClipState ⟨.restore, _⟩ _ _ => inferInstanceAs (Decidable (DropsOneClip _ _))
  | .applyClipState ⟨.noChange, _⟩ _ _ | .pushSubpass _ _ | .popSubpass =>
    inferInstanceAs (Decidable True)

/-- Of two clips restored one after the other, and one more in a subpass, the last is replayed
there. -/
theorem reachable_replaysInForce_restored :
    ∃ history : ClipHistory Unit Unit, machine.Reachable
        (fun history op => history.Called op ∧ history.DropsOne op) history ∧
      history.stack.getReplayEntities = some [⟨⟨2, ()⟩, some ()⟩] ∧ history.ReplaysInForce := by
  have start : machine.Reachable (fun history op => history.Called op ∧ history.DropsOne op)
      (⟨create (), [[]]⟩ : ClipHistory Unit Unit) := .initial ⟨(), rfl⟩
  obtain ⟨history, reached, replayed⟩ := start.exists_of_run
    [clip 0, clip 1, restoreTo 1, restoreTo 0, .pushSubpass (some ()) 2, clip 2]
    (fun history => history.stack.getReplayEntities = some [⟨⟨2, ()⟩, some ()⟩])
    (by decide) (by decide)
  exact ⟨history, reached, by simpa using replayed, reachable_replaysInForce reached⟩

/-- One restore that drops two clips leaves the entity of one of them for replay. -/
theorem not_replaysInForce_of_two_dropped :
    ∃ history : ClipHistory Unit Unit, machine.Reachable Called history ∧
      history.inForce = [[]] ∧
      history.stack.getReplayEntities = some [⟨⟨0, ()⟩, some ()⟩] ∧ ¬history.ReplaysInForce := by
  have start : machine.Reachable Called (⟨create (), [[]]⟩ : ClipHistory Unit Unit) :=
    .initial ⟨(), rfl⟩
  obtain ⟨history, reached, left⟩ := start.exists_of_run [clip 0, clip 1, restoreTo 0]
    (fun history => history.inForce = [[]] ∧
      history.stack.getReplayEntities = some [⟨⟨0, ()⟩, some ()⟩]) (by decide) (by decide)
  obtain ⟨none, left⟩ := of_decide_eq_true left
  refine ⟨history, reached, none, left, fun replaysInForce => ?_⟩
  have same := replaysInForce.replays
  rw [left, none] at same
  cases same

end Samples

end ClipHistory

end FlutterEngine.Impeller
