import Mathlib.Data.Finset.Card
import FlutterEngine.Accessibility.AXTree

/-!
# Updates of finite trees

Every update of a finite tree comes to an end: marking a node for destruction goes on below it
only when the node existed, and then it does not any more.
-/

namespace FlutterEngine.Accessibility

namespace AXTreeUpdateState

variable {state next : AXTreeUpdateState} {ids : Finset Int} {fuel : Nat}

/-- Only nodes of a set exist. -/
def Within (state : AXTreeUpdateState) (ids : Finset Int) : Prop :=
  ∀ id, state.shouldPendingNodeExistInTree id = true → id ∈ ids

/-- No node exists that did not before. -/
def Shrinks (state next : AXTreeUpdateState) : Prop :=
  ∀ id, next.shouldPendingNodeExistInTree id = true → state.shouldPendingNodeExistInTree id = true

/-- The nodes of a set that exist. -/
def existing (state : AXTreeUpdateState) (ids : Finset Int) : Finset Int :=
  ids.filter fun id => state.shouldPendingNodeExistInTree id = true

theorem Within.shrink (within : state.Within ids) (shrinks : state.Shrinks next) :
    next.Within ids :=
  fun id exist => within id (shrinks id exist)

theorem existing_subset (shrinks : state.Shrinks next) :
    next.existing ids ⊆ state.existing ids := by
  intro id member
  obtain ⟨inside, exist⟩ := Finset.mem_filter.mp member
  exact Finset.mem_filter.mpr ⟨inside, shrinks id exist⟩

theorem shouldPendingNodeExistInTree_set (state : AXTreeUpdateState) (id other : Int)
    (changes : PendingStructureChanges) :
    (state.set id changes).shouldPendingNodeExistInTree other =
      if other = id then changes.nodeExists else state.shouldPendingNodeExistInTree other := by
  unfold shouldPendingNodeExistInTree set
  dsimp only
  rw [Function.update_apply]
  split <;> rfl

variable {id : Int} {newData : AXNodeData}

theorem exists_incrementPendingDestroyNodeCount (other : Int) :
    (state.incrementPendingDestroyNodeCount id).shouldPendingNodeExistInTree other = true ↔
      state.shouldPendingNodeExistInTree other = true ∧ other ≠ id := by
  unfold incrementPendingDestroyNodeCount
  split
  · change (state.set id ⟨false, none, none⟩).shouldPendingNodeExistInTree other = true ↔ _
    rw [shouldPendingNodeExistInTree_set]
    by_cases same : other = id <;> simp [same]
  · next missing =>
      refine ⟨fun exist => ⟨exist, fun same => missing ?_⟩, And.left⟩
      exact same ▸ exist

theorem markSubtreeForDestruction_total (within : state.Within ids)
    (enough : (state.existing ids).card < fuel) (id : Int) :
    ∃ next, markSubtreeForDestruction fuel state id = some next ∧ state.Shrinks next := by
  induction fuel generalizing state id with
  | zero => exact absurd enough (Nat.not_lt_zero _)
  | succ fuel ih =>
    -- A list of nodes, each with less to mark than the fuel.
    have children : ∀ {state : AXTreeUpdateState} (list : List Int), state.Within ids →
        (state.existing ids).card < fuel → ∃ next,
          list.foldlM (markSubtreeForDestruction fuel) state = some next ∧
            state.Shrinks next := by
      intro state list within enough
      induction list generalizing state with
      | nil => exact ⟨state, rfl, fun _ exist => exist⟩
      | cons child list along =>
        obtain ⟨between, marks, shrinks⟩ := ih within enough child
        obtain ⟨next, rest, shrinksRest⟩ := along (within.shrink shrinks)
          ((Finset.card_le_card (existing_subset shrinks)).trans_lt enough)
        refine ⟨next, ?_, fun id exist => shrinks id (shrinksRest id exist)⟩
        rw [List.foldlM_cons, marks]
        exact rest
    rw [markSubtreeForDestruction]
    cases exist : state.shouldPendingNodeExistInTree id with
    | false => exact ⟨state, rfl, fun _ exist => exist⟩
    | true =>
      have shrinks : state.Shrinks (state.incrementPendingDestroyNodeCount id) :=
        fun other exists' => ((exists_incrementPendingDestroyNodeCount other).mp exists').1
      have fewer : ((state.incrementPendingDestroyNodeCount id).existing ids).card <
          (state.existing ids).card := by
        refine Finset.card_lt_card ⟨existing_subset shrinks, fun subset => ?_⟩
        have gone := subset (Finset.mem_filter.mpr ⟨within id exist, exist⟩)
        exact ((exists_incrementPendingDestroyNodeCount id).mp
          (Finset.mem_filter.mp gone).2).2 rfl
      obtain ⟨next, marks, shrinksNext⟩ := children
        (state.getLastKnownPendingNodeData id) (within.shrink shrinks)
        (fewer.trans_le (Nat.le_of_lt_succ enough))
      exact ⟨next, marks, fun other exist => shrinks other (shrinksNext other exist)⟩

theorem existing_card_le (state : AXTreeUpdateState) (ids : Finset Int) :
    (state.existing ids).card ≤ ids.card :=
  Finset.card_le_card (Finset.filter_subset ..)

theorem Within.create (within : state.Within ids) (inside : id ∈ ids)
    {parent : Option Int} (creates : state.incrementPendingCreateNodeCount id parent = some next) :
    next.Within ids := by
  unfold incrementPendingCreateNodeCount at creates
  split at creates
  · cases creates
  · cases creates
    intro other exist
    rw [shouldPendingNodeExistInTree_set] at exist
    split at exist
    · next same => exact same ▸ inside
    · exact within other exist

/-- A computation comes to an end, and leaves only nodes of a set. -/
def Ends (ids : Finset Int) (computed : Computed AXTreeUpdateState) : Prop :=
  ∃ result, computed = some result ∧ ∀ next, result = .ok next → next.Within ids

variable (within : state.Within ids)

include within

theorem Within.createChildren {children : List Int}
    (inside : ∀ child ∈ children, child ∈ ids) (id : Int) :
    Ends ids (some (createChildren id children state)) := by
  refine ⟨_, rfl, fun next created => ?_⟩
  induction children generalizing state with
  | nil =>
    cases created
    exact within
  | cons child children ih =>
    rw [AXTreeUpdateState.createChildren] at created
    split at created
    · cases created
    · next creates =>
        exact ih (within.create (inside child List.mem_cons_self) creates)
          (fun other member => inside other (List.mem_cons_of_mem _ member)) created

theorem Within.createOrDestroy (enough : ids.card < fuel) (inside : ∀ child ∈ newData.childIds, child ∈ ids)
    (children : List Int) : Ends ids (createOrDestroy fuel newData children state) := by
  induction children generalizing state with
  | nil =>
    refine ⟨_, rfl, fun next computed => ?_⟩
    cases computed
    exact within
  | cons child children ih =>
    rw [AXTreeUpdateState.createOrDestroy]
    split
    · next new =>
        split
        · exact ⟨_, rfl, fun next failed => by cases failed⟩
        · split
          · exact ⟨_, rfl, fun next failed => by cases failed⟩
          · next creates => exact ih (within.create (inside child new) creates)
    · obtain ⟨next, marks, shrinks⟩ := markSubtreeForDestruction_total within
        ((existing_card_le state ids).trans_lt enough) child
      rw [marks]
      exact ih (within.shrink shrinks)

theorem Within.setLastKnownPendingNodeData (newData : AXNodeData) :
    (state.setLastKnownPendingNodeData newData).Within ids := by
  intro other exist
  unfold AXTreeUpdateState.setLastKnownPendingNodeData at exist
  rw [shouldPendingNodeExistInTree_set] at exist
  split at exist
  · next same => exact within other (same ▸ exist)
  · exact within other exist

theorem Within.createRoot (enough : ids.card < fuel)
    (inside : id ∈ ids) (isNewRoot : Bool) : Ends ids (state.createRoot fuel id isNewRoot) := by
  unfold AXTreeUpdateState.createRoot
  split
  · exact ⟨_, rfl, fun next kept => Except.ok.inj kept ▸ within⟩
  · split
    · exact ⟨_, rfl, fun next failed => by cases failed⟩
    · split
      · exact ⟨_, rfl, fun next failed => by cases failed⟩
      · next created creates =>
          have withinCreated := within.create inside creates
          split
          · exact ⟨_, rfl, fun next kept => Except.ok.inj kept ▸ withinCreated⟩
          · next root _ =>
              obtain ⟨next, marks, shrinks⟩ := markSubtreeForDestruction_total withinCreated
                ((existing_card_le created ids).trans_lt enough) root
              rw [marks]
              exact ⟨_, rfl, fun final kept =>
                Except.ok.inj kept ▸ withinCreated.shrink shrinks⟩

theorem Within.computePendingChangesToNode (enough : ids.card < fuel) (inside : newData.id ∈ ids)
    (children : ∀ child ∈ newData.childIds, child ∈ ids) (isNewRoot : Bool) :
    Ends ids (state.computePendingChangesToNode fuel newData isNewRoot) := by
  obtain ⟨rooted, computes, withinRooted⟩ := within.createRoot enough inside isNewRoot
  unfold AXTreeUpdateState.computePendingChangesToNode
  rw [computes]
  cases rooted with
  | error error => exact ⟨_, rfl, fun next failed => by cases failed⟩
  | ok rooted =>
    have within := withinRooted rooted rfl
    dsimp only
    split
    · exact ⟨_, rfl, fun next failed => by cases failed⟩
    · have changed : Ends ids (if rooted.doesPendingNodeRequireInit newData.id then
          some (AXTreeUpdateState.createChildren newData.id newData.childIds.mergeSort rooted)
        else AXTreeUpdateState.createOrDestroy fuel newData
          (symmetricDifference (rooted.getLastKnownPendingNodeData newData.id)
            newData.childIds) rooted) := by
        split
        · exact within.createChildren
            (fun child member => children child (List.mem_mergeSort.mp member)) newData.id
        · exact within.createOrDestroy enough children _
      obtain ⟨result, ends, withinResult⟩ := changed
      rw [ends]
      cases result with
      | error error => exact ⟨_, rfl, fun next failed => by cases failed⟩
      | ok last =>
        refine ⟨_, rfl, fun next set => ?_⟩
        rw [← Except.ok.inj set]
        exact (withinResult last rfl).setLastKnownPendingNodeData newData

end AXTreeUpdateState

namespace AXTree

variable {tree : AXTree} {ids : Finset Int} {fuel : Nat}

open AXTreeUpdateState

theorem computeNodes_ends {state : AXTreeUpdateState} (within : state.Within ids)
    (enough : ids.card < fuel) {nodes : List AXNodeData}
    (inside : ∀ newData ∈ nodes, newData.id ∈ ids ∧ ∀ child ∈ newData.childIds, child ∈ ids)
    (rootWillBeCreated : Bool) (rootId : Int) :
    Ends ids (computeNodes fuel rootWillBeCreated rootId nodes state) := by
  induction nodes generalizing state with
  | nil => exact ⟨_, rfl, fun next kept => Except.ok.inj kept ▸ within⟩
  | cons newData nodes ih =>
    obtain ⟨here, children⟩ := inside newData List.mem_cons_self
    obtain ⟨result, computes, withinResult⟩ := within.computePendingChangesToNode enough here
      children (rootWillBeCreated && newData.id == rootId)
    rw [computeNodes, computes]
    cases result with
    | error error => exact ⟨_, rfl, fun next failed => by cases failed⟩
    | ok next =>
      exact ih (withinResult next rfl) fun other member =>
        inside other (List.mem_cons_of_mem _ member)

/-- An update of a finite tree comes to an end with a finite tree. -/
theorem unserialize_total (finite : ∀ id, (tree.nodes id).isSome = true → id ∈ ids)
    {update : AXTreeUpdate}
    (inside : ∀ newData ∈ update.nodes, newData.id ∈ ids ∧ ∀ child ∈ newData.childIds, child ∈ ids)
    (enough : ids.card < fuel) :
    ∃ next, tree.unserialize fuel update = some next ∧
      ∀ id, (next.nodes id).isSome = true → id ∈ ids := by
  have within : tree.updateState.Within ids := by
    intro id exist
    refine finite id ?_
    change (PendingStructureChanges.ofNode (tree.nodes id)).nodeExists = true at exist
    cases found : tree.nodes id with
    | none => simp [PendingStructureChanges.ofNode, found] at exist
    | some node => rfl
  obtain ⟨result, computes, withinResult⟩ := computeNodes_ends within enough inside
    (tree.nodes update.rootId).isNone update.rootId
  unfold unserialize computePendingChanges
  rw [computes]
  cases result with
  | error error => exact ⟨_, rfl, finite⟩
  | ok final =>
    refine ⟨_, rfl, fun id exist => withinResult final rfl id ?_⟩
    unfold applyChanges at exist
    dsimp only at exist
    split at exist
    · next exists' => exact exists'
    · cases exist

end AXTree

end FlutterEngine.Accessibility
