import FlutterEngine.Ohos.SemanticsUpdate

/-!
# Pointers to deleted nodes

`RemoveNode` forgets the accessibility focus and the requested focus, but not
the input focus. The pointers stay among the stored nodes when an update keeps
the node that had the input focus and reaches the one it gives it to.
-/

namespace FlutterEngine.Ohos

open FlutterEngine.Std

namespace SemanticsTree

variable {tree after merged : SemanticsTree} {id : Int} {ref : NodeRef}
  {forest : Forest NodeRef} {asserts : Bool} {updates : SemanticsNodeUpdates}

/-- The calls that change the tree. -/
inductive TreeOp where
  | updateWithNodes (updates : SemanticsNodeUpdates)
  | setAccessibilityFocusNode (id : Int)
  | clearAccessibilityFocusNode
  | clearSemanticsTree

def perform (asserts : Bool) (tree : SemanticsTree) : TreeOp → Except Fault SemanticsTree
  | .updateWithNodes updates => tree.updateWithNodes asserts updates
  | .setAccessibilityFocusNode id => tree.setAccessibilityFocusNode id
  | .clearAccessibilityFocusNode => tree.clearAccessibilityFocusNode
  | .clearSemanticsTree => .ok tree.clearSemanticsTree

/-- The tree from its construction on; a fault ends the run. -/
def machine (asserts : Bool) : Machine SemanticsTree TreeOp where
  Initial := fun tree => tree = {}
  step := fun tree op => (tree.perform asserts op).toOption

instance : Decidable (tree.Holds ref) :=
  decidable_of_iff (∃ stored ∈ tree.allSemanticsNodes.entries, stored.2 = ref) <| by
    constructor
    · rintro ⟨⟨id, _⟩, member, rfl⟩
      exact ⟨id, AList.mem_lookup_iff.mpr member⟩
    · rintro ⟨id, found⟩
      exact ⟨_, AList.mem_lookup_iff.mp found, rfl⟩

/-- Every pointer the tree holds is null or leads to a stored node. -/
structure PointersLive (tree : SemanticsTree) : Prop where
  rootNode : ∀ ref ∈ tree.rootNode, tree.Holds ref
  focusedNode : ∀ ref ∈ tree.focusedNode, tree.Holds ref
  needRequestFocusedNode : ∀ ref ∈ tree.needRequestFocusedNode, tree.Holds ref
  inputFocusedNode : ∀ ref ∈ tree.inputFocusedNode, tree.Holds ref
  lastInputFocusedNode : ∀ ref ∈ tree.lastInputFocusedNode, tree.Holds ref
  links : ∀ {ref node}, tree.heap ref = some node → node.Within tree.Holds
  children : ∀ {ref node}, tree.heap ref = some node →
    ∀ child ∈ node.childrenInTraversalOrderList, tree.Holds child

/-- The pointer graph that an update leaves below the root is a tree. -/
def LeavesTree (tree : SemanticsTree) (updates : SemanticsNodeUpdates) (merged : SemanticsTree)
    (forest : Forest NodeRef) : Prop :=
  (∃ hasFocusNode, tree.mergeUpdate updates = .ok (hasFocusNode, merged)) ∧
    PointerTree merged forest

/-- The node with the input focus before the update and the one that takes it
are in the tree, and no other node has the id -1. -/
structure KeepsInputFocus (tree : SemanticsTree) (updates : SemanticsNodeUpdates)
    (merged : SemanticsTree) (forest : Forest NodeRef) : Prop where
  last : ∀ ref ∈ tree.inputFocusedNode, ref ∈ forest.labels
  next : ∀ node ∈ lastInputFocus updates.nodes, node.id ∈ visitedIds merged forest
  redirect : NoRedirect merged forest

def StaysTree (tree : SemanticsTree) : TreeOp → Prop
  | .updateWithNodes updates => ∃ merged forest, LeavesTree tree updates merged forest
  | _ => True

def StaysFocused (tree : SemanticsTree) : TreeOp → Prop
  | .updateWithNodes updates => ∃ merged forest,
      LeavesTree tree updates merged forest ∧ KeepsInputFocus tree updates merged forest
  | _ => True

/-- The invariant of the runs. -/
structure SoundPointers (tree : SemanticsTree) : Prop extends Sound tree where
  focused : ∀ ref ∈ tree.focusedNode, tree.IsLive ref
  requested : ∀ ref ∈ tree.needRequestFocusedNode, tree.IsLive ref
  input : ∀ ref ∈ tree.inputFocusedNode, tree.IsLive ref
  lastInput : ∀ ref ∈ tree.lastInputFocusedNode, tree.IsLive ref

theorem SoundPointers.pointersLive (sound : SoundPointers tree) : PointersLive tree where
  rootNode := fun ref member => ⟨0, sound.root ▸ member⟩
  focusedNode := fun ref member => sound.stored.owned (sound.focused ref member)
  needRequestFocusedNode := fun ref member => sound.stored.owned (sound.requested ref member)
  inputFocusedNode := fun ref member => sound.stored.owned (sound.input ref member)
  lastInputFocusedNode := fun ref member => sound.stored.owned (sound.lastInput ref member)
  links := by
    intro ref node found
    obtain ⟨id, -, here⟩ := sound.stored.heap_of_holds (sound.stored.owned (isLive_iff.mpr ⟨_, found⟩))
    obtain rfl := Option.some.inj (found.symm.trans here)
    have within := sound.linked.links id
    have holds : ∀ other, tree.existsAt other = true → tree.Holds other :=
      fun other exist => sound.stored.owned (Stored.isLive_of_exists exist)
    exact {
      parent := fun other member => holds other (within.parent other member)
      previous := fun other member => holds other (within.previous other member)
      next := fun other member => holds other (within.next other member) }
  children := by
    intro ref node found child member
    obtain ⟨id, -, here⟩ := sound.stored.heap_of_holds (sound.stored.owned (isLive_iff.mpr ⟨_, found⟩))
    obtain rfl := Option.some.inj (found.symm.trans here)
    exact sound.stored.owned (sound.linked.children id child member)

theorem initial_soundPointers : SoundPointers {} where
  toSound := sound_empty
  focused := by simp
  requested := by simp
  input := by simp
  lastInput := by simp

/-! ## Accessibility focus -/

theorem setFocused_spec (sound : Sound tree) (found : tree.allSemanticsNodes.lookup id = some ref)
    (focused : Bool) : ∃ after, tree.setFocused ref focused = .ok after ∧ Sound after ∧
      after.IsLive = tree.IsLive ∧ after = { tree with heap := after.heap } := by
  have here := sound.stored.heap_of_lookup found
  obtain ⟨flagged, equal⟩ : ∃ flagged, flagged =
    { tree.nodeOf id with isAccessibilityFocued := focused } := ⟨_, rfl⟩
  have written := sound.stored.nodeOf_write found flagged
  have node : ∀ other, ((tree.write ref flagged).nodeOf other).SameLinks (tree.nodeOf other) ∧
      ((tree.write ref flagged).nodeOf other).childrenInTraversalOrderList =
        (tree.nodeOf other).childrenInTraversalOrderList ∧
      ((tree.write ref flagged).nodeOf other).isExist = (tree.nodeOf other).isExist := by
    intro other
    rw [written]
    by_cases same : other = id
    · subst same
      rw [Function.update_self, equal]
      exact ⟨⟨rfl, rfl, rfl⟩, rfl, rfl⟩
    · rw [Function.update_of_ne same]
      exact ⟨.refl _, rfl, rfl⟩
  have exist : (tree.write ref flagged).existsAt = tree.existsAt := by
    ext1 other
    by_cases same : other = ref
    · subst same
      rw [existsAt_of_heap write_heap_self, existsAt_of_heap here, equal]
    · unfold existsAt coreAt
      rw [write_heap_of_ne same]
  have live : (tree.write ref flagged).IsLive = tree.IsLive := isLive_write (sound.stored.live found)
  refine ⟨tree.write ref flagged, ?_, {
    stored := sound.stored.write found flagged ?_ ?_
    linked := {
      links := fun other => exist ▸ (node other).1.within (sound.linked.links other)
      children := fun other => live ▸ (node other).2.1 ▸ sound.linked.children other
      root := (node 0).1.trans sound.linked.root }
    root := sound.root
    rootExists := fun present => (node 0).2.2.trans (sound.rootExists present) }, live, rfl⟩
  · simp only [setFocused, deref_of_heap here, Fault.ok_bind, Fault.pure_eq, equal]
  · intro described
    rw [equal] at described ⊢
    exact sound.stored.described described
  · intro missing
    rw [equal] at missing ⊢
    have fresh := sound.stored.placeholder missing
    exact ⟨fresh.id, fresh.children, ⟨fresh.unlinked.parent, fresh.unlinked.previous, fresh.unlinked.next⟩⟩

theorem lookup_of_findNodeById (found : tree.findNodeById id = .ok (some ref)) :
    ∃ key, tree.allSemanticsNodes.lookup key = some ref := by
  simp only [findNodeById] at found
  generalize (if id = -1 then 0 else id) = key at found
  cases there : tree.allSemanticsNodes.lookup key with
  | none =>
    rw [there] at found
    cases found
  | some other =>
    rw [there] at found
    obtain ⟨node, -, done⟩ := Fault.bind_eq_ok found
    rw [Fault.pure_eq] at done
    split at done
    · cases done
    · obtain rfl := Option.some.inj (Except.ok.inj done)
      exact ⟨key, there⟩

/-- A change of the accessibility focus and of the flag in its node. -/
theorem SoundPointers.refocused (sound : SoundPointers tree) (soundAfter : Sound after)
    (live : after.IsLive = tree.IsLive)
    (rest : after = { tree with
      heap := after.heap
      focusedNode := after.focusedNode })
    (focused : ∀ ref ∈ after.focusedNode, tree.IsLive ref) : SoundPointers after where
  toSound := soundAfter
  focused := live ▸ focused
  requested := by
    rw [live, rest]
    exact sound.requested
  input := by
    rw [live, rest]
    exact sound.input
  lastInput := by
    rw [live, rest]
    exact sound.lastInput

theorem setAccessibilityFocusNode_sound (sound : SoundPointers tree)
    (done : tree.setAccessibilityFocusNode id = .ok after) : SoundPointers after := by
  obtain ⟨found, searched, done⟩ := Fault.bind_eq_ok done
  cases found with
  | none =>
    cases done
    exact sound
  | some ref =>
    obtain ⟨key, there⟩ := lookup_of_findNodeById searched
    have moved : Sound { tree with focusedNode := some ref } := sound.toSound.of_eq rfl rfl rfl rfl
    obtain ⟨flagged, written, soundAfter, live, rest⟩ := setFocused_spec moved there true
    obtain rfl := Except.ok.inj (written.symm.trans done)
    refine sound.refocused soundAfter live (by rw [rest]) ?_
    rw [rest]
    rintro _ ⟨⟩
    exact sound.stored.live there

theorem clearAccessibilityFocusNode_sound (sound : SoundPointers tree)
    (done : tree.clearAccessibilityFocusNode = .ok after) : SoundPointers after := by
  cases focused : tree.focusedNode with
  | none =>
    simp only [clearAccessibilityFocusNode, focused] at done
    obtain rfl := Except.ok.inj done
    exact sound
  | some ref =>
    simp only [clearAccessibilityFocusNode, focused] at done
    obtain ⟨flagged, written, done⟩ := Fault.bind_eq_ok done
    obtain ⟨id, there⟩ := sound.stored.owned (sound.focused ref focused)
    obtain ⟨final, same, soundAfter, live, rest⟩ := setFocused_spec sound.toSound there false
    obtain rfl := Except.ok.inj (written.symm.trans same)
    obtain rfl := Except.ok.inj done
    refine sound.refocused (soundAfter.of_eq rfl rfl rfl rfl) live (by rw [rest]) ?_
    simp

theorem clearSemanticsTree_bare (stored : Stored tree) (ref : NodeRef) :
    ¬ tree.clearSemanticsTree.IsLive ref := by
  intro live
  obtain ⟨node, found⟩ := isLive_iff.mp live
  simp only [clearSemanticsTree] at found
  split at found
  · cases found
  · rename_i unstored
    obtain ⟨id, there⟩ := stored.owned (isLive_iff.mpr ⟨node, found⟩)
    exact unstored ⟨_, AList.mem_lookup_iff.mp there, rfl⟩

theorem Sound.clearSemanticsTree (sound : Sound tree) : Sound tree.clearSemanticsTree := by
  have empty := clearSemanticsTree_bare sound.stored
  have bare : ∀ id, tree.clearSemanticsTree.nodeOf id = {} :=
    fun id => nodeOf_of_lookup_none rfl
  exact {
    stored := {
      live := by simp [SemanticsTree.clearSemanticsTree]
      injective := by simp [SemanticsTree.clearSemanticsTree]
      owned := fun live => absurd live (empty _)
      bound := fun live => absurd live (empty _)
      described := by simp [bare]
      placeholder := by
        intro id _
        rw [bare]
        exact SemanticsNodeExtend.isPlaceholder_default }
    linked := {
      links := by
        intro id
        rw [bare]
        exact SameLinks_default_within (.refl _)
      children := by simp [bare]
      root := by
        rw [bare]
        exact .refl _ }
    root := rfl
    rootExists := by simp [SemanticsTree.clearSemanticsTree] }

theorem clearSemanticsTree_sound (sound : SoundPointers tree) :
    SoundPointers tree.clearSemanticsTree where
  toSound := sound.toSound.clearSemanticsTree
  focused := by simp [clearSemanticsTree]
  requested := by simp [clearSemanticsTree]
  input := by simp [clearSemanticsTree]
  lastInput := by simp [clearSemanticsTree]

/-! ## The update -/

/-- An update that keeps the input focus leaves every pointer live. -/
theorem updateWithNodes_sound (sound : SoundPointers tree)
    (meets : StaysFocused tree (.updateWithNodes updates))
    (done : tree.updateWithNodes asserts updates = .ok after) : SoundPointers after := by
  obtain ⟨merged, forest, ⟨⟨hasFocusNode, merges⟩, shape⟩, keeps⟩ := meets
  obtain ⟨again, same, merge, ready⟩ := mergeUpdate_spec sound.toSound updates
  obtain ⟨rfl, rfl⟩ := Prod.mk.inj (Except.ok.inj (merges.symm.trans same))
  have updated := updateWithNodes_spec merges ready shape keeps.redirect done
  have alive : ∀ ref ∈ forest.labels, after.IsLive ref :=
    fun ref member => Stored.isLive_of_exists (updated.labels ref member)
  have stays : ∀ ref, tree.IsLive ref → merged.IsLive ref := by
    intro ref live
    exact merge.isLive (sound.stored.of_eq rfl rfl rfl) live
  exact {
    toSound := updated.sound
    focused := by
      intro ref member
      obtain ⟨earlier, live⟩ := updated.focused ref member
      rw [merge.rest] at earlier
      exact live (stays ref (sound.focused ref earlier))
    requested := by
      apply updated.requested
      rw [merge.rest]
      exact fun ref member => stays ref (sound.requested ref member)
    input := by
      intro ref member
      rw [updated.input, merge.input] at member
      cases found : lastInputFocus updates.nodes with
      | none => simp [found] at member
      | some node =>
        simp only [found, Option.isSome_some, if_true, Option.map_some, Option.getD_some] at member
        obtain ⟨label, among, named⟩ := List.mem_map.mp (keeps.next node found)
        obtain ⟨there, -⟩ := ready.stored.exists_id (shape.exist ready label among)
        rw [named] at there
        obtain rfl := Option.some.inj (there.symm.trans member)
        exact alive label among
    lastInput := by
      intro ref member
      rw [updated.lastInput, merge.rest] at member
      exact alive ref (keeps.last ref member) }

/-- No pointer to a deleted node survives an operation, in every run whose
updates keep the input focus in the tree. -/
theorem reachable_pointersLive (asserts : Bool) (reached : (machine asserts).Reachable StaysFocused tree) :
    PointersLive tree := by
  refine SoundPointers.pointersLive (reached.invariant SoundPointers ?_ ?_)
  · rintro _ rfl
    exact initial_soundPointers
  · intro state op next sound meets transition
    have done : state.perform asserts op = .ok next := by
      cases result : state.perform asserts op with
      | error fault => simp [machine, result, Except.toOption] at transition
      | ok after => simpa [machine, result, Except.toOption] using transition
    cases op with
    | updateWithNodes updates => exact updateWithNodes_sound sound meets done
    | setAccessibilityFocusNode id => exact setAccessibilityFocusNode_sound sound done
    | clearAccessibilityFocusNode => exact clearAccessibilityFocusNode_sound sound done
    | clearSemanticsTree =>
      obtain rfl := Except.ok.inj done
      exact clearSemanticsTree_sound sound

/-- A root with a child that has the input focus. -/
def focusedChild : SemanticsNodeUpdates where
  nodes := [
    { id := 0, childrenInTraversalOrder := [1] },
    { id := 1, flags := SemanticsFlags.isFocused.bit }]
  nodup := by decide

/-- The child is hidden. -/
def hiddenChild : SemanticsNodeUpdates where
  nodes := [{ id := 1, flags := SemanticsFlags.isHidden.bit }]
  nodup := by decide

/-- The root has no child any more. -/
def droppedChild : SemanticsNodeUpdates where
  nodes := [{ id := 0 }]
  nodup := by decide

/-- The child is focused and then hidden. -/
theorem reachable_pointersLive_hiddenChild : ∃ tree : SemanticsTree,
    tree.focusedNode = some 1 ∧ tree.lastInputFocusedNode = some 1 ∧
      tree.needFindFocusNodeAgain = true ∧ PointersLive tree := by
  have first : StaysFocused {} (.updateWithNodes focusedChild) :=
    ⟨_, .cons 0 (.cons 1 .empty .empty) .empty,
      ⟨⟨_, rfl⟩, by decide, by decide, by decide⟩, by decide, by decide, by decide⟩
  refine ⟨_, ?_, ?_, ?_, reachable_pointersLive true <|
    .step (.updateWithNodes hiddenChild)
      (.step (.setAccessibilityFocusNode 1)
        (.step (.updateWithNodes focusedChild) (.initial rfl) first rfl) trivial rfl)
      ⟨_, .cons 0 (.cons 1 .empty .empty) .empty,
        ⟨⟨_, rfl⟩, by decide, by decide, by decide⟩, by decide, by decide, by decide⟩ rfl⟩
  · decide
  · decide
  · decide

/-- The input focus of the last update is not forgotten with its node. -/
theorem lastInputFocusedNode_dangles :
    ∃ tree, (machine true).Reachable StaysTree tree ∧ ¬ PointersLive tree := by
  have first : StaysTree {} (.updateWithNodes focusedChild) :=
    ⟨_, .cons 0 (.cons 1 .empty .empty) .empty, ⟨_, rfl⟩, by decide, by decide, by decide⟩
  refine ⟨_, .step (.updateWithNodes droppedChild)
    (.step (.updateWithNodes focusedChild) (.initial rfl) first rfl)
    ⟨_, .cons 0 .empty .empty, ⟨_, rfl⟩, by decide, by decide, by decide⟩ rfl, ?_⟩
  intro live
  exact absurd (live.lastInputFocusedNode 1 (by decide)) (by decide)

end SemanticsTree

end FlutterEngine.Ohos
