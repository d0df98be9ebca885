import FlutterEngine.Ohos.SemanticsTraversal

/-!
# The nodes by their ids

While the map owns exactly the allocated nodes, a tree is a function from ids
to nodes: an id that is not stored has the node `GetOrAddNode` would make for
it. Merging an update and removing nodes are described by what they do to this
function.
-/

namespace FlutterEngine.Ohos

open FlutterEngine.Std

namespace SemanticsTree

variable {tree before after : SemanticsTree} {id other : Int} {ref : NodeRef}
  {node : SemanticsNodeExtend}

/-- The node of an id, or the fresh one that would be added for it. -/
def nodeOf (tree : SemanticsTree) (id : Int) : SemanticsNodeExtend :=
  ((tree.allSemanticsNodes.lookup id).bind tree.heap).getD {}

def refOf (tree : SemanticsTree) (id : Int) : NodeRef :=
  (tree.allSemanticsNodes.lookup id).getD 0

/-- The pointer is stored in `all_semantics_nodes_`. -/
def Holds (tree : SemanticsTree) (ref : NodeRef) : Prop :=
  ∃ id, tree.allSemanticsNodes.lookup id = some ref

/-- The map owns the allocated nodes, each under one key; a node is either
described and has its key as id, or is still a placeholder. -/
structure Stored (tree : SemanticsTree) : Prop where
  live : ∀ {id ref}, tree.allSemanticsNodes.lookup id = some ref → tree.IsLive ref
  injective : ∀ {id other ref}, tree.allSemanticsNodes.lookup id = some ref →
    tree.allSemanticsNodes.lookup other = some ref → id = other
  owned : ∀ {ref}, tree.IsLive ref → tree.Holds ref
  bound : ∀ {ref}, tree.IsLive ref → ref < tree.allocated
  described : ∀ {id}, (tree.nodeOf id).isExist = true → (tree.nodeOf id).id = id
  placeholder : ∀ {id}, (tree.nodeOf id).isExist = false → (tree.nodeOf id).IsPlaceholder

theorem nodeOf_of_lookup_none (absent : tree.allSemanticsNodes.lookup id = none) :
    tree.nodeOf id = {} := by
  simp [nodeOf, absent]

theorem refOf_of_lookup (found : tree.allSemanticsNodes.lookup id = some ref) :
    tree.refOf id = ref := by
  simp [refOf, found]

theorem lookup_of_exists (exist : (tree.nodeOf id).isExist = true) :
    tree.allSemanticsNodes.lookup id = some (tree.refOf id) := by
  cases found : tree.allSemanticsNodes.lookup id with
  | none => simp [nodeOf_of_lookup_none found] at exist
  | some ref => rw [refOf_of_lookup found]

namespace Stored

theorem heap_of_lookup (stored : Stored tree) (found : tree.allSemanticsNodes.lookup id = some ref) :
    tree.heap ref = some (tree.nodeOf id) := by
  obtain ⟨node, here⟩ := isLive_iff.mp (stored.live found)
  simp [nodeOf, found, here]

theorem deref_of_lookup (stored : Stored tree)
    (found : tree.allSemanticsNodes.lookup id = some ref) : tree.deref ref = .ok (tree.nodeOf id) :=
  deref_of_heap (stored.heap_of_lookup found)

theorem heap_of_holds (stored : Stored tree) (holds : tree.Holds ref) :
    ∃ id, tree.allSemanticsNodes.lookup id = some ref ∧ tree.heap ref = some (tree.nodeOf id) := by
  obtain ⟨id, found⟩ := holds
  exact ⟨id, found, stored.heap_of_lookup found⟩

end Stored

/-! ## Writing and adding nodes -/

@[simp] theorem write_allSemanticsNodes :
    (tree.write ref node).allSemanticsNodes = tree.allSemanticsNodes := rfl

@[simp] theorem write_rootNode : (tree.write ref node).rootNode = tree.rootNode := rfl

@[simp] theorem write_inputFocusedNode :
    (tree.write ref node).inputFocusedNode = tree.inputFocusedNode := rfl

theorem isLive_write (live : tree.IsLive ref) : (tree.write ref node).IsLive = tree.IsLive := by
  ext other
  by_cases equal : other = ref
  · subst equal
    simp [isLive_iff.mp live, isLive_iff]
  · simp only [isLive_iff, write_heap_of_ne equal]

/-- A write to a stored node changes the node of its key. -/
theorem Stored.nodeOf_write (stored : Stored tree)
    (found : tree.allSemanticsNodes.lookup id = some ref) (node : SemanticsNodeExtend) :
    (tree.write ref node).nodeOf = Function.update tree.nodeOf id node := by
  ext1 other
  by_cases equal : other = id
  · subst equal
    simp [nodeOf, found]
  · rw [Function.update_of_ne equal]
    cases there : tree.allSemanticsNodes.lookup other with
    | none => simp [nodeOf, there]
    | some otherRef =>
      have different : otherRef ≠ ref := by
        rintro rfl
        exact equal (stored.injective there found)
      simp [nodeOf, there, write_heap_of_ne different]

theorem Stored.write (stored : Stored tree)
    (found : tree.allSemanticsNodes.lookup id = some ref) (node : SemanticsNodeExtend)
    (described : node.isExist = true → node.id = id)
    (placeholder : node.isExist = false → node.IsPlaceholder) : Stored (tree.write ref node) where
  live := by
    intro other otherRef there
    rw [isLive_write (stored.live found)]
    exact stored.live there
  injective := stored.injective
  owned := by
    intro otherRef live
    rw [isLive_write (stored.live found)] at live
    exact stored.owned live
  bound := by
    intro otherRef live
    rw [isLive_write (stored.live found)] at live
    exact stored.bound live
  described := by
    intro other exist
    rw [stored.nodeOf_write found] at exist ⊢
    by_cases equal : other = id
    · subst equal
      rw [Function.update_self] at exist ⊢
      exact described exist
    · rw [Function.update_of_ne equal] at exist ⊢
      exact stored.described exist
  placeholder := by
    intro other missing
    rw [stored.nodeOf_write found] at missing ⊢
    by_cases equal : other = id
    · subst equal
      rw [Function.update_self] at missing ⊢
      exact placeholder missing
    · rw [Function.update_of_ne equal] at missing ⊢
      exact stored.placeholder missing

/-- Only the map and the heap matter. -/
theorem Stored.of_eq (stored : Stored before) (heap : after.heap = before.heap)
    (allocated : after.allocated = before.allocated)
    (nodes : after.allSemanticsNodes = before.allSemanticsNodes) : Stored after := by
  cases before
  cases after
  cases heap
  cases allocated
  cases nodes
  exact ⟨stored.live, stored.injective, stored.owned, stored.bound, stored.described,
    stored.placeholder⟩

/-- Keys are added only, and only the heap and the map change. -/
structure Extends (before after : SemanticsTree) : Prop where
  rest : after = { before with
    heap := after.heap
    allocated := after.allocated
    allSemanticsNodes := after.allSemanticsNodes }
  keys : ∀ {id ref}, before.allSemanticsNodes.lookup id = some ref →
    after.allSemanticsNodes.lookup id = some ref

theorem Extends.refl (tree : SemanticsTree) : Extends tree tree := ⟨rfl, id⟩

variable {last : SemanticsTree}

theorem Extends.trans (one : Extends before after)
    (two : Extends after last) : Extends before last where
  rest := by
    rw [two.rest, one.rest]
  keys := fun found => two.keys (one.keys found)

theorem Extends.rootNode (step : Extends before after) : after.rootNode = before.rootNode := by
  rw [step.rest]

theorem Extends.inputFocusedNode (step : Extends before after) :
    after.inputFocusedNode = before.inputFocusedNode := by
  rw [step.rest]

theorem extends_write : Extends tree (tree.write ref node) := ⟨rfl, id⟩

theorem lookup_addNode (other : Int) : (tree.addNode id).allSemanticsNodes.lookup other =
    if other = id then some tree.allocated else tree.allSemanticsNodes.lookup other := by
  by_cases equal : other = id
  · subst equal
    simp [addNode]
  · simp [addNode, AList.lookup_insert_ne equal, equal]

theorem isLive_addNode : (tree.addNode id).IsLive ref ↔ ref = tree.allocated ∨ tree.IsLive ref := by
  by_cases equal : ref = tree.allocated
  · simp [isLive_iff, addNode, equal]
  · simp [isLive_iff, addNode, equal]

section Added

variable (stored : Stored tree) (absent : tree.allSemanticsNodes.lookup id = none)
include stored absent

/-- Adding a node gives the id the node it already counted as having. -/
theorem nodeOf_addNode : (tree.addNode id).nodeOf = tree.nodeOf := by
  ext1 other
  rw [nodeOf, lookup_addNode]
  by_cases equal : other = id
  · subst equal
    simp [nodeOf, absent, addNode]
  · rw [if_neg equal]
    cases found : tree.allSemanticsNodes.lookup other with
    | none => simp [nodeOf, found]
    | some ref =>
      have different : ref ≠ tree.allocated := Nat.ne_of_lt (stored.bound (stored.live found))
      simp [nodeOf, found, addNode, different]

omit stored in
theorem extends_addNode : Extends tree (tree.addNode id) where
  rest := rfl
  keys := by
    intro other ref found
    rw [lookup_addNode, if_neg]
    · exact found
    · rintro rfl
      rw [absent] at found
      cases found

theorem Stored.addNode : Stored (tree.addNode id) where
  live := by
    intro other ref found
    rw [lookup_addNode] at found
    rw [isLive_addNode]
    split at found
    · exact .inl (Option.some.inj found).symm
    · exact .inr (stored.live found)
  injective := by
    have apart : ∀ {key}, tree.allSemanticsNodes.lookup key ≠ some tree.allocated := by
      intro key found
      exact (Nat.lt_irrefl _ (stored.bound (stored.live found)))
    intro one two ref first second
    rw [lookup_addNode] at first second
    split at first <;> split at second
    · rename_i equal same
      rw [equal, same]
    · exact absurd (second.trans first.symm) apart
    · exact absurd (first.trans second.symm) apart
    · exact stored.injective first second
  owned := by
    intro ref live
    rcases isLive_addNode.mp live with rfl | live
    · exact ⟨id, by rw [lookup_addNode, if_pos rfl]⟩
    · obtain ⟨other, found⟩ := stored.owned live
      exact ⟨other, (extends_addNode absent).keys found⟩
  bound := by
    intro ref live
    rcases isLive_addNode.mp live with rfl | live
    · exact Nat.lt_succ_self _
    · exact Nat.lt_succ_of_lt (stored.bound live)
  described := by
    rw [nodeOf_addNode stored absent]
    exact stored.described
  placeholder := by
    rw [nodeOf_addNode stored absent]
    exact stored.placeholder

end Added

/-- The ids that became keys. -/
def AddsOnly (before after : SemanticsTree) (added : Int → Prop) : Prop :=
  ∀ id, after.allSemanticsNodes.lookup id ≠ none →
    added id ∨ before.allSemanticsNodes.lookup id ≠ none

/-- What `GetOrAddNode` does to the nodes by their ids: nothing. -/
theorem getOrAddNode_spec (stored : Stored tree) (id : Int) :
    ∃ ref after, tree.getOrAddNode id = (ref, after) ∧ Stored after ∧ Extends tree after ∧
      after.nodeOf = tree.nodeOf ∧ after.allSemanticsNodes.lookup id = some ref ∧
      AddsOnly tree after (· = id) := by
  cases found : tree.allSemanticsNodes.lookup id with
  | some ref =>
    refine ⟨ref, tree, by simp only [getOrAddNode, found], stored, .refl tree, rfl, found, ?_⟩
    exact fun other kept => .inr kept
  | none =>
    refine ⟨tree.allocated, tree.addNode id, by simp only [getOrAddNode, found],
      stored.addNode found, extends_addNode found, nodeOf_addNode stored found, ?_, ?_⟩
    · rw [lookup_addNode, if_pos rfl]
    · intro other kept
      rw [lookup_addNode] at kept
      by_cases equal : other = id
      · exact .inl equal
      · rw [if_neg equal] at kept
        exact .inr kept

/-! ## Merging an update -/

/-- The pointers to the listed nodes are appended to the list of the parent. -/
theorem addChildren_spec {parent : Int} : ∀ {ids : List Int} {tree : SemanticsTree} {ref : NodeRef},
    Stored tree → tree.allSemanticsNodes.lookup parent = some ref →
    (tree.nodeOf parent).isExist = true →
    ∃ after, addChildren ref ids tree = .ok after ∧ Stored after ∧ Extends tree after ∧
      (∀ id ∈ ids, after.allSemanticsNodes.lookup id ≠ none) ∧
      after.nodeOf = Function.update tree.nodeOf parent { tree.nodeOf parent with
        childrenInTraversalOrderList :=
          (tree.nodeOf parent).childrenInTraversalOrderList ++ ids.map after.refOf } ∧
      AddsOnly tree after (· ∈ ids) := by
  intro ids
  induction ids with
  | nil =>
    intro tree ref stored _ _
    refine ⟨tree, rfl, stored, .refl tree, by simp, ?_, fun id kept => .inr kept⟩
    simp
  | cons id ids ih =>
    intro tree ref stored found exist
    obtain ⟨child, added, got, storedAdded, extended, same, childFound, onlyChild⟩ :=
      getOrAddNode_spec stored id
    have parentFound := extended.keys found
    have addedExist : (added.nodeOf parent).isExist = true := by rwa [same]
    have storedWritten := storedAdded.write parentFound ({ added.nodeOf parent with
      childrenInTraversalOrderList :=
        (added.nodeOf parent).childrenInTraversalOrderList ++ [child] })
      (fun _ => storedAdded.described addedExist) (by simp [addedExist])
    have written := storedAdded.nodeOf_write parentFound ({ added.nodeOf parent with
      childrenInTraversalOrderList :=
        (added.nodeOf parent).childrenInTraversalOrderList ++ [child] })
    obtain ⟨after, ran, storedAfter, extendedAfter, all, nodes, onlyRest⟩ :=
      ih storedWritten parentFound (by simpa [written] using addedExist)
    have childAfter := extendedAfter.keys childFound
    refine ⟨after, ?_, storedAfter, extended.trans (extends_write.trans extendedAfter), ?_, ?_, ?_⟩
    · simp only [addChildren, got, storedAdded.deref_of_lookup parentFound, Fault.ok_bind]
      exact ran
    · intro other member
      rcases List.mem_cons.mp member with rfl | member
      · rw [childAfter]
        exact Option.some_ne_none _
      · exact all other member
    · rw [nodes, written, same, Function.update_idem, Function.update_self]
      simp [refOf_of_lookup childAfter]
    · intro other kept
      rcases onlyRest other kept with member | kept
      · exact .inl (List.mem_cons_of_mem _ member)
      · rcases onlyChild other kept with rfl | kept
        · exact .inl List.mem_cons_self
        · exact .inr kept

/-- What an old node is when an update describes it. A hidden node keeps its
pointer list. -/
def mergedNode (after : SemanticsTree) (node : SemanticsNode) (old : SemanticsNodeExtend) :
    SemanticsNodeExtend :=
  { old with
    toSemanticsNode := node
    isExist := true
    childrenInTraversalOrderList :=
      if node.isVisible then node.childrenInTraversalOrder.map after.refOf
      else old.childrenInTraversalOrderList }

/-- The node gets the input focus when it is merged. -/
def takesInputFocus (node : SemanticsNode) : Bool := node.isVisible && node.isFocused

/-- The update names the id, as a node or as a child that is looked up. -/
def Names (node : SemanticsNode) (id : Int) : Prop :=
  id = node.id ∨ node.isVisible = true ∧ id ∈ node.childrenInTraversalOrder

/-- Only the root and the input focus change besides the nodes. -/
def KeepsFocus (before after : SemanticsTree) : Prop :=
  after = { before with
    heap := after.heap
    allocated := after.allocated
    allSemanticsNodes := after.allSemanticsNodes
    rootNode := after.rootNode
    inputFocusedNode := after.inputFocusedNode }

theorem Extends.keepsFocus (step : Extends before after) : KeepsFocus before after := by
  unfold KeepsFocus
  rw [step.rest]

theorem KeepsFocus.trans (one : KeepsFocus before after)
    (two : KeepsFocus after last) : KeepsFocus before last := by
  unfold KeepsFocus at *
  rw [two, one]

section Pointers

variable {focused : Bool}

@[simp] theorem becomeRoot_allSemanticsNodes :
    (tree.becomeRoot id ref).allSemanticsNodes = tree.allSemanticsNodes := by
  unfold becomeRoot
  split <;> rfl

@[simp] theorem becomeRoot_nodeOf : (tree.becomeRoot id ref).nodeOf = tree.nodeOf := by
  unfold becomeRoot
  split <;> rfl

@[simp] theorem becomeRoot_rootNode :
    (tree.becomeRoot id ref).rootNode = if id = 0 then some ref else tree.rootNode := by
  unfold becomeRoot
  split <;> rfl

@[simp] theorem becomeRoot_inputFocusedNode :
    (tree.becomeRoot id ref).inputFocusedNode = tree.inputFocusedNode := by
  unfold becomeRoot
  split <;> rfl

theorem Stored.becomeRoot (stored : Stored tree) (id : Int) (ref : NodeRef) :
    Stored (tree.becomeRoot id ref) := by
  unfold SemanticsTree.becomeRoot
  split
  · exact stored.of_eq rfl rfl rfl
  · exact stored

theorem keepsFocus_becomeRoot : KeepsFocus tree (tree.becomeRoot id ref) := by
  unfold becomeRoot
  split <;> rfl

@[simp] theorem becomeInputFocused_allSemanticsNodes :
    (tree.becomeInputFocused focused ref).allSemanticsNodes = tree.allSemanticsNodes := by
  cases focused <;> rfl

@[simp] theorem becomeInputFocused_nodeOf :
    (tree.becomeInputFocused focused ref).nodeOf = tree.nodeOf := by
  cases focused <;> rfl

@[simp] theorem becomeInputFocused_rootNode :
    (tree.becomeInputFocused focused ref).rootNode = tree.rootNode := by
  cases focused <;> rfl

@[simp] theorem becomeInputFocused_inputFocusedNode :
    (tree.becomeInputFocused focused ref).inputFocusedNode =
      if focused then some ref else tree.inputFocusedNode := by
  cases focused <;> rfl

theorem Stored.becomeInputFocused (stored : Stored tree) (focused : Bool) (ref : NodeRef) :
    Stored (tree.becomeInputFocused focused ref) := by
  cases focused with
  | false => exact stored
  | true => exact stored.of_eq rfl rfl rfl

theorem keepsFocus_becomeInputFocused : KeepsFocus tree (tree.becomeInputFocused focused ref) := by
  cases focused <;> rfl

end Pointers

/-- A described node gets a list of exactly the pointers to its children. -/
theorem relist_spec (ids : List Int) (stored : Stored tree)
    (found : tree.allSemanticsNodes.lookup id = some ref)
    (exist : (tree.nodeOf id).isExist = true) :
    ∃ after, addChildren ref ids
        (tree.write ref { tree.nodeOf id with childrenInTraversalOrderList := [] }) = .ok after ∧
      Stored after ∧ Extends tree after ∧
      (∀ child ∈ ids, after.allSemanticsNodes.lookup child ≠ none) ∧
      after.nodeOf = Function.update tree.nodeOf id
        { tree.nodeOf id with childrenInTraversalOrderList := ids.map after.refOf } ∧
      AddsOnly tree after (· ∈ ids) := by
  have written := stored.nodeOf_write found
    { tree.nodeOf id with childrenInTraversalOrderList := [] }
  have storedBare := stored.write found
    { tree.nodeOf id with childrenInTraversalOrderList := [] }
    (fun _ => stored.described exist) (by simp [exist])
  obtain ⟨after, ran, storedAfter, extended, all, nodes, only⟩ :=
    addChildren_spec storedBare found (by rw [written, Function.update_self]; exact exist)
  refine ⟨after, ran, storedAfter, extends_write.trans extended, all, ?_, only⟩
  rw [nodes, written, Function.update_idem, Function.update_self, List.nil_append]

structure MergedOne (node : SemanticsNode) (before after : SemanticsTree) : Prop where
  stored : Stored after
  rest : KeepsFocus before after
  keys : ∀ {id ref}, before.allSemanticsNodes.lookup id = some ref →
    after.allSemanticsNodes.lookup id = some ref
  self : after.allSemanticsNodes.lookup node.id ≠ none
  children : node.isVisible = true →
    ∀ id ∈ node.childrenInTraversalOrder, after.allSemanticsNodes.lookup id ≠ none
  nodeOf : after.nodeOf =
    Function.update before.nodeOf node.id (mergedNode after node (before.nodeOf node.id))
  only : AddsOnly before after (Names node)
  root : after.rootNode =
    if node.id = 0 then after.allSemanticsNodes.lookup 0 else before.rootNode
  input : after.inputFocusedNode =
    if takesInputFocus node then after.allSemanticsNodes.lookup node.id else before.inputFocusedNode

theorem mergeNode_spec (stored : Stored tree) (node : SemanticsNode) :
    ∃ after, tree.mergeNode node = .ok (takesInputFocus node, after) ∧ MergedOne node tree after := by
  obtain ⟨ref, added, got, storedAdded, extended, same, found, onlySelf⟩ :=
    getOrAddNode_spec stored node.id
  have read := storedAdded.deref_of_lookup found
  have storedWritten :=
    (storedAdded.write found ((tree.nodeOf node.id).updateWithNode node) (fun _ => rfl)
      (by simp [SemanticsNodeExtend.updateWithNode])).becomeRoot node.id ref
  have written := storedAdded.nodeOf_write found ((tree.nodeOf node.id).updateWithNode node)
  rw [same] at written read
  cases visible : node.isVisible with
  | false =>
    refine ⟨_, ?_, {
      stored := storedWritten
      rest := extended.keepsFocus.trans (extends_write.keepsFocus.trans keepsFocus_becomeRoot)
      keys := fun there => by simpa using extended.keys there
      self := by simp [found]
      children := by simp [visible]
      nodeOf := by
        rw [becomeRoot_nodeOf, written]
        simp [mergedNode, visible, SemanticsNodeExtend.updateWithNode]
      only := ?_
      root := ?_
      input := by simp [takesInputFocus, visible, extended.inputFocusedNode] }⟩
    · simp [mergeNode, got, read, takesInputFocus, visible, SemanticsNodeExtend.updateWithNode]
    · intro id kept
      rw [becomeRoot_allSemanticsNodes] at kept
      rcases onlySelf id kept with equal | kept
      · exact .inl (.inl equal)
      · exact .inr kept
    · by_cases zero : node.id = 0
      · rw [zero] at found
        simp [zero, found]
      · simp [zero, extended.rootNode]
  | true =>
    have nodes : (((added.write ref ((tree.nodeOf node.id).updateWithNode node)).becomeRoot
        node.id ref).becomeInputFocused node.isFocused ref).nodeOf =
          Function.update tree.nodeOf node.id ((tree.nodeOf node.id).updateWithNode node) := by
      simpa using written
    have here : (((added.write ref ((tree.nodeOf node.id).updateWithNode node)).becomeRoot
        node.id ref).becomeInputFocused node.isFocused ref).allSemanticsNodes.lookup node.id =
          some ref := by
      simpa using found
    obtain ⟨after, ran, storedAfter, relisted, all, listed, onlyRest⟩ :=
      relist_spec node.childrenInTraversalOrder (storedWritten.becomeInputFocused node.isFocused ref)
        here (by rw [nodes, Function.update_self]; rfl)
    rw [nodes] at listed ran
    have foundAfter : after.allSemanticsNodes.lookup node.id = some ref :=
      relisted.keys (by simpa using found)
    refine ⟨after, ?_, {
      stored := storedAfter
      rest := extended.keepsFocus.trans (extends_write.keepsFocus.trans
        (keepsFocus_becomeRoot.trans (keepsFocus_becomeInputFocused.trans relisted.keepsFocus)))
      keys := fun there => relisted.keys (by simpa using extended.keys there)
      self := by simp [foundAfter]
      children := fun _ => all
      nodeOf := by
        rw [listed, Function.update_idem, Function.update_self]
        simp [mergedNode, visible, SemanticsNodeExtend.updateWithNode]
      only := ?_
      root := ?_
      input := ?_ }⟩
    · rw [Function.update_self] at ran
      simp [mergeNode, got, read, takesInputFocus, visible, SemanticsNodeExtend.updateWithNode]
        at ran ⊢
      simp [ran]
    · intro id kept
      rcases onlyRest id kept with member | kept
      · exact .inl (.inr ⟨visible, member⟩)
      · rw [becomeInputFocused_allSemanticsNodes, becomeRoot_allSemanticsNodes] at kept
        rcases onlySelf id kept with equal | kept
        · exact .inl (.inl equal)
        · exact .inr kept
    · rw [relisted.rootNode]
      by_cases zero : node.id = 0
      · rw [zero] at foundAfter
        simp [zero, foundAfter]
      · simp [zero, extended.rootNode]
    · rw [relisted.inputFocusedNode]
      simp [takesInputFocus, visible, foundAfter, extended.inputFocusedNode]

/-- The description that an update has for an id. -/
def describedBy (nodes : List SemanticsNode) (id : Int) : Option SemanticsNode :=
  nodes.find? (·.id = id)

/-- The node that has the input focus after the loop, unless none takes it. -/
def lastInputFocus (nodes : List SemanticsNode) : Option SemanticsNode :=
  nodes.reverse.find? takesInputFocus

/-- What the first loop of `UpdateWithNodes` does. -/
structure Merged (nodes : List SemanticsNode) (before after : SemanticsTree) : Prop where
  stored : Stored after
  rest : KeepsFocus before after
  keys : ∀ {id ref}, before.allSemanticsNodes.lookup id = some ref →
    after.allSemanticsNodes.lookup id = some ref
  self : ∀ node ∈ nodes, after.allSemanticsNodes.lookup node.id ≠ none
  children : ∀ node ∈ nodes, node.isVisible = true →
    ∀ id ∈ node.childrenInTraversalOrder, after.allSemanticsNodes.lookup id ≠ none
  nodeOf : ∀ id, after.nodeOf id = ((describedBy nodes id).map fun node =>
    mergedNode after node (before.nodeOf id)).getD (before.nodeOf id)
  only : AddsOnly before after fun id => ∃ node ∈ nodes, Names node id
  root : after.rootNode = if (describedBy nodes 0).isSome then after.allSemanticsNodes.lookup 0
    else before.rootNode
  input : after.inputFocusedNode = ((lastInputFocus nodes).map fun node =>
    after.allSemanticsNodes.lookup node.id).getD before.inputFocusedNode

variable {nodes : List SemanticsNode}

theorem mem_of_describedBy {node : SemanticsNode}
    (found : describedBy nodes id = some node) : node ∈ nodes ∧ node.id = id :=
  ⟨List.mem_of_find?_eq_some found, by simpa using List.find?_some found⟩

theorem describedBy_eq_none : describedBy nodes id = none ↔ id ∉ nodes.map (·.id) := by
  simp [describedBy]

theorem lookup_ne_none_of_keys
    (keys : ∀ {id ref}, before.allSemanticsNodes.lookup id = some ref →
      after.allSemanticsNodes.lookup id = some ref)
    (here : before.allSemanticsNodes.lookup id ≠ none) :
    after.allSemanticsNodes.lookup id ≠ none ∧ after.refOf id = before.refOf id := by
  obtain ⟨ref, found⟩ := Option.ne_none_iff_exists'.mp here
  rw [refOf_of_lookup found, refOf_of_lookup (keys found), keys found]
  exact ⟨Option.some_ne_none _, rfl⟩

theorem MergedOne.merged {first : SemanticsNode} (distinct : first.id ∉ nodes.map (·.id))
    (one : MergedOne first before after) (rest : Merged nodes after last) :
    Merged (first :: nodes) before last where
  stored := rest.stored
  rest := one.rest.trans rest.rest
  keys := fun found => rest.keys (one.keys found)
  self := by
    intro node member
    rcases List.mem_cons.mp member with rfl | member
    · exact (lookup_ne_none_of_keys rest.keys one.self).1
    · exact rest.self node member
  children := by
    intro node member visible child among
    rcases List.mem_cons.mp member with rfl | member
    · exact (lookup_ne_none_of_keys rest.keys (one.children visible child among)).1
    · exact rest.children node member visible child among
  nodeOf := by
    intro id
    rw [rest.nodeOf, one.nodeOf]
    by_cases equal : id = first.id
    · subst equal
      have hidden := describedBy_eq_none.mpr distinct
      have here : describedBy (first :: nodes) first.id = some first := by simp [describedBy]
      rw [hidden, here, Option.map_none, Option.map_some, Option.getD_none, Option.getD_some,
        Function.update_self]
      cases visible : first.isVisible with
      | false => simp [mergedNode, visible]
      | true =>
        have same : first.childrenInTraversalOrder.map after.refOf =
            first.childrenInTraversalOrder.map last.refOf := by
          apply List.map_congr_left
          intro child among
          exact (lookup_ne_none_of_keys rest.keys (one.children visible child among)).2.symm
        simp [mergedNode, visible, same]
    · have skipped : describedBy (first :: nodes) id = describedBy nodes id :=
        List.find?_cons_of_neg (by simpa using Ne.symm equal)
      rw [skipped, Function.update_of_ne equal]
  only := by
    intro id kept
    rcases rest.only id kept with ⟨node, member, named⟩ | kept
    · exact .inl ⟨node, List.mem_cons_of_mem _ member, named⟩
    · rcases one.only id kept with named | kept
      · exact .inl ⟨first, List.mem_cons_self, named⟩
      · exact .inr kept
  root := by
    rw [rest.root, one.root]
    by_cases zero : first.id = 0
    · obtain ⟨ref, found⟩ := Option.ne_none_iff_exists'.mp one.self
      rw [zero] at found
      simp [describedBy, zero, found, rest.keys found]
    · have skipped : describedBy (first :: nodes) 0 = describedBy nodes 0 :=
        List.find?_cons_of_neg (by simpa using zero)
      rw [skipped, if_neg zero]
  input := by
    rw [rest.input, one.input]
    unfold lastInputFocus
    rw [List.reverse_cons, List.find?_append]
    cases later : nodes.reverse.find? takesInputFocus with
    | some node => simp
    | none =>
      obtain ⟨ref, found⟩ := Option.ne_none_iff_exists'.mp one.self
      cases takes : takesInputFocus first with
      | true => simp [takes, found, rest.keys found]
      | false => simp [takes]

theorem mergeNodes_spec : ∀ {nodes : List SemanticsNode} {tree : SemanticsTree} (focused : Bool),
    Stored tree → (nodes.map (·.id)).Nodup →
    ∃ after, mergeNodes nodes focused tree = .ok (focused || (lastInputFocus nodes).isSome, after) ∧
      Merged nodes tree after := by
  intro nodes
  induction nodes with
  | nil =>
    intro tree focused stored _
    refine ⟨tree, by simp [mergeNodes, lastInputFocus], {
      stored := stored
      rest := rfl
      keys := id
      self := by simp
      children := by simp
      nodeOf := by simp [describedBy]
      only := fun id kept => .inr kept
      root := by simp [describedBy]
      input := by simp [lastInputFocus] }⟩
  | cons first nodes ih =>
    intro tree focused stored nodup
    rw [List.map_cons, List.nodup_cons] at nodup
    obtain ⟨merged, ran, one⟩ := mergeNode_spec stored first
    obtain ⟨after, looped, rest⟩ := ih (focused || takesInputFocus first) one.stored nodup.2
    refine ⟨after, ?_, one.merged nodup.1 rest⟩
    simp only [mergeNodes, ran, Fault.ok_bind, looped]
    unfold lastInputFocus
    rw [List.reverse_cons, List.find?_append]
    cases nodes.reverse.find? takesInputFocus with
    | some node => simp
    | none => cases takes : takesInputFocus first <;> simp [takes]

end SemanticsTree

end FlutterEngine.Ohos
