import FlutterEngine.Ohos.SemanticsLinks

/-!
# The search for the next node to focus

`FindNextFocusNode` follows one kind of link until it meets a focusable node.
The links of a semantics tree agree with the tree below the root: in the order
of the traversal a child and the node after come later, a parent and the node
before come earlier. So no direction comes back to a node, and the search ends
after at most as many rounds as there are nodes.
-/

namespace FlutterEngine.Ohos

open FlutterEngine.Std

namespace SemanticsTree

variable {tree : SemanticsTree} {forest : Forest NodeRef} {direction : FocusMoveDirection}
  {ref other startNode : NodeRef} {node : SemanticsNodeExtend}

/-! ## Where the links lead -/

namespace Consistent

variable (consistent : Consistent tree forest)
include consistent

theorem live (member : ref ∈ forest.labels) : tree.IsLive ref :=
  Stored.isLive_of_exists
    (consistent.toPointerTree.exist consistent.toSound.ready ref member)

/-- A node outside of the tree was named as a child only. -/
theorem mem_or_placeholder (found : tree.heap ref = some node) :
    ref ∈ forest.labels ∨ node.IsPlaceholder := by
  cases exist : node.isExist with
  | true => exact .inl (consistent.whole ref (by rwa [existsAt_of_heap found]))
  | false =>
    obtain ⟨id, -, here⟩ :=
      consistent.stored.heap_of_holds (consistent.stored.owned (isLive_iff.mpr ⟨node, found⟩))
    obtain rfl := Option.some.inj (found.symm.trans here)
    exact .inr (consistent.stored.placeholder exist)

/-- What the links of a node name is met in this order. -/
theorem links_precede (found : tree.heap ref = some node) :
    (∀ other ∈ node.nextNode, forest.Precedes ref other) ∧
      (∀ other ∈ node.previousNode, forest.Precedes other ref) ∧
      ∀ other ∈ node.parentNode, forest.Precedes other ref := by
  rcases consistent.mem_or_placeholder found with member | placeholder
  · obtain ⟨next, previous, parent⟩ := consistent.chained.precedes member
    rw [linksAt_of_heap found] at next previous parent
    exact ⟨next, fun other linked => (previous other linked).resolve_left (by simp),
      fun other linked => (parent other linked).resolve_left (by simp)⟩
  · rw [placeholder.unlinked.next, placeholder.unlinked.previous, placeholder.unlinked.parent]
    exact ⟨by simp, by simp, by simp⟩

/-- A child is a placeholder outside of the tree or comes later. -/
theorem child (found : tree.heap ref = some node) :
    ∀ child ∈ node.childrenInTraversalOrderList, tree.IsLive child ∧ ref ∈ forest.labels ∧
      (child ∈ forest.labels → forest.Precedes ref child) := by
  intro child among
  rcases consistent.mem_or_placeholder found with member | placeholder
  · have ready := consistent.toSound.ready
    have listed : child ∈ tree.childrenAt ref := by rwa [childrenAt_of_heap found]
    refine ⟨consistent.toPointerTree.childrenLive ready ref member child listed, member, ?_⟩
    intro inside
    have exist := consistent.toPointerTree.exist ready child inside
    exact consistent.follows.precedes member child (List.mem_filter.mpr ⟨listed, exist⟩)
  · rw [placeholder.children] at among
    cases among

end Consistent

/-! ## One step -/

/-- A step stays at its node or leads to one of smaller rank. -/
def Descends (tree : SemanticsTree) (rank : NodeRef → Nat) (direction : FocusMoveDirection) :
    Prop :=
  ∀ {ref node}, tree.heap ref = some node →
    ∃ next, tree.pickNext ref node direction = .ok next ∧ tree.IsLive next ∧
      (next = ref ∨ rank next < rank ref)

theorem getD_descends {rank : NodeRef → Nat} {pointer : Option NodeRef} (live : tree.IsLive ref)
    (leads : ∀ other ∈ pointer, tree.IsLive other ∧ rank other < rank ref) :
    tree.IsLive (pointer.getD ref) ∧
      (pointer.getD ref = ref ∨ rank (pointer.getD ref) < rank ref) := by
  cases pointer with
  | none => exact ⟨live, .inl rfl⟩
  | some other => exact ⟨(leads other rfl).1, .inr (leads other rfl).2⟩

/-- The search through the children reads live nodes and finds one of them. -/
theorem findM?_spec {refs : List NodeRef} (live : ∀ ref ∈ refs, tree.IsLive ref)
    (accepts : SemanticsNodeExtend → Bool) :
    ∃ candidate, (refs.findM? fun ref => do
        let child ← tree.deref ref
        return accepts child) = .ok candidate ∧ ∀ other ∈ candidate, other ∈ refs := by
  induction refs with
  | nil => exact ⟨none, rfl, by simp⟩
  | cons ref refs ih =>
    obtain ⟨child, -, read⟩ := deref_of_live (live ref (by simp))
    rw [List.findM?, read]
    cases accepted : accepts child with
    | true =>
      refine ⟨some ref, by simp [accepted], ?_⟩
      rintro other ⟨⟩
      simp
    | false =>
      obtain ⟨candidate, found, among⟩ := ih fun other member => live other (by simp [member])
      refine ⟨candidate, by simpa [accepted] using found, ?_⟩
      exact fun other member => List.mem_cons_of_mem _ (among other member)

namespace Consistent

variable (consistent : Consistent tree forest)
include consistent

/-- Backwards the position in the traversal decreases. -/
theorem earlier (order : forest.Precedes other ref) :
    tree.IsLive other ∧ forest.position other < forest.position ref :=
  ⟨consistent.live order.left_mem, order.position_lt consistent.nodup⟩

/-- Forwards the number of nodes that remain decreases. -/
theorem later (order : forest.Precedes ref other) :
    tree.IsLive other ∧ forest.remaining other < forest.remaining ref :=
  ⟨consistent.live order.right_mem, order.remaining_lt consistent.nodup⟩

theorem later_child (found : tree.heap ref = some node) :
    ∀ child ∈ node.childrenInTraversalOrderList,
      tree.IsLive child ∧ forest.remaining child < forest.remaining ref := by
  intro child among
  obtain ⟨live, member, order⟩ := consistent.child found child among
  by_cases inside : child ∈ forest.labels
  · exact consistent.later (order inside)
  · exact ⟨live, Forest.remaining_lt_of_notMem member inside⟩

theorem descends_backwards (upward : direction = .up ∨ direction = .left ∨ direction = .backward) :
    tree.Descends forest.position direction := by
  intro ref node found
  have live : tree.IsLive ref := isLive_iff.mpr ⟨node, found⟩
  have parent := fun other member =>
    consistent.earlier ((consistent.links_precede found).2.2 other member)
  have previous := fun other member =>
    consistent.earlier ((consistent.links_precede found).2.1 other member)
  rcases upward with rfl | rfl | rfl
  · exact ⟨_, rfl, getD_descends live parent⟩
  · exact ⟨_, rfl, getD_descends live previous⟩
  · refine ⟨_, rfl, getD_descends live ?_⟩
    intro other member
    cases linked : node.previousNode with
    | none =>
      rw [linked] at member
      exact parent other member
    | some first =>
      rw [linked] at member
      exact previous other (linked ▸ member)

theorem descends_forwards
    (downward : direction = .down ∨ direction = .right ∨ direction = .forward) :
    tree.Descends forest.remaining direction := by
  intro ref node found
  have live : tree.IsLive ref := isLive_iff.mpr ⟨node, found⟩
  have next := fun other member =>
    consistent.later ((consistent.links_precede found).1 other member)
  have child := consistent.later_child found
  rcases downward with rfl | rfl | rfl
  · refine ⟨_, rfl, getD_descends live ?_⟩
    exact fun other member => child other (List.mem_of_mem_head? member)
  · exact ⟨_, rfl, getD_descends live next⟩
  · obtain ⟨candidate, searched, among⟩ := findM?_spec (fun other member => (child other member).1)
      fun child => child.isExist && child.focusableInSubtree
    refine ⟨(candidate.or node.nextNode).getD ref, ?_, getD_descends live ?_⟩
    · simp only [pickNext]
      rw [searched]
      rfl
    · intro other member
      cases candidate with
      | none => exact next other member
      | some first => exact child other (among other member)

end Consistent

/-! ## The search -/

/-- A focusable node other than the root. -/
def CanFocus (tree : SemanticsTree) (ref : NodeRef) : Prop :=
  tree.rootNode ≠ some ref ∧ ∃ node, tree.heap ref = some node ∧ node.isFocusable = true

/-- The induction is on the rounds: each one ends the search or moves on to a
node of smaller rank. -/
theorem findFrom_spec {rank : NodeRef → Nat} (valid : direction ≠ .invalid)
    (descends : tree.Descends rank direction) (startNode : NodeRef) :
    ∀ {fuel : Nat} {ref : NodeRef}, tree.IsLive ref → rank ref < fuel →
      ∃ result, tree.findFrom startNode direction fuel ref = .ok result ∧
        (result = startNode ∨ tree.CanFocus result) := by
  intro fuel
  induction fuel with
  | zero =>
    intro ref _ enough
    exact absurd enough (Nat.not_lt_zero _)
  | succ fuel ih =>
    intro ref live enough
    obtain ⟨node, found, read⟩ := deref_of_live live
    obtain ⟨next, picked, nextLive, closer⟩ := descends found
    obtain ⟨nextNode, there, nextRead⟩ := deref_of_live nextLive
    rw [findFrom, read, Fault.ok_bind, if_neg valid, picked, Fault.ok_bind]
    by_cases stops : some next = tree.rootNode ∨ next = ref
    · refine ⟨startNode, ?_, .inl rfl⟩
      rw [if_pos (by simpa using stops)]
      rfl
    · rw [if_neg (by simpa using stops), nextRead, Fault.ok_bind]
      rw [not_or] at stops
      cases focusable : nextNode.isFocusable with
      | true => exact ⟨next, rfl, .inr ⟨Ne.symm stops.1, nextNode, there, focusable⟩⟩
      | false =>
        have smaller := closer.resolve_left stops.2
        exact ih nextLive (by omega)

theorem findFrom_invalid {fuel : Nat} (live : tree.IsLive ref) :
    tree.findFrom startNode .invalid (fuel + 1) ref = .ok ref := by
  obtain ⟨node, -, read⟩ := deref_of_live live
  rw [findFrom, read]
  rfl

theorem Consistent.findFrom_spec (consistent : Consistent tree forest)
    (live : tree.IsLive startNode) (direction : FocusMoveDirection) :
    ∃ result, tree.findFrom startNode direction (tree.allocated + 1) startNode = .ok result ∧
      (result = startNode ∨ tree.CanFocus result) := by
  have enough : forest.labels.length ≤ tree.allocated :=
    consistent.toPointerTree.length_le consistent.toSound.ready
  have position := forest.position_le startNode
  have remaining := forest.remaining_le startNode
  cases direction with
  | up | left | backward =>
    refine SemanticsTree.findFrom_spec (by simp) (consistent.descends_backwards (by simp))
      startNode live ?_
    omega
  | down | right | forward =>
    refine SemanticsTree.findFrom_spec (by simp) (consistent.descends_forwards (by simp))
      startNode live ?_
    omega
  | invalid => exact ⟨startNode, findFrom_invalid live, .inl rfl⟩

theorem findNodeById_spec (stored : Stored tree) (id : Int) :
    ∃ found, tree.findNodeById id = .ok found ∧ ∀ ref ∈ found, tree.IsLive ref := by
  simp only [findNodeById]
  generalize (if id = -1 then 0 else id) = key
  cases there : tree.allSemanticsNodes.lookup key with
  | none => exact ⟨none, rfl, by simp⟩
  | some ref =>
    simp only [stored.deref_of_lookup there, Fault.ok_bind]
    refine ⟨_, rfl, ?_⟩
    intro other member
    split at member
    · cases member
    · obtain rfl := Option.some.inj member
      exact stored.live there

/-- For every id and direction the search ends, at its start or at another node
that can be focused. An unknown id has no start and gives no node. -/
theorem findNextFocusNode_canFocus (consistent : Consistent tree forest) (id : Int)
    (direction : FocusMoveDirection) :
    ∃ startNode result, tree.findNodeById id = .ok startNode ∧
      tree.findNextFocusNode id direction = .ok result ∧
      (result = startNode ∨ ∃ ref ∈ result, tree.CanFocus ref) := by
  obtain ⟨found, searched, live⟩ := findNodeById_spec consistent.stored id
  refine ⟨found, ?_⟩
  rw [findNextFocusNode, searched]
  cases found with
  | none => exact ⟨none, rfl, rfl, .inl rfl⟩
  | some startNode =>
    obtain ⟨result, ran, ends⟩ := consistent.findFrom_spec (live startNode rfl) direction
    refine ⟨some result, rfl, ?_, ?_⟩
    · simp only [Fault.ok_bind, ran, Fault.pure_eq]
    · rcases ends with rfl | canFocus
      · exact .inl rfl
      · exact .inr ⟨result, rfl, canFocus⟩

/-- A button below a node that cannot be focused, which also names a child that
no update describes. -/
def nestedButton : SemanticsNodeUpdates where
  nodes := [
    { id := 0, childrenInTraversalOrder := [1, 2] },
    { id := 1, childrenInTraversalOrder := [3, 4] },
    { id := 2 },
    { id := 4, label := "button" }]
  nodup := by decide

/-- The search goes forward to the button, and downward not past the child that
is not described. -/
theorem findNextFocusNode_canFocus_nestedButton : ∃ tree : SemanticsTree,
    tree.findNextFocusNode 0 .forward = .ok (some 4) ∧
      tree.findNextFocusNode 1 .down = .ok (some 1) ∧
      ∃ startNode result, tree.findNodeById 0 = .ok startNode ∧
        tree.findNextFocusNode 0 .forward = .ok result ∧
        (result = startNode ∨ ∃ ref ∈ result, tree.CanFocus ref) := by
  have first : StaysConsistent {} (.updateWithNodes nestedButton) :=
    ⟨_, .cons 0 (.cons 1 (.cons 4 .empty .empty) (.cons 2 .empty .empty)) .empty,
      ⟨⟨_, rfl⟩, by decide, by decide, by decide⟩, by decide⟩
  obtain ⟨⟨forest, consistent⟩, -⟩ :=
    reachable_held true (.step (.updateWithNodes nestedButton) (.initial rfl) first rfl)
  refine ⟨_, ?_, ?_, findNextFocusNode_canFocus consistent 0 .forward⟩
  · decide
  · decide

end SemanticsTree

end FlutterEngine.Ohos
