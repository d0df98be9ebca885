import FlutterEngine.Ohos.SemanticsUpdate

/-!
# The cached pointer graph

The pointer list of a node is refilled only when an update describes the node
as visible. The pointer graph is the described tree when no update gives a
hidden node of the tree other children than it had, and every node that enters
the tree is described by the update that lets it in.
-/

namespace FlutterEngine.Ohos

open FlutterEngine.Std

/-- The latest description of each node. -/
abbrev Described := Int → Option SemanticsNode

namespace Described

/-- An update merged into the nodes described before. -/
def merge (described : Described) (updates : SemanticsNodeUpdates) : Described := fun id =>
  (SemanticsTree.describedBy updates.nodes id).or (described id)

def children (described : Described) (id : Int) : List Int :=
  (described id).elim [] (·.childrenInTraversalOrder)

/-- The nodes reached from node 0 form a finite tree with one parent each. -/
structure IsTree (described : Described) (forest : Forest Int) : Prop where
  roots : forest.roots = [0]
  follows : forest.Follows described.children
  nodup : forest.labels.Nodup
  root : (described 0).isSome = true

def known (described : Described) (id : Int) : Bool := (described id).isSome

/-- A described node of the described tree. -/
def InTree (described : Described) (id : Int) : Prop :=
  (described id).isSome = true ∧ ∃ forest, described.IsTree forest ∧ id ∈ forest.labels

/-- A node without a description has no children. -/
theorem children_of_unknown {described : Described} {id : Int} (unknown : (described id).isSome = false) :
    described.children id = [] := by
  rw [Option.isSome_eq_false_iff, Option.isNone_iff_eq_none] at unknown
  rw [children, unknown]
  rfl

namespace IsTree

variable {described : Described} {forest other : Forest Int}

theorem mem_zero (isTree : described.IsTree forest) : 0 ∈ forest.labels := by
  apply forest.roots_subset
  simp [isTree.roots]

theorem unique (isTree : described.IsTree forest) (again : described.IsTree other) :
    other = forest :=
  again.follows.unique isTree.follows (again.roots.trans isTree.roots.symm)

theorem inTree_iff (isTree : described.IsTree forest) {id : Int} :
    described.InTree id ↔ (described id).isSome = true ∧ id ∈ forest.labels := by
  constructor
  · rintro ⟨known, other, again, member⟩
    exact ⟨known, isTree.unique again ▸ member⟩
  · rintro ⟨known, member⟩
    exact ⟨known, forest, isTree, member⟩

/-- The described nodes of the tree are its trunk. -/
theorem labels_keep (isTree : described.IsTree forest) :
    (forest.keep described.known).labels = forest.labels.filter described.known :=
  isTree.follows.labels_keep fun _ _ unknown => children_of_unknown unknown

end IsTree

end Described

namespace SemanticsTree

/-- The pointer lists reach from the root exactly the nodes of the tree, each
as often as the tree names it, and the nodes are distinct. -/
structure Caches (tree : SemanticsTree) (forest : Forest Int) : Prop where
  stored : ∀ id ∈ forest.labels, tree.allSemanticsNodes.lookup id = some (tree.refOf id)
  roots : (forest.map tree.refOf).roots = tree.rootNode.toList
  follows : (forest.map tree.refOf).Follows tree.childrenAt
  nodup : (forest.map tree.refOf).labels.Nodup

/-- A tree with the descriptions it was given. -/
structure DescribedTree where
  tree : SemanticsTree
  described : Described

/-- Updates from the construction of the tree on; a fault ends the run. -/
def updateMachine (asserts : Bool) : Machine DescribedTree SemanticsNodeUpdates where
  Initial := fun state => state.tree = {} ∧ state.described = fun _ => none
  step := fun state updates => (state.tree.updateWithNodes asserts updates).toOption.map fun tree =>
    ⟨tree, state.described.merge updates⟩

/-- The update describes a tree. -/
def DescribesTree (state : DescribedTree) (updates : SemanticsNodeUpdates) : Prop :=
  ∃ forest, (state.described.merge updates).IsTree forest

/-- The first loop of an update and its traversal, with the ids that it meets. -/
def traversal (tree : SemanticsTree) (asserts : Bool) (updates : SemanticsNodeUpdates) :
    Except Fault (List Int × SemanticsTree) := do
  let (_, merged) ← tree.mergeUpdate updates
  merged.visitFromRoot asserts

/-- A hidden node of the tree keeps the children it had in the tree, none if it
is new there; a node that enters the tree is described; and -1, which is looked
up as the root, is used for described nodes of the tree only. -/
structure KeepsHiddenLists (state : DescribedTree) (updates : SemanticsNodeUpdates) : Prop where
  hidden : ∀ node ∈ updates.nodes, node.isVisible = false →
    (state.described.merge updates).InTree node.id → state.described.InTree node.id →
    node.childrenInTraversalOrder = state.described.children node.id
  appears : ∀ node ∈ updates.nodes, node.isVisible = false →
    (state.described.merge updates).InTree node.id → ¬ state.described.InTree node.id →
    node.childrenInTraversalOrder = []
  enters : ∀ id, (state.described.merge updates).InTree id → ¬ state.described.InTree id →
    id ∈ updates.nodes.map (·.id)
  redirect : state.tree.allSemanticsNodes.lookup (-1) ≠ none ∨
    (∃ node ∈ updates.nodes, Names node (-1)) → (state.described.merge updates).InTree (-1)

/-- The stored nodes show the described ones, as far as the tree goes. -/
structure Mirrors (described : Described) (forest : Forest Int) (tree : SemanticsTree) : Prop where
  stored : ∀ id ∈ forest.labels, tree.allSemanticsNodes.lookup id ≠ none
  exist : ∀ id ∈ forest.labels, (tree.nodeOf id).isExist = (described id).isSome
  lists : ∀ id ∈ forest.labels,
    (tree.nodeOf id).childrenInTraversalOrderList = (described.children id).map tree.refOf

/-- The invariant of the runs. -/
structure Faithful (state : DescribedTree) : Prop where
  sound : Sound state.tree
  only : ∀ id, (state.tree.nodeOf id).isExist = true → state.described.InTree id
  mirrors : ∀ forest, state.described.IsTree forest → Mirrors state.described forest state.tree

variable {tree before after merged : SemanticsTree} {described : Described} {forest : Forest Int}
  {state : DescribedTree} {updates : SemanticsNodeUpdates}

/-! ## From the ids to the pointers -/

namespace Mirrors

variable (mirror : Mirrors described forest tree) (stored : Stored tree)
include mirror

theorem lookup {id : Int} (member : id ∈ forest.labels) :
    tree.allSemanticsNodes.lookup id = some (tree.refOf id) := by
  obtain ⟨ref, found⟩ := Option.ne_none_iff_exists'.mp (mirror.stored id member)
  rw [refOf_of_lookup found, found]

include stored in
theorem childrenAt {id : Int} (member : id ∈ forest.labels) :
    tree.childrenAt (tree.refOf id) = (described.children id).map tree.refOf := by
  rw [childrenAt_of_heap (stored.heap_of_lookup (mirror.lookup member)), mirror.lists id member]

include stored in
theorem existsAt {id : Int} (member : id ∈ forest.labels) :
    tree.existsAt (tree.refOf id) = (described id).isSome := by
  rw [stored.existsAt_of_lookup (mirror.lookup member), mirror.exist id member]

include stored in
theorem refOf_injective {id other : Int} (member : id ∈ forest.labels)
    (otherMember : other ∈ forest.labels) (same : tree.refOf id = tree.refOf other) : id = other := by
  have found := mirror.lookup member
  rw [same] at found
  exact stored.injective found (mirror.lookup otherMember)

include stored in
theorem caches (isTree : described.IsTree forest)
    (root : tree.rootNode = tree.allSemanticsNodes.lookup 0) : Caches tree forest where
  stored := fun id member => mirror.lookup member
  roots := by
    rw [Forest.roots_map, isTree.roots, root, mirror.lookup isTree.mem_zero]
    rfl
  follows := isTree.follows.map fun id member => mirror.childrenAt stored member
  nodup := by
    rw [Forest.labels_map]
    exact isTree.nodup.map_on fun id member other otherMember same =>
      mirror.refOf_injective stored member otherMember same

end Mirrors

/-! ## One update -/

theorem describedBy_isSome_iff {nodes : List SemanticsNode} {id : Int} :
    (describedBy nodes id).isSome = true ↔ id ∈ nodes.map (·.id) := by
  rw [← not_iff_not, Bool.not_eq_true, Option.isSome_eq_false_iff, Option.isNone_iff_eq_none,
    describedBy_eq_none]

namespace Faithful

variable (faithful : Faithful state)
  (merge : Merged updates.nodes
    { state.tree with lastInputFocusedNode := state.tree.inputFocusedNode } merged)
include faithful

include merge in
/-- A node of the tree before has its pointers to its children then. -/
theorem node_of_inTree {id : Int} (inTree : state.described.InTree id) :
    (state.tree.nodeOf id).isExist = true ∧
      (state.tree.nodeOf id).childrenInTraversalOrderList =
        (state.described.children id).map merged.refOf ∧
      ∀ child ∈ state.described.children id, merged.allSemanticsNodes.lookup child ≠ none := by
  obtain ⟨known, old, isTree, member⟩ := inTree
  have mirror := faithful.mirrors old isTree
  have kept : ∀ child ∈ state.described.children id,
      merged.allSemanticsNodes.lookup child = some (state.tree.refOf child) :=
    fun child among => merge.keys (mirror.lookup (isTree.follows.successors member among))
  refine ⟨(mirror.exist id member).trans known, ?_, ?_⟩
  · rw [mirror.lists id member]
    apply List.map_congr_left
    exact fun child among => (refOf_of_lookup (kept child among)).symm
  · intro child among
    rw [kept child among]
    exact Option.some_ne_none _

theorem node_of_not_inTree {id : Int} (outside : ¬ state.described.InTree id) :
    (state.tree.nodeOf id).isExist = false ∧
      (state.tree.nodeOf id).childrenInTraversalOrderList = [] := by
  have missing : (state.tree.nodeOf id).isExist = false := by
    rw [← Bool.not_eq_true]
    exact fun exist => outside (faithful.only id exist)
  exact ⟨missing, (faithful.sound.stored.placeholder missing).children⟩

end Faithful

section Update

variable (faithful : Faithful state) (keeps : KeepsHiddenLists state updates)
  (isTree : (state.described.merge updates).IsTree forest)
  (merge : Merged updates.nodes
    { state.tree with lastInputFocusedNode := state.tree.inputFocusedNode } merged)
include faithful keeps isTree merge

/-- A node of the new tree exists after merging when it is described, and has
the pointers to its described children. -/
theorem merged_node {id : Int} (member : id ∈ forest.labels) :
    (merged.nodeOf id).isExist = (state.described.merge updates id).isSome ∧
      (merged.nodeOf id).childrenInTraversalOrderList =
        ((state.described.merge updates).children id).map merged.refOf ∧
      ∀ child ∈ (state.described.merge updates).children id,
        merged.allSemanticsNodes.lookup child ≠ none := by
  have start : ({ state.tree with lastInputFocusedNode := state.tree.inputFocusedNode } :
      SemanticsTree).nodeOf = state.tree.nodeOf := rfl
  rw [merge.nodeOf, start]
  cases found : describedBy updates.nodes id with
  | some node =>
    obtain ⟨among, rfl⟩ := mem_of_describedBy found
    have known : state.described.merge updates node.id = some node := by
      simp [Described.merge, found]
    have inTree : (state.described.merge updates).InTree node.id :=
      isTree.inTree_iff.mpr ⟨by simp [known], member⟩
    have children : (state.described.merge updates).children node.id =
        node.childrenInTraversalOrder := by
      simp [Described.children, known]
    rw [known, children]
    refine ⟨rfl, ?_⟩
    cases visible : node.isVisible with
    | true => exact ⟨by simp [mergedNode, visible], merge.children node among visible⟩
    | false =>
      simp only [Option.map_some, Option.getD_some, mergedNode, visible, Bool.false_eq_true,
        if_false]
      by_cases before : state.described.InTree node.id
      · rw [keeps.hidden node among visible inTree before]
        exact (faithful.node_of_inTree merge before).2
      · rw [keeps.appears node among visible inTree before]
        exact ⟨(faithful.node_of_not_inTree before).2, by simp⟩
  | none =>
    have same : state.described.merge updates id = state.described id := by
      simp [Described.merge, found]
    have children : (state.described.merge updates).children id = state.described.children id := by
      simp [Described.children, same]
    rw [same, children, Option.map_none, Option.getD_none]
    cases known : (state.described id).isSome with
    | true =>
      have inTree : (state.described.merge updates).InTree id :=
        isTree.inTree_iff.mpr ⟨same ▸ known, member⟩
      have before : state.described.InTree id := by
        by_contra outside
        have described := describedBy_isSome_iff.mpr (keeps.enters id inTree outside)
        rw [found] at described
        cases described
      exact faithful.node_of_inTree merge before
    | false =>
      have outside : ¬ state.described.InTree id := fun before => by
        rw [before.1] at known
        cases known
      obtain ⟨missing, bare⟩ := faithful.node_of_not_inTree outside
      rw [Described.children_of_unknown known]
      exact ⟨missing, bare, by simp⟩

theorem merged_mirrors : Mirrors (state.described.merge updates) forest merged where
  exist := fun id member => (merged_node faithful keeps isTree merge member).1
  lists := fun id member => (merged_node faithful keeps isTree merge member).2.1
  stored := by
    have all := isTree.follows.forall_labels
      (P := fun id => id ∈ forest.labels ∧ merged.allSemanticsNodes.lookup id ≠ none) ?_ ?_
    · exact fun id member => (all id member).2
    · intro id member
      rw [isTree.roots, List.mem_singleton] at member
      subst member
      refine ⟨isTree.mem_zero, ?_⟩
      rw [lookup_of_exists]
      · exact Option.some_ne_none _
      · exact (merged_node faithful keeps isTree merge isTree.mem_zero).1.trans isTree.root
    · rintro id ⟨member, -⟩ child among
      exact ⟨isTree.follows.successors member among,
        (merged_node faithful keeps isTree merge member).2.2 child among⟩

/-- The described part of the tree, by the addresses of its nodes, is what the
traversal goes through. -/
theorem pointerTree (ready : Ready merged) : PointerTree merged
    ((forest.keep (state.described.merge updates).known).map merged.refOf) where
  roots := by
    have exist := (merged_node faithful keeps isTree merge isTree.mem_zero).1
    rw [isTree.root, ready.rootExists] at exist
    obtain ⟨ref, pointer⟩ := Option.isSome_iff_exists.mp exist
    rw [Forest.roots_map, Forest.roots_keep, isTree.roots, pointer]
    simp [Described.known, isTree.root, refOf_of_lookup (ready.root ref pointer)]
  follows := by
    have mirror := merged_mirrors faithful keeps isTree merge
    refine (isTree.follows.keep _).map ?_
    intro id member
    rw [isTree.labels_keep] at member
    have inside := (List.mem_filter.mp member).1
    rw [existingChildrenAt, mirror.childrenAt ready.stored inside, List.filter_map]
    congr 1
    apply List.filter_congr
    intro child among
    exact mirror.existsAt ready.stored (isTree.follows.successors inside among)
  nodup := by
    have mirror := merged_mirrors faithful keeps isTree merge
    rw [Forest.labels_map, isTree.labels_keep]
    refine (isTree.nodup.filter _).map_on ?_
    intro id member other otherMember same
    exact mirror.refOf_injective ready.stored (List.mem_filter.mp member).1
      (List.mem_filter.mp otherMember).1 same

/-- The traversal meets the described nodes of the tree, in its order. -/
theorem visitedIds_eq (ready : Ready merged) : visitedIds merged
    ((forest.keep (state.described.merge updates).known).map merged.refOf) =
      forest.labels.filter (state.described.merge updates).known := by
  have mirror := merged_mirrors faithful keeps isTree merge
  rw [visitedIds, Forest.labels_map, isTree.labels_keep, List.map_map]
  conv_rhs => rw [← List.map_id (forest.labels.filter _)]
  apply List.map_congr_left
  intro id member
  obtain ⟨inside, known⟩ := List.mem_filter.mp member
  have exist : (merged.nodeOf id).isExist = true := (mirror.exist id inside).trans known
  rw [Function.comp_apply, idAt_of_heap (ready.stored.heap_of_lookup (mirror.lookup inside)),
    ready.stored.described exist]
  rfl

theorem noRedirect (ready : Ready merged) : NoRedirect merged
    ((forest.keep (state.described.merge updates).known).map merged.refOf) := by
  intro present
  have inTree := keeps.redirect ((merge.only (-1) present).symm)
  obtain ⟨known, member⟩ := isTree.inTree_iff.mp inTree
  rw [visitedIds_eq faithful keeps isTree merge ready]
  exact List.mem_filter.mpr ⟨member, known⟩

/-- The nodes of the described tree are kept, whether described or not. -/
theorem isKept (ready : Ready merged) {id : Int} (member : id ∈ forest.labels) : IsKept merged
    ((forest.keep (state.described.merge updates).known).map merged.refOf) id := by
  rw [IsKept, visitedIds_eq faithful keeps isTree merge ready]
  cases known : (state.described.merge updates).known id with
  | true => exact .inl (List.mem_filter.mpr ⟨member, known⟩)
  | false =>
    refine .inr ⟨(merged_node faithful keeps isTree merge member).1.trans known, ?_⟩
    rintro rfl
    rw [Described.known, isTree.root] at known
    cases known

end Update

/-- The mirror shows in a tree that kept the nodes it is about. -/
theorem Mirrors.of_kept (mirror : Mirrors described forest before)
    (isTree : described.IsTree forest)
    (kept : ∀ id ∈ forest.labels,
      after.allSemanticsNodes.lookup id = before.allSemanticsNodes.lookup id ∧
        (after.nodeOf id).core = (before.nodeOf id).core) : Mirrors described forest after where
  stored := by
    intro id member
    rw [(kept id member).1]
    exact mirror.stored id member
  exist := by
    intro id member
    rw [SemanticsNodeExtend.core_isExist (kept id member).2]
    exact mirror.exist id member
  lists := by
    intro id member
    rw [SemanticsNodeExtend.core_children (kept id member).2, mirror.lists id member]
    apply List.map_congr_left
    intro child among
    rw [refOf, refOf, (kept child (isTree.follows.successors member among)).1]

theorem updateWithNodes_faithful {asserts : Bool} (faithful : Faithful state)
    (describes : DescribesTree state updates) (keeps : KeepsHiddenLists state updates)
    (done : state.tree.updateWithNodes asserts updates = .ok after) :
    Faithful ⟨after, state.described.merge updates⟩ := by
  obtain ⟨forest, isTree⟩ := describes
  obtain ⟨merged, merges, merge, ready⟩ := mergeUpdate_spec faithful.sound updates
  have mirror := merged_mirrors faithful keeps isTree merge
  have met := visitedIds_eq faithful keeps isTree merge ready
  have updated := updateWithNodes_spec merges ready (pointerTree faithful keeps isTree merge ready)
    (noRedirect faithful keeps isTree merge ready) done
  exact {
    sound := updated.sound
    only := by
      intro id exist
      by_cases visited : id ∈ visitedIds merged
          ((forest.keep (state.described.merge updates).known).map merged.refOf)
      · rw [met] at visited
        obtain ⟨member, known⟩ := List.mem_filter.mp visited
        exact isTree.inTree_iff.mpr ⟨known, member⟩
      · exfalso
        have present := lookup_of_exists exist
        cases earlier : (merged.nodeOf id).isExist with
        | true =>
          rw [updated.gone id earlier visited] at present
          cases present
        | false =>
          have nonzero : id ≠ 0 := by
            rintro rfl
            rw [mirror.exist 0 isTree.mem_zero, isTree.root] at earlier
            cases earlier
          have same := (updated.kept id (.inr ⟨earlier, nonzero⟩)).2
          rw [SemanticsNodeExtend.core_isExist same, earlier] at exist
          cases exist
    mirrors := by
      intro other again
      obtain rfl := isTree.unique again
      exact mirror.of_kept isTree fun id member =>
        updated.kept id (isKept faithful keeps isTree merge ready member) }

/-- In every run whose updates keep the lists of hidden nodes, each traversal
ends and meets the described nodes of the described tree once, and the pointer
lists are that tree. -/
theorem reachable_traversal (asserts : Bool)
    (reached : (updateMachine asserts).Reachable
      (fun state updates => DescribesTree state updates ∧ KeepsHiddenLists state updates) state)
    (describes : DescribesTree state updates) (keeps : KeepsHiddenLists state updates) :
    (∀ forest, state.described.IsTree forest → Caches state.tree forest) ∧
      ∃ forest visitorId visited, (state.described.merge updates).IsTree forest ∧
        state.tree.traversal asserts updates = .ok (visitorId, visited) ∧
        visitorId = forest.labels.filter (state.described.merge updates).known ∧
        visitorId.Nodup ∧ Caches visited forest := by
  have faithful : Faithful state := by
    refine reached.invariant Faithful ?_ ?_
    · rintro ⟨tree, described⟩ ⟨rfl, rfl⟩
      exact {
        sound := sound_empty
        only := by simp [nodeOf]
        mirrors := by
          intro forest isTree
          cases isTree.root }
    · intro state updates next faithful meets transition
      obtain ⟨after, done, rfl⟩ := Option.map_eq_some_iff.mp transition
      cases result : state.tree.updateWithNodes asserts updates with
      | error fault => simp [result, Except.toOption] at done
      | ok tree =>
        obtain rfl : tree = after := by simpa [result, Except.toOption] using done
        exact updateWithNodes_faithful faithful meets.1 meets.2 result
  refine ⟨fun forest isTree =>
    (faithful.mirrors forest isTree).caches faithful.sound.stored isTree faithful.sound.root, ?_⟩
  obtain ⟨forest, isTree⟩ := describes
  obtain ⟨merged, merges, merge, ready⟩ := mergeUpdate_spec faithful.sound updates
  have shape := pointerTree faithful keeps isTree merge ready
  have mirror := merged_mirrors faithful keeps isTree merge
  obtain ⟨visited, ran, traversed, -⟩ := shape.visitFromRoot_spec ready asserts
  have nodes : visited.allSemanticsNodes = merged.allSemanticsNodes := by rw [traversed.rest]
  have stored := traversed.toRelinked.stored ready.stored (shape.exist ready)
  have shown : Mirrors (state.described.merge updates) forest visited :=
    mirror.of_kept isTree fun id _ => ⟨by rw [nodes], nodeOf_core traversed.core nodes id⟩
  have root : visited.rootNode = visited.allSemanticsNodes.lookup 0 := by
    have exist := (mirror.exist 0 isTree.mem_zero).trans isTree.root
    rw [nodes, traversed.rest, ready.rootNode_eq exist]
  refine ⟨forest, _, visited, isTree, ?_, visitedIds_eq faithful keeps isTree merge ready,
    shape.nodup_ids ready, shown.caches stored isTree root⟩
  rw [traversal, merges]
  exact ran

/-! ## Hiding a node -/

instance (node : SemanticsNode) (id : Int) : Decidable (Names node id) := by
  unfold Names
  infer_instance

/-- Node 3 below node 1, which has a sibling. -/
def grandchild : SemanticsNodeUpdates where
  nodes := [
    { id := 0, childrenInTraversalOrder := [1, 2] },
    { id := 1, childrenInTraversalOrder := [3] },
    { id := 2 },
    { id := 3 }]
  nodup := by decide

/-- Node 1 is hidden and keeps its child. -/
def hiddenParent : SemanticsNodeUpdates where
  nodes := [
    { id := 1
      flags := SemanticsFlags.isHidden.bit
      childrenInTraversalOrder := [3] }]
  nodup := by decide

/-- Node 1 is hidden and its child moves to the sibling. -/
def movedFromHidden : SemanticsNodeUpdates where
  nodes := [
    { id := 1, flags := SemanticsFlags.isHidden.bit },
    { id := 2, childrenInTraversalOrder := [3] }]
  nodup := by decide

def nothingDescribed : Described := fun _ => none

def grandchildTree : Forest Int :=
  .cons 0 (.cons 1 (.cons 3 .empty .empty) (.cons 2 .empty .empty)) .empty

theorem isTree_grandchild : (nothingDescribed.merge grandchild).IsTree grandchildTree :=
  ⟨by decide, by decide, by decide, by decide⟩

theorem isTree_hiddenParent :
    ((nothingDescribed.merge grandchild).merge hiddenParent).IsTree grandchildTree :=
  ⟨by decide, by decide, by decide, by decide⟩

theorem keepsHiddenLists_grandchild : KeepsHiddenLists ⟨{}, nothingDescribed⟩ grandchild := by
  have visible : ∀ node ∈ grandchild.nodes, ¬ node.isVisible = false := by decide
  have described : ∀ id ∈ grandchildTree.labels, id ∈ grandchild.nodes.map (·.id) := by decide
  have unnamed : ∀ node ∈ grandchild.nodes, ¬ Names node (-1) := by decide
  exact {
    hidden := fun node member hidden => absurd hidden (visible node member)
    appears := fun node member hidden => absurd hidden (visible node member)
    enters := fun id inTree _ => described id (isTree_grandchild.inTree_iff.mp inTree).2
    redirect := by
      rintro (present | ⟨node, member, named⟩)
      · exact absurd rfl present
      · exact absurd named (unnamed node member) }

/-- A hidden node that keeps its child. -/
theorem reachable_traversal_hiddenParent : ∃ state : DescribedTree,
    (state.tree.traversal true hiddenParent).map Prod.fst = .ok [0, 1, 3, 2] ∧
      (∀ forest, state.described.IsTree forest → Caches state.tree forest) ∧
      ∃ forest visitorId visited, (state.described.merge hiddenParent).IsTree forest ∧
        state.tree.traversal true hiddenParent = .ok (visitorId, visited) ∧
        visitorId = forest.labels.filter (state.described.merge hiddenParent).known ∧
        visitorId.Nodup ∧ Caches visited forest := by
  refine ⟨_, ?_, reachable_traversal true
    (.step grandchild (.initial ⟨rfl, rfl⟩)
      ⟨⟨_, isTree_grandchild⟩, keepsHiddenLists_grandchild⟩ rfl)
    ⟨_, isTree_hiddenParent⟩ ?_⟩
  · decide
  · have unnamed : ∀ node ∈ hiddenParent.nodes, ¬ Names node (-1) := by decide
    have same : ∀ node ∈ hiddenParent.nodes, node.childrenInTraversalOrder =
        (nothingDescribed.merge grandchild).children node.id := by decide
    have known : ∀ id ∈ grandchildTree.labels, (nothingDescribed.merge grandchild).known id = true := by
      decide
    have before : ∀ id, ((nothingDescribed.merge grandchild).merge hiddenParent).InTree id →
        (nothingDescribed.merge grandchild).InTree id := by
      intro id inTree
      have member := (isTree_hiddenParent.inTree_iff.mp inTree).2
      exact isTree_grandchild.inTree_iff.mpr ⟨known id member, member⟩
    exact {
      hidden := fun node member _ _ _ => same node member
      appears := fun node member _ inTree outside => absurd (before _ inTree) outside
      enters := fun id inTree outside => absurd (before id inTree) outside
      redirect := by
        rintro (present | ⟨node, member, named⟩)
        · exact absurd rfl present
        · exact absurd named (unnamed node member) }

/-- The hidden node still has the pointer to the child that its sibling was
given: the child is met twice, which fails the assertion of a build that has it. -/
theorem traversal_movedFromHidden : ∃ state,
    (updateMachine true).Reachable DescribesTree state ∧ DescribesTree state movedFromHidden ∧
      (state.tree.traversal true movedFromHidden).map Prod.fst = .error .assertion ∧
      (state.tree.traversal false movedFromHidden).map Prod.fst = .ok [0, 1, 3, 2, 3] := by
  have start : (updateMachine true).Reachable DescribesTree ⟨{}, nothingDescribed⟩ :=
    .initial ⟨rfl, rfl⟩
  refine ⟨_, .step grandchild start ⟨_, isTree_grandchild⟩ rfl,
    ⟨.cons 0 (.cons 1 .empty (.cons 2 (.cons 3 .empty .empty) .empty)) .empty, ?_⟩, ?_, ?_⟩
  · exact ⟨by decide, by decide, by decide, by decide⟩
  · decide
  · decide

end SemanticsTree

end FlutterEngine.Ohos
