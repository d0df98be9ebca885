import Mathlib.Logic.Equiv.Nat
import FlutterEngine.Accessibility.FiniteTrees
import FlutterEngine.Accessibility.TreeRemoval
import FlutterEngine.Accessibility.UpdateOrder

/-!
# Commits submit the pending updates

The first update takes the nodes that are reparented from their old parents, in whatever order
these are iterated. One of them may be below a node that another one has lost before: then the
first update fails, and the commit submits nothing.
-/

namespace FlutterEngine.Accessibility

open FlutterEngine.Std

/-- The node is in the tree, with a parent that is not this one. -/
def movesTo (tree : AXTree) (child id : Int) : Bool :=
  (tree.nodes child).any fun node => node.parent != some id

/-- Nodes that lose children, and which. -/
structure Losing (tree : AXTree) (lost : Int → Bool) (updates : List AXNodeData) (ids : List Int) :
    Prop where
  updates_eq : updates = ids.map (tree.losingData lost)
  nodup : ids.Nodup
  mem_iff : ∀ id, id ∈ ids ↔ ∃ child ∈ tree.childIds id, lost child = true

variable {tree : AXTree} {root : Int} {nodes : Forest Int} {lost : Int → Bool}
  {updates : List AXNodeData} {ids : List Int}

/-- Losing one more child. -/
theorem losingData_erase (isTree : tree.IsTree root nodes) (child id : Int) :
    { tree.losingData lost id with childIds := (tree.losingData lost id).childIds.erase child } =
      tree.losingData (fun other => lost other || other == child) id := by
  unfold AXTree.losingData
  rw [((isTree.nodup_childIds id).filter _).erase_eq_filter, List.filter_filter]
  refine congrArg (AXNodeData.mk id) ?_
  refine List.filter_congr fun other _ => ?_
  rw [Bool.not_or, Bool.and_comm]
  rfl

theorem losingData_congr {other : Int → Bool} {id : Int}
    (same : ∀ child ∈ tree.childIds id, lost child = other child) :
    tree.losingData lost id = tree.losingData other id := by
  unfold AXTree.losingData
  congr 1
  exact List.filter_congr fun child member => by rw [same child member]

section

variable (isTree : tree.IsTree root nodes) (losing : Losing tree lost updates ids)

include isTree losing

theorem removeFromParent_spec {parent child : Int} (among : child ∈ tree.childIds parent) :
    ∃ ids, Losing tree (fun other => lost other || other == child)
      (removeFromParent tree updates parent child) ids := by
  -- A child has one parent.
  have only : ∀ {id}, child ∈ tree.childIds id → id = parent := by
    intro id member
    obtain ⟨node, found⟩ := isTree.known (isTree.children_subset parent among)
    have here := isTree.parent among found
    rw [isTree.parent member found, Option.some_inj] at here
    exact here
  let entries := if parent ∈ ids then ids else ids ++ [parent]
  have inserted : (if updates.any fun data => data.id == parent then updates
      else updates ++ [⟨parent, tree.childIds parent⟩]) = entries.map (tree.losingData lost) := by
    have found : (updates.any fun data => data.id == parent) = decide (parent ∈ ids) := by
      rw [losing.updates_eq, List.any_map, Bool.eq_iff_iff, decide_eq_true_eq]
      simp [AXTree.losingData]
    rw [found, losing.updates_eq]
    unfold entries
    by_cases member : parent ∈ ids
    · simp [member]
    · have all : tree.losingData lost parent = ⟨parent, tree.childIds parent⟩ := by
        unfold AXTree.losingData
        congr 1
        refine List.filter_eq_self.mpr fun other inside => ?_
        rw [Bool.not_eq_true', ← Bool.not_eq_true]
        exact fun gone => member ((losing.mem_iff parent).mpr ⟨other, inside, gone⟩)
      simp [member, all]
  refine ⟨entries, ?_, ?_, fun id => ?_⟩
  · unfold removeFromParent
    dsimp only
    rw [inserted, List.map_map]
    refine List.map_congr_left fun id _ => ?_
    change (if id = parent then _ else _ : AXNodeData) = _
    by_cases here : id = parent
    · rw [if_pos here]
      exact losingData_erase isTree child id
    · rw [if_neg here]
      refine losingData_congr fun other member => ?_
      have apart : other ≠ child := fun same => here (only (same ▸ member))
      simp [apart]
  · unfold entries
    split
    · exact losing.nodup
    · next missing =>
        exact List.nodup_append.mpr ⟨losing.nodup, List.nodup_singleton parent,
          fun id member other single same =>
            missing (List.mem_singleton.mp single ▸ same ▸ member)⟩
  · have mem_entries : id ∈ entries ↔ id ∈ ids ∨ id = parent := by
      unfold entries
      split
      · next member => exact ⟨.inl, fun either => either.elim (fun inside => inside) fun same => same ▸ member⟩
      · simp
    rw [mem_entries, losing.mem_iff]
    constructor
    · rintro (⟨other, inside, gone⟩ | rfl)
      · exact ⟨other, inside, by simp [gone]⟩
      · exact ⟨child, among, by simp⟩
    · rintro ⟨other, inside, gone⟩
      obtain gone | same := Bool.or_eq_true_iff.mp gone
      · exact .inl ⟨other, inside, gone⟩
      · exact .inr (only (beq_iff_eq.mp same ▸ inside))

/-- One child of a pending node. -/
theorem removeReparented_spec (node : SemanticsNode) {child : Int} (notRoot : child ≠ root) :
    ∃ updates' ids, removeReparented tree node updates child = some updates' ∧
      Losing tree (fun other => lost other || (other == child && movesTo tree other node.id))
        updates' ids := by
  have unmoved : movesTo tree child node.id = false →
      Losing tree (fun other => lost other || (other == child && movesTo tree other node.id))
        updates ids := by
    intro stays
    have same : (fun other => lost other || (other == child && movesTo tree other node.id)) =
        lost := by
      funext other
      by_cases here : other = child
      · rw [here, stays, Bool.and_false, Bool.or_false]
      · simp [here]
    rw [same]
    exact losing
  unfold removeReparented
  cases found : tree.nodes child with
  | none => exact ⟨updates, ids, rfl, unmoved (by simp [movesTo, found])⟩
  | some data =>
    have inside : child ∈ nodes.labels := (isTree.mem_iff child).mp (by rw [found]; rfl)
    have below : child ∉ nodes.roots := by
      rw [isTree.roots]
      exact mt List.mem_singleton.mp notRoot
    obtain ⟨parent, -, among⟩ := isTree.follows.exists_predecessor inside below
    have parent_eq := isTree.parent among found
    dsimp only
    rw [parent_eq]
    dsimp only
    split
    · next same =>
        exact ⟨updates, ids, rfl, unmoved (by simp [movesTo, found, parent_eq, same])⟩
    · next other =>
        obtain ⟨ids, losing⟩ := removeFromParent_spec isTree losing among
        refine ⟨_, ids, rfl, ?_⟩
        have moves : movesTo tree child node.id = true := by
          simp [movesTo, found, parent_eq, other]
        have same : (fun other => lost other || (other == child && movesTo tree other node.id)) =
            fun other => lost other || other == child := by
          funext other
          by_cases here : other = child
          · rw [here, moves, Bool.and_true]
          · rw [beq_eq_false_iff_ne.mpr here, Bool.false_and]
        rw [same]
        exact losing

/-- The children of a pending node. -/
theorem removeChildren_spec (node : SemanticsNode) {children : List Int}
    (notRoot : root ∉ children) :
    ∃ updates' ids, children.foldlM (removeReparented tree node) updates = some updates' ∧
      Losing tree (fun other => lost other || (children.contains other && movesTo tree other node.id))
        updates' ids := by
  induction children generalizing lost updates ids with
  | nil =>
    refine ⟨updates, ids, rfl, ?_⟩
    simpa using losing
  | cons child children ih =>
    obtain ⟨here, rest⟩ := not_or.mp (mt List.mem_cons.mpr notRoot)
    obtain ⟨between, idsBetween, removes, losingBetween⟩ :=
      removeReparented_spec isTree losing node (Ne.symm here)
    obtain ⟨final, idsFinal, removesRest, losingFinal⟩ := ih losingBetween rest
    refine ⟨final, idsFinal, ?_, ?_⟩
    · rw [List.foldlM_cons, removes]
      exact removesRest
    · convert losingFinal using 2 with other
      rw [List.contains_cons, Bool.or_assoc, Bool.and_or_distrib_right]

end

/-- A node that a pending node has as a child, and which has another parent. -/
def isReparented (tree : AXTree) (pending : List SemanticsNode) (child : Int) : Bool :=
  pending.any fun node => node.childrenInTraversalOrder.contains child && movesTo tree child node.id

theorem reparentedUpdates_spec (isTree : tree.IsTree root nodes) {pending : List SemanticsNode}
    (notRoot : ∀ node ∈ pending, root ∉ node.childrenInTraversalOrder) :
    ∃ updates ids, reparentedUpdates tree pending = some updates ∧
      Losing tree (isReparented tree pending) updates ids := by
  have run : ∀ {lost updates ids}, Losing tree lost updates ids →
      ∃ updates' ids, pending.foldlM (fun updates node =>
          node.childrenInTraversalOrder.foldlM (removeReparented tree node) updates) updates =
            some updates' ∧
        Losing tree (fun child => lost child || isReparented tree pending child) updates' ids := by
    induction pending with
    | nil =>
      intro lost updates ids losing
      refine ⟨updates, ids, rfl, ?_⟩
      simpa [isReparented] using losing
    | cons node pending ih =>
      intro lost updates ids losing
      obtain ⟨between, idsBetween, removes, losingBetween⟩ :=
        removeChildren_spec isTree losing node (notRoot node List.mem_cons_self)
      obtain ⟨final, idsFinal, removesRest, losingFinal⟩ :=
        ih (fun other member => notRoot other (List.mem_cons_of_mem _ member)) losingBetween
      refine ⟨final, idsFinal, ?_, ?_⟩
      · rw [List.foldlM_cons, removes]
        exact removesRest
      · convert losingFinal using 2 with child
        rw [isReparented, List.any_cons, Bool.or_assoc]
        rfl
  have start : Losing tree (fun _ => false) [] [] :=
    ⟨rfl, List.nodup_nil, fun id => ⟨fun none => (List.not_mem_nil none).elim, fun ⟨_, _, no⟩ =>
      (Bool.false_ne_true no).elim⟩⟩
  obtain ⟨updates, ids, removes, losing⟩ := run start
  refine ⟨updates, ids, removes, ?_⟩
  simpa using losing

variable {rank : Int → Nat}

/-- The first update has the nodes that lose children, in the order in which they are iterated. -/
theorem createRemoveReparentedNodesUpdate_spec (injective : Function.Injective rank)
    (isTree : tree.IsTree root nodes) {pending : List SemanticsNode}
    (notRoot : ∀ node ∈ pending, root ∉ node.childrenInTraversalOrder) :
    ∃ ids, createRemoveReparentedNodesUpdate rank tree pending =
        some (if ids = [] then none
          else some { nodes := ids.map (tree.losingData (isReparented tree pending)) }) ∧
      (ids.Pairwise fun first second => rank first < rank second) ∧
        ∀ id, id ∈ ids ↔ ∃ child ∈ tree.childIds id, isReparented tree pending child = true := by
  obtain ⟨updates, ids, removes, losing⟩ := reparentedUpdates_spec isTree notRoot
  let sorted := ids.mergeSort fun first second => rank first ≤ rank second
  have perm : sorted.Perm ids := List.mergeSort_perm ids _
  have same : updates.mergeSort (fun first second => rank first.id ≤ rank second.id) =
      sorted.map (tree.losingData (isReparented tree pending)) := by
    rw [losing.updates_eq]
    exact (List.map_mergeSort (f := tree.losingData (isReparented tree pending))
      fun first _ second _ => rfl).symm
  refine ⟨sorted, ?_, ?_, fun id => perm.mem_iff.trans (losing.mem_iff id)⟩
  · unfold createRemoveReparentedNodesUpdate
    rw [removes, Option.map_some, same]
    have empty : updates.isEmpty = true ↔ sorted = [] := by
      rw [List.isEmpty_iff, losing.updates_eq, List.map_eq_nil_iff]
      exact ⟨fun none => List.Perm.eq_nil (none ▸ perm), fun none => List.Perm.eq_nil (none ▸ perm.symm)⟩
    simp only [empty]
  · have ordered : sorted.Pairwise fun first second => rank first ≤ rank second := by
      let before := fun first second : Int => decide (rank first ≤ rank second)
      have trans : ∀ first second third, before first second = true → before second third = true →
          before first third = true := by
        intro first second third here there
        simp only [before, decide_eq_true_eq] at here there ⊢
        exact here.trans there
      have total : ∀ first second, (before first second || before second first) = true := by
        intro first second
        simp only [before, Bool.or_eq_true, decide_eq_true_eq]
        exact Nat.le_total ..
      exact (List.pairwise_mergeSort trans total ids).imp of_decide_eq_true
    refine (ordered.and (perm.nodup_iff.mpr losing.nodup)).imp ?_
    rintro first second ⟨le, apart⟩
    exact Nat.lt_of_le_of_ne le fun same => apart (injective same)

/-- In a sorted list, the pairs of the order are those of the list. -/
theorem pairwise_sorted_iff {relation : Int → Int → Prop}
    (sorted : ids.Pairwise fun first second => rank first < rank second) :
    ids.Pairwise relation ↔
      ∀ first ∈ ids, ∀ second ∈ ids, rank first < rank second → relation first second := by
  constructor
  · intro pairs first here second there
    let inOrder := fun first second => rank first < rank second → relation first second
    have forward : ids.Pairwise inOrder := pairs.imp (fun holds => fun _ => holds)
    have backward : ids.Pairwise (flip inOrder) :=
      sorted.imp (fun less => fun more => absurd less (Nat.lt_asymm more))
    exact forward.forall_of_forall_of_flip (fun id _ less => absurd less (Nat.lt_irrefl _))
      backward here there
  · intro all
    exact sorted.imp_of_mem fun here there less => all _ here _ there less

namespace AccessibilityBridge

variable (bridge : AccessibilityBridge)

/-- The current tree, and the tree that the pending child lists describe over it. It keeps the
root, unless that is the one which every new tree has. -/
structure Describes (root : Int) (old new : Forest Int) : Prop where
  isTree : bridge.tree.IsTree root old
  nodup : new.labels.Nodup
  roots : ∃ top, new.roots = [top] ∧ (top = root ∨ root = kInvalidAXID ∧ root ∉ new.labels)
  follows : new.Follows bridge.applied
  pending : ∀ node ∈ bridge.pendingSemanticsNodeUpdates, node.id ∈ new.labels

/-- Every pending update is submitted once and none after one of its children, and no child that
one has was still a child of another node. -/
structure Submits (commit : Commit) : Prop where
  submits : ∃ (update : AXTreeUpdate) (order : List SemanticsNode), commit.submitted = some update ∧
    update.nodes = order.map convertFlutterUpdate ∧
      order.Perm bridge.pendingSemanticsNodeUpdates ∧
        order.Pairwise fun earlier later => earlier.id ∉ later.childrenInTraversalOrder
  moved : ∀ node ∈ bridge.pendingSemanticsNodeUpdates, ∀ child ∈ node.childrenInTraversalOrder,
    ∀ parent, child ∈ commit.removed.childIds parent → parent = node.id

/-- No node is reparented; or there is no error yet, and no node that loses a child is at or
below a child that one iterated before it loses. -/
def RemovesInTurn (rank : Int → Nat) (old : Forest Int) : Prop :=
  (∀ child, isReparented bridge.tree bridge.pendingSemanticsNodeUpdates child = false) ∨
    bridge.tree.error = none ∧
      ∀ first second child other, child ∈ bridge.tree.childIds first →
        isReparented bridge.tree bridge.pendingSemanticsNodeUpdates child = true →
          other ∈ bridge.tree.childIds second →
            isReparented bridge.tree bridge.pendingSemanticsNodeUpdates other = true →
              rank first < rank second → second ∉ old.subtree child

variable {bridge} {root : Int} {old new : Forest Int}

theorem pending_children (bridge : AccessibilityBridge) :
    ∀ node ∈ bridge.pendingSemanticsNodeUpdates,
      node.childrenInTraversalOrder = bridge.applied node.id := by
  intro node member
  obtain ⟨other, found, same, looked⟩ := findUpdate_eq_some (isPending_iff.mpr ⟨node, member, rfl⟩)
  rw [applied, looked, List.inj_on_of_nodup_map bridge.distinct found member same]

section

variable (describes : bridge.Describes root old new)

include describes

theorem Describes.root_not_child :
    ∀ node ∈ bridge.pendingSemanticsNodeUpdates, root ∉ node.childrenInTraversalOrder := by
  intro node member among
  rw [bridge.pending_children node member] at among
  have inside := describes.pending node member
  obtain ⟨top, roots, rfl | ⟨-, outside⟩⟩ := describes.roots
  · refine describes.follows.roots_not_successors describes.nodup ?_ inside among
    rw [roots]
    exact List.mem_singleton.mpr rfl
  · exact outside (describes.follows.successors inside among)

/-- A node that is reparented has a parent to be taken from. -/
theorem Describes.exists_parent {child : Int}
    (moves : isReparented bridge.tree bridge.pendingSemanticsNodeUpdates child = true) :
    ∃ parent, child ∈ bridge.tree.childIds parent := by
  obtain ⟨node, member, moves⟩ := List.any_eq_true.mp moves
  obtain ⟨listed, moves⟩ := Bool.and_eq_true_iff.mp moves
  have known : (bridge.tree.nodes child).isSome = true := by
    cases found : bridge.tree.nodes child with
    | none => simp [movesTo, found] at moves
    | some data => rfl
  have inside : child ∈ old.labels := (describes.isTree.mem_iff child).mp known
  have below : child ∉ old.roots := by
    rw [describes.isTree.roots]
    intro same
    refine describes.root_not_child node member ?_
    rw [← List.mem_singleton.mp same]
    exact List.contains_iff_mem.mp listed
  obtain ⟨parent, -, among⟩ := describes.isTree.follows.exists_predecessor inside below
  exact ⟨parent, among⟩

/-- A child that a pending node has is reparented unless it is that node's child already. -/
theorem Describes.isReparented {node : SemanticsNode}
    (member : node ∈ bridge.pendingSemanticsNodeUpdates) {child parent : Int}
    (listed : child ∈ node.childrenInTraversalOrder)
    (among : child ∈ bridge.tree.childIds parent) (other : parent ≠ node.id) :
    isReparented bridge.tree bridge.pendingSemanticsNodeUpdates child = true := by
  obtain ⟨data, found⟩ :=
    describes.isTree.known (describes.isTree.children_subset parent among)
  refine List.any_eq_true.mpr ⟨node, member, Bool.and_eq_true_iff.mpr ⟨?_, ?_⟩⟩
  · exact List.contains_iff_mem.mpr listed
  · simp [movesTo, found, describes.isTree.parent among found, other]

/-- The second update, over the tree that the first one has left. -/
theorem Describes.submitUpdates {fuel : Nat}
    {tree : AXTree} {ids : Finset Int} (covers : ∀ id ∈ new.labels, id ∈ ids)
    (finite : ∀ id, (tree.nodes id).isSome = true → id ∈ ids)
    (enough : ids.card < fuel)
    (deep : new.height + bridge.pendingSemanticsNodeUpdates.length < fuel)
    (moved : ∀ node ∈ bridge.pendingSemanticsNodeUpdates,
      ∀ child ∈ node.childrenInTraversalOrder, ∀ parent,
        child ∈ tree.childIds parent → parent = node.id) :
    ∃ commit, bridge.submitUpdates fuel tree = some commit ∧ bridge.Submits commit := by
  obtain ⟨results, found, perm, pairwise⟩ := subTreeLists_spec deep describes.nodup
    describes.follows bridge.pending_children describes.pending bridge.distinct
  have inside : ∀ newData ∈ (createUpdate tree results).nodes,
      newData.id ∈ ids ∧ ∀ child ∈ newData.childIds, child ∈ ids := by
    intro newData member
    obtain ⟨node, among, rfl⟩ := List.mem_map.mp member
    have pending := perm.mem_iff.mp among
    have label := describes.pending node pending
    refine ⟨covers _ label, fun child listed => covers _ ?_⟩
    refine describes.follows.successors label ?_
    rw [← bridge.pending_children node pending]
    exact listed
  obtain ⟨next, updates, -⟩ := AXTree.unserialize_total finite inside enough
  unfold AccessibilityBridge.submitUpdates
  rw [found]
  dsimp only
  rw [updates]
  exact ⟨_, rfl, ⟨_, _, rfl, rfl, perm, pairwise⟩, moved⟩

/-- The first update is none, or removes its nodes in turn. -/
theorem Describes.removesInTurn_iff {ids : List Int}
    (sorted : ids.Pairwise fun first second => rank first < rank second)
    (mem_iff : ∀ id, id ∈ ids ↔ ∃ child ∈ bridge.tree.childIds id,
      Accessibility.isReparented bridge.tree bridge.pendingSemanticsNodeUpdates child = true) :
    bridge.RemovesInTurn rank old ↔ ids = [] ∨ bridge.tree.error = none ∧
      bridge.tree.InTurn old
        (Accessibility.isReparented bridge.tree bridge.pendingSemanticsNodeUpdates) [] ids := by
  unfold RemovesInTurn
  refine or_congr ?_ (and_congr_right fun _ => ?_)
  · rw [List.eq_nil_iff_forall_not_mem]
    constructor
    · intro stays id member
      obtain ⟨child, -, moves⟩ := (mem_iff id).mp member
      rw [stays child] at moves
      cases moves
    · intro none child
      by_contra moves
      obtain ⟨parent, among⟩ := describes.exists_parent ((Bool.not_eq_false _).mp moves)
      exact none parent ((mem_iff parent).mpr ⟨child, among, (Bool.not_eq_false _).mp moves⟩)
  · rw [AXTree.inTurn_iff, pairwise_sorted_iff sorted]
    constructor
    · intro inTurn
      refine ⟨fun _ _ _ none => absurd none List.not_mem_nil, ?_⟩
      intro first _ second there less cut member
      obtain ⟨among, moves⟩ := List.mem_filter.mp member
      obtain ⟨other, inside, movesOther⟩ := (mem_iff second).mp there
      exact inTurn first second cut other among moves inside movesOther less
    · rintro ⟨-, inTurn⟩ first second child other among moves inside movesOther less
      exact inTurn first ((mem_iff first).mpr ⟨child, among, moves⟩) second
        ((mem_iff second).mpr ⟨other, inside, movesOther⟩) less child
        (List.mem_filter.mpr ⟨among, moves⟩)

end

/-- A commit comes to an end, with the pending updates submitted or with none. -/
theorem Describes.commitUpdates (injective : Function.Injective rank)
    (describes : bridge.Describes root old new) :
    ∃ enough, ∀ fuel, enough < fuel → ∃ commit, bridge.commitUpdates fuel rank = some commit ∧
      (bridge.RemovesInTurn rank old ∧ bridge.Submits commit ∨
        ¬ bridge.RemovesInTurn rank old ∧ commit.submitted = none) := by
  let lost := Accessibility.isReparented bridge.tree bridge.pendingSemanticsNodeUpdates
  let labels := (old.labels ++ new.labels).toFinset
  obtain ⟨ids, creates, sorted, mem_iff⟩ := createRemoveReparentedNodesUpdate_spec injective
    describes.isTree describes.root_not_child
  have covers : ∀ id ∈ new.labels, id ∈ labels := fun id member =>
    List.mem_toFinset.mpr (List.mem_append_right _ member)
  have known : ∀ id ∈ old.labels, id ∈ labels := fun id member =>
    List.mem_toFinset.mpr (List.mem_append_left _ member)
  have finite : ∀ id, (bridge.tree.nodes id).isSome = true → id ∈ labels := fun id found =>
    known id ((describes.isTree.mem_iff id).mp found)
  refine ⟨labels.card + old.height + (new.height + bridge.pendingSemanticsNodeUpdates.length),
    fun fuel enough => ?_⟩
  have enoughLabels : labels.card < fuel := by omega
  have enoughOld : old.height < fuel := by omega
  have enoughNew : new.height + bridge.pendingSemanticsNodeUpdates.length < fuel := by omega
  rw [describes.removesInTurn_iff sorted mem_iff]
  unfold AccessibilityBridge.commitUpdates
  rw [creates]
  by_cases unmoved : ids = []
  · rw [if_pos unmoved]
    obtain ⟨commit, submits, holds⟩ := describes.submitUpdates covers finite enoughLabels enoughNew
      fun node member child listed parent among => by
        by_contra other
        have moves := describes.isReparented member listed among other
        have inside := (mem_iff parent).mpr ⟨child, among, moves⟩
        rw [unmoved] at inside
        exact List.not_mem_nil inside
    exact ⟨commit, submits, .inl ⟨.inl unmoved, holds⟩⟩
  · rw [if_neg unmoved]
    have nodup : ids.Nodup := sorted.imp fun less same => absurd (same ▸ less) (Nat.lt_irrefl _)
    have inside : ids ⊆ old.labels := by
      intro id member
      obtain ⟨child, among, -⟩ := (mem_iff id).mp member
      refine (describes.isTree.mem_iff id).mp ?_
      by_contra missing
      rw [Option.not_isSome_iff_eq_none] at missing
      simp [AXTree.childIds, missing] at among
    have data : ∀ newData ∈ ({ nodes := ids.map (bridge.tree.losingData lost) } :
        AXTreeUpdate).nodes, newData.id ∈ labels ∧ ∀ child ∈ newData.childIds, child ∈ labels := by
      intro newData member
      obtain ⟨id, among, rfl⟩ := List.mem_map.mp member
      exact ⟨known id (inside among), fun child listed => known child
        (describes.isTree.children_subset id (List.mem_filter.mp listed).1)⟩
    obtain ⟨tree, removes, finiteTree⟩ := AXTree.unserialize_total finite data
      enoughLabels
    obtain ⟨succeeds, fails⟩ := describes.isTree.unserialize lost enoughOld nodup inside
    dsimp only
    rw [removes]
    dsimp only
    by_cases inTurn : bridge.tree.InTurn old lost [] ids
    · obtain ⟨next, same, error, lostChildren⟩ := succeeds inTurn
      cases removes.symm.trans same
      rw [error]
      cases sticky : bridge.tree.error with
      | none =>
        obtain ⟨commit, submits, holds⟩ := describes.submitUpdates covers finiteTree
          enoughLabels enoughNew fun node member child listed parent among => by
            by_contra other
            obtain ⟨before, kept⟩ := lostChildren parent child among
            have moves := describes.isReparented member listed before other
            have stays := kept ((mem_iff parent).mpr ⟨child, before, moves⟩)
            exact Bool.false_ne_true (stays.symm.trans moves)
        exact ⟨commit, submits, .inl ⟨.inr ⟨rfl, inTurn⟩, holds⟩⟩
      | some error =>
        refine ⟨_, rfl, .inr ⟨fun either => ?_, rfl⟩⟩
        obtain empty | ⟨cleared, -⟩ := either
        · exact absurd empty unmoved
        · cases cleared
    · obtain ⟨next, same, error⟩ := fails inTurn
      cases removes.symm.trans same
      rw [if_pos (Option.isSome_iff_ne_none.mpr error)]
      refine ⟨_, rfl, .inr ⟨fun either => ?_, rfl⟩⟩
      obtain empty | ⟨-, turn⟩ := either
      · exact absurd empty unmoved
      · exact absurd turn inTurn

theorem not_submits {commit : Commit} (none : commit.submitted = none) :
    ¬ bridge.Submits commit := by
  intro holds
  obtain ⟨update, order, submitted, -⟩ := holds.submits
  rw [none] at submitted
  cases submitted

/-- A commit submits the pending updates exactly when no node that loses a child has been cut
off before its turn. -/
theorem commitUpdates_submits_iff {rank : Int → Nat} (injective : Function.Injective rank)
    (describes : bridge.Describes root old new) :
    ∃ enough, ∀ fuel, enough < fuel → ∃ commit, bridge.commitUpdates fuel rank = some commit ∧
      (bridge.Submits commit ↔ bridge.RemovesInTurn rank old) := by
  obtain ⟨enough, commits⟩ := describes.commitUpdates injective
  refine ⟨enough, fun fuel more => ?_⟩
  obtain ⟨commit, found, ⟨inTurn, holds⟩ | ⟨outOfTurn, none⟩⟩ := commits fuel more
  · exact ⟨commit, found, fun _ => inTurn, fun _ => holds⟩
  · exact ⟨commit, found, fun holds => absurd holds (not_submits none),
      fun inTurn => absurd inTurn outOfTurn⟩

/-- 1 and 2 are below 0, and 3 is below 1. -/
def smallTree : AXTree where
  root := some 0
  nodes id :=
    if id = 0 then some ⟨none, [1, 2]⟩
    else if id = 1 then some ⟨some 0, [3]⟩
    else if id = 2 then some ⟨some 0, []⟩
    else if id = 3 then some ⟨some 1, []⟩
    else none

def smallForest : Forest Int :=
  .cons 0 (.cons 1 (.cons 3 .empty .empty) (.cons 2 .empty .empty)) .empty

theorem smallTree_isTree : smallTree.IsTree 0 smallForest where
  nodup := by decide
  roots := rfl
  rootNode := rfl
  mem_iff := by
    intro id
    simp only [smallTree, smallForest, Forest.labels, List.mem_cons, List.append_nil,
      List.cons_append, List.nil_append, List.not_mem_nil, or_false]
    split_ifs <;> simp_all
  follows := ⟨rfl, ⟨rfl, ⟨rfl, trivial, trivial⟩, ⟨rfl, trivial, trivial⟩⟩, trivial⟩
  parent := by
    intro id child node among found
    simp only [AXTree.childIds, smallTree] at among found
    split_ifs at among with top below
    · obtain rfl | rfl : child = 1 ∨ child = 2 := by simpa using among
      · cases found
        rw [top]
      · cases found
        rw [top]
    · obtain rfl : child = 3 := by simpa using among
      cases found
      rw [below]
    · simp at among
    · simp at among
    · simp at among
  orphan := by
    intro node found
    cases found
    rfl

/-- 3 goes from 1 to 2. -/
def oneMoves : AccessibilityBridge where
  tree := smallTree
  pendingSemanticsNodeUpdates := [⟨1, []⟩, ⟨2, [3]⟩, ⟨3, []⟩]
  distinct := by decide

theorem oneMoves_describes : oneMoves.Describes 0 smallForest
    (.cons 0 (.cons 1 .empty (.cons 2 (.cons 3 .empty .empty) .empty)) .empty) where
  isTree := smallTree_isTree
  nodup := by decide
  roots := ⟨0, rfl, .inl rfl⟩
  follows := ⟨rfl, ⟨rfl, trivial, ⟨rfl, ⟨rfl, trivial, trivial⟩, trivial⟩⟩, trivial⟩
  pending := by decide

theorem oneMoves_removesInTurn : oneMoves.RemovesInTurn Equiv.intEquivNat smallForest := by
  refine .inr ⟨rfl, fun first second child other among moves inside movesOther less => ?_⟩
  -- Only 1 loses a child, so there is no second node.
  have only : ∀ {id child}, child ∈ smallTree.childIds id →
      Accessibility.isReparented smallTree oneMoves.pendingSemanticsNodeUpdates child = true →
        id = 1 := by
    intro id child among moves
    obtain rfl : child = 3 := by
      simp [Accessibility.isReparented, oneMoves] at moves
      exact moves.1
    exact (Option.some_inj.mp (smallTree_isTree.parent among rfl)).symm
  rw [only among moves, only inside movesOther] at less
  exact absurd less (Nat.lt_irrefl _)

theorem oneMoves_submits : Function.Injective Equiv.intEquivNat ∧
    ∃ enough, ∀ fuel, enough < fuel → ∃ commit,
      oneMoves.commitUpdates fuel Equiv.intEquivNat = some commit ∧ oneMoves.Submits commit := by
  refine ⟨Equiv.intEquivNat.injective, ?_⟩
  obtain ⟨enough, commits⟩ :=
    commitUpdates_submits_iff Equiv.intEquivNat.injective oneMoves_describes
  refine ⟨enough, fun fuel more => ?_⟩
  obtain ⟨commit, found, holds⟩ := commits fuel more
  exact ⟨commit, found, holds.mpr oneMoves_removesInTurn⟩

/-- 1 goes from 0 to 2, and 3 goes from 1 to 2. When 0 is iterated before 1, then 1 has been cut
off with what it was to lose. -/
def bothMove : AccessibilityBridge where
  tree := smallTree
  pendingSemanticsNodeUpdates := [⟨0, [2]⟩, ⟨1, []⟩, ⟨2, [1, 3]⟩, ⟨3, []⟩]
  distinct := by decide

theorem bothMove_describes : bothMove.Describes 0 smallForest
    (.cons 0 (.cons 2 (.cons 1 .empty (.cons 3 .empty .empty)) .empty) .empty) where
  isTree := smallTree_isTree
  nodup := by decide
  roots := ⟨0, rfl, .inl rfl⟩
  follows := ⟨rfl, ⟨rfl, ⟨rfl, trivial, ⟨rfl, trivial, trivial⟩⟩, trivial⟩, trivial⟩
  pending := by decide

theorem bothMove_not_submits : bothMove.Describes 0 smallForest
      (.cons 0 (.cons 2 (.cons 1 .empty (.cons 3 .empty .empty)) .empty) .empty) ∧
    ∃ enough, ∀ fuel, enough < fuel → ∃ commit,
      bothMove.commitUpdates fuel Equiv.intEquivNat = some commit ∧ commit.submitted = none ∧
        ¬ bothMove.Submits commit := by
  have outOfTurn : ¬ bothMove.RemovesInTurn Equiv.intEquivNat smallForest := by
    rintro (stays | ⟨-, inTurn⟩)
    · exact absurd (stays 1) (by decide)
    · refine inTurn 0 1 1 3 ?_ ?_ ?_ ?_ ?_ ?_ <;> decide
  refine ⟨bothMove_describes, ?_⟩
  obtain ⟨enough, commits⟩ := bothMove_describes.commitUpdates Equiv.intEquivNat.injective
  refine ⟨enough, fun fuel more => ?_⟩
  obtain ⟨commit, found, ⟨inTurn, -⟩ | ⟨-, none⟩⟩ := commits fuel more
  · exact absurd inTurn outOfTurn
  · exact ⟨commit, found, none, not_submits none⟩

end AccessibilityBridge

end FlutterEngine.Accessibility
