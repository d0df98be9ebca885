import Mathlib.Data.List.Dedup
import FlutterEngine.Accessibility.AXTree

/-!
# Updates that remove nodes

The pending changes of an update stand for a forest: the nodes that are to exist. Marking a
subtree for destruction cuts it off. An update whose nodes only lose children succeeds exactly
when no node has been cut off with another one's child before its own turn.
-/

namespace FlutterEngine.Accessibility

open FlutterEngine.Std

namespace AXTreeUpdateState

variable (state : AXTreeUpdateState)

/-- The children of a node that are to exist. -/
def children (id : Int) : List Int :=
  (state.getLastKnownPendingNodeData id).filter state.shouldPendingNodeExistInTree

/-- The nodes of a list are gone and the others as they were. -/
def Loses (next : AXTreeUpdateState) (gone : List Int) : Prop :=
  ∀ id, next.data id = if id ∈ gone then ⟨false, none, none⟩ else state.data id

variable {state} {next : AXTreeUpdateState} {gone : List Int} {forest : Forest Int}

theorem Loses.exists_iff (loses : state.Loses next gone) (id : Int) :
    next.shouldPendingNodeExistInTree id = true ↔
      state.shouldPendingNodeExistInTree id = true ∧ id ∉ gone := by
  unfold shouldPendingNodeExistInTree
  rw [loses id]
  split
  · next lost => simp [lost]
  · next kept => simp [kept]

variable {id : Int} {ids old : List Int}

theorem Loses.lastKnown (loses : state.Loses next gone) (kept : id ∉ gone) :
    next.getLastKnownPendingNodeData id = state.getLastKnownPendingNodeData id := by
  unfold getLastKnownPendingNodeData
  rw [loses id, if_neg kept]

/-- A list of which none is gone. -/
theorem Loses.filter (loses : state.Loses next gone) (ids : List Int)
    (kept : ∀ id ∈ ids.filter state.shouldPendingNodeExistInTree, id ∉ gone) :
    ids.filter next.shouldPendingNodeExistInTree =
      ids.filter state.shouldPendingNodeExistInTree := by
  refine List.filter_congr fun id member => ?_
  rw [Bool.eq_iff_iff, loses.exists_iff]
  exact ⟨And.left, fun exist => ⟨exist, kept id (List.mem_filter.mpr ⟨member, exist⟩)⟩⟩

theorem Loses.follows (loses : state.Loses next gone) (follows : forest.Follows state.children)
    (kept : ∀ id ∈ forest.labels, id ∉ gone) : forest.Follows next.children := by
  refine follows.congr fun id member => ?_
  unfold children
  rw [loses.lastKnown (kept id member)]
  exact loses.filter _ fun child among => kept child (follows.successors member among)

theorem Loses.trans {final : AXTreeUpdateState} {later : List Int} (first : state.Loses next gone)
    (second : next.Loses final later) : state.Loses final (gone ++ later) := by
  intro id
  rw [second id, first id]
  by_cases early : id ∈ gone <;> by_cases late : id ∈ later <;> simp [early, late]

theorem loses_incrementPendingDestroyNodeCount
    (exist : state.shouldPendingNodeExistInTree id = true) :
    state.Loses (state.incrementPendingDestroyNodeCount id) [id] := by
  intro other
  unfold shouldPendingNodeExistInTree at exist
  unfold incrementPendingDestroyNodeCount
  rw [if_pos exist]
  change Function.update state.data id _ other = _
  by_cases same : other = id
  · subst same
    rw [Function.update_self, if_pos (List.mem_singleton.mpr rfl)]
  · rw [Function.update_of_ne same, if_neg (mt List.mem_singleton.mp same)]

theorem pendingRootId_incrementPendingDestroyNodeCount (other : state.pendingRootId ≠ some id) :
    (state.incrementPendingDestroyNodeCount id).pendingRootId = state.pendingRootId := by
  unfold incrementPendingDestroyNodeCount
  rw [if_neg other]
  split
  · rfl
  · rfl

theorem markSubtreeForDestruction_missing {fuel : Nat} (enough : 0 < fuel)
    (missing : state.shouldPendingNodeExistInTree id = false) :
    markSubtreeForDestruction fuel state id = some state := by
  obtain ⟨fuel, rfl⟩ := Nat.exists_eq_succ_of_ne_zero enough.ne'
  rw [markSubtreeForDestruction, missing]
  rfl

theorem foldlM_markSubtreeForDestruction_missing {fuel : Nat} (enough : 0 < fuel)
    (missing : ids.filter state.shouldPendingNodeExistInTree = []) :
    ids.foldlM (markSubtreeForDestruction fuel) state = some state := by
  induction ids with
  | nil => rfl
  | cons id ids ih =>
    rw [List.filter_eq_nil_iff] at missing
    have here := markSubtreeForDestruction_missing enough
      ((Bool.not_eq_true _).mp (missing id List.mem_cons_self))
    rw [List.foldlM_cons, here]
    exact ih (List.filter_eq_nil_iff.mpr fun other member =>
      missing other (List.mem_cons_of_mem _ member))

/-- Marking the roots of a forest marks its labels. Roots that are not to exist are skipped. -/
theorem foldlM_markSubtreeForDestruction {fuel : Nat} (enough : forest.height < fuel)
    (nodup : forest.labels.Nodup) (follows : forest.Follows state.children)
    (roots : ids.filter state.shouldPendingNodeExistInTree = forest.roots)
    (noRoot : ∀ id ∈ forest.labels, state.pendingRootId ≠ some id) :
    ∃ next, ids.foldlM (markSubtreeForDestruction fuel) state = some next ∧
      state.Loses next forest.labels ∧ next.pendingRootId = state.pendingRootId := by
  induction forest generalizing fuel state ids with
  | empty =>
    refine ⟨state, foldlM_markSubtreeForDestruction_missing enough roots, fun id => ?_, rfl⟩
    rw [Forest.labels_empty, if_neg List.not_mem_nil]
  | cons root children siblings below beside =>
    obtain ⟨top, rest⟩ := List.nodup_cons.mp nodup
    obtain ⟨inside, outside, apart⟩ := List.nodup_append.mp rest
    obtain ⟨here, down, along⟩ := follows
    obtain ⟨before, after, rfl, missing, exist, rootsAfter⟩ := List.filter_eq_cons_iff.mp roots
    obtain ⟨fuel, rfl⟩ := Nat.exists_eq_succ_of_ne_zero (Nat.ne_zero_of_lt enough)
    have deep : children.height < fuel := by
      simp only [Forest.height] at enough
      omega
    have wide : siblings.height < fuel + 1 := by
      simp only [Forest.height] at enough
      omega
    have passed := foldlM_markSubtreeForDestruction_missing (Nat.succ_pos fuel)
      (List.filter_eq_nil_iff.mpr missing)
    -- The root goes first,
    have loses := loses_incrementPendingDestroyNodeCount exist
    have sameRoot := pendingRootId_incrementPendingDestroyNodeCount
      (noRoot root List.mem_cons_self)
    have keptBelow : ∀ id ∈ children.labels, id ∉ [root] := fun id member same =>
      top (List.mem_append_left _ (List.mem_singleton.mp same ▸ member))
    have rootsBelow := loses.filter (state.getLastKnownPendingNodeData root)
      fun id member => keptBelow id (children.roots_subset (here ▸ member))
    -- then what is below it,
    obtain ⟨between, marksBelow, losesBelow, sameBelow⟩ := below deep inside
      (loses.follows down keptBelow) (rootsBelow.trans here)
      fun id member => sameRoot ▸ noRoot id (List.mem_cons_of_mem _ (List.mem_append_left _ member))
    have losesRoot := loses.trans losesBelow
    have keptBeside : ∀ id ∈ siblings.labels, id ∉ [root] ++ children.labels := by
      intro id member gone
      obtain same | among := List.mem_cons.mp gone
      · exact top (List.mem_append_right _ (same ▸ member))
      · exact apart id among id member rfl
    -- and then its siblings.
    have rootsBeside := losesRoot.filter after fun id member =>
      keptBeside id (siblings.roots_subset (rootsAfter ▸ member))
    obtain ⟨next, marksBeside, losesBeside, sameBeside⟩ := beside wide outside
      (losesRoot.follows along keptBeside) (rootsBeside.trans rootsAfter)
      fun id member => (sameBelow.trans sameRoot) ▸
        noRoot id (List.mem_cons_of_mem _ (List.mem_append_right _ member))
    refine ⟨next, ?_, losesRoot.trans losesBeside, sameBeside.trans (sameBelow.trans sameRoot)⟩
    rw [List.foldlM_append, passed]
    change (markSubtreeForDestruction (fuel + 1) state root >>= fun state =>
      after.foldlM (markSubtreeForDestruction (fuel + 1)) state) = some next
    rw [markSubtreeForDestruction, exist, Bool.not_true, if_neg Bool.false_ne_true, marksBelow]
    exact marksBeside

/-- The nodes that are to exist are those of a tree, with its children. -/
structure Matches (state : AXTreeUpdateState) (root : Int) (forest : Forest Int) : Prop where
  nodup : forest.labels.Nodup
  roots : forest.roots = [root]
  pendingRoot : state.pendingRootId = some root
  exists_iff : ∀ id, state.shouldPendingNodeExistInTree id = true ↔ id ∈ forest.labels
  follows : forest.Follows state.children

variable {root : Int} {fuel : Nat} {child : Int}

/-- The root is in no other subtree. -/
theorem Matches.root_not_mem_subtree (same : state.Matches root forest) (other : child ≠ root)
    (inside : child ∈ forest.labels) : root ∉ forest.subtree child := by
  obtain ⟨nodup, roots, -, -, -⟩ := same
  cases forest with
  | empty => cases inside
  | cons top children siblings =>
    obtain ⟨rfl, alone⟩ := List.cons.inj roots
    cases siblings with
    | cons => cases alone
    | empty =>
      rw [Forest.labels_cons, Forest.labels_empty, List.append_nil] at nodup inside
      have below := (List.mem_cons.mp inside).resolve_left other
      rw [Forest.subtree_cons_children other.symm below]
      exact fun among => (List.nodup_cons.mp nodup).1 (Forest.subtree_subset below among)

/-- Marking a node for destruction cuts its tree off. -/
theorem Matches.mark (same : state.Matches root forest) (enough : forest.height < fuel)
    (other : child ≠ root) :
    ∃ next, markSubtreeForDestruction fuel state child = some next ∧
      next.Matches root (forest.keep (· ≠ child)) ∧
        ∀ id ∈ (forest.keep (· ≠ child)).labels, next.data id = state.data id := by
  by_cases inside : child ∈ forest.labels
  · have exist := (same.exists_iff child).mpr inside
    let tree : Forest Int := .cons child (forest.childForest child) .empty
    have labels : tree.labels = forest.subtree child := by simp [tree, Forest.subtree]
    have nodup : tree.labels.Nodup := by
      rw [labels]
      exact List.nodup_cons.mpr ⟨Forest.not_mem_childForest same.nodup child,
        Forest.nodup_childForest same.nodup child⟩
    have follows : tree.Follows state.children :=
      ⟨same.follows.roots_childForest inside, same.follows.childForest child, trivial⟩
    have height : tree.height < fuel :=
      lt_of_le_of_lt (max_le (Forest.height_childForest inside) (Nat.zero_le _)) enough
    have roots : [child].filter state.shouldPendingNodeExistInTree = tree.roots := by
      simp [exist, tree]
    obtain ⟨next, marks, loses, pendingRoot⟩ := foldlM_markSubtreeForDestruction height nodup
      follows roots fun id member root => by
        rw [same.pendingRoot, Option.some_inj] at root
        exact same.root_not_mem_subtree other inside (root ▸ labels ▸ member)
    rw [labels] at loses
    have kept : ∀ id, id ∈ (forest.keep (· ≠ child)).labels ↔
        id ∈ forest.labels ∧ id ∉ forest.subtree child := by
      intro id
      rw [Forest.mem_labels_keep same.nodup]
      refine and_congr_right fun _ => ⟨fun cuts => cuts child inside (by simp), ?_⟩
      intro apart cut _ cuts
      rwa [show cut = child by simpa using cuts]
    refine ⟨next, ?_, ⟨?_, ?_, pendingRoot.trans same.pendingRoot, fun id => ?_, ?_⟩, fun id member => ?_⟩
    · simpa using marks
    · exact (Forest.labels_keep_sublist _ forest).nodup same.nodup
    · rw [Forest.roots_keep, same.roots]
      simp [other.symm]
    · rw [loses.exists_iff, same.exists_iff, kept]
    · refine (same.follows.keep _).congr fun id member => ?_
      unfold children
      rw [loses.lastKnown ((kept id).mp member).2, List.filter_filter]
      refine List.filter_congr fun below among => ?_
      rw [Bool.eq_iff_iff, loses.exists_iff, Bool.and_eq_true, decide_eq_true_eq, and_comm]
      refine and_congr_left fun exist => ⟨fun apart same => apart (same ▸ List.mem_cons_self), ?_⟩
      intro different
      refine ((kept below).mp ((same.follows.keep _).successors member ?_)).2
      exact List.mem_filter.mpr ⟨List.mem_filter.mpr ⟨among, exist⟩, decide_eq_true different⟩
    · rw [loses id, if_neg ((kept id).mp member).2]
  · have missing : state.shouldPendingNodeExistInTree child = false :=
      (Bool.not_eq_true _).mp fun exist => inside ((same.exists_iff child).mp exist)
    have whole : ∀ id ∈ forest.labels, decide (id ≠ child) = true := fun id member =>
      decide_eq_true fun same => inside (same ▸ member)
    rw [Forest.keep_of_forall whole]
    exact ⟨state, markSubtreeForDestruction_missing (Nat.zero_lt_of_lt enough) missing, same,
      fun _ _ => rfl⟩

/-- Children that the new data does not have are destroyed, one after the other. -/
theorem Matches.createOrDestroy (same : state.Matches root forest)
    (enough : forest.height < fuel) (newData : AXNodeData) {removed : List Int}
    (missing : ∀ child ∈ removed, child ∉ newData.childIds) (others : root ∉ removed) :
    ∃ next, createOrDestroy fuel newData removed state = some (.ok next) ∧
      next.Matches root (forest.keep (· ∉ removed)) ∧
        ∀ id ∈ (forest.keep (· ∉ removed)).labels, next.data id = state.data id := by
  induction removed generalizing state forest with
  | nil =>
    rw [Forest.keep_of_forall fun _ _ => decide_eq_true List.not_mem_nil]
    exact ⟨state, rfl, same, fun _ _ => rfl⟩
  | cons child removed ih =>
    obtain ⟨other, others⟩ := not_or.mp (mt List.mem_cons.mpr others)
    obtain ⟨between, marks, sameBetween, kept⟩ := same.mark enough (Ne.symm other)
    obtain ⟨next, destroys, sameNext, keptNext⟩ := ih sameBetween
      ((Forest.height_keep _ forest).trans_lt enough)
      (fun child member => missing child (List.mem_cons_of_mem _ member)) others
    have both : (forest.keep (· ≠ child)).keep (· ∉ removed) =
        forest.keep (· ∉ child :: removed) := by
      rw [Forest.keep_keep]
      congr 1
      funext id
      simp [not_or]
    rw [both] at sameNext keptNext
    refine ⟨next, ?_, sameNext, fun id member => ?_⟩
    · rw [AXTreeUpdateState.createOrDestroy, if_neg (missing child List.mem_cons_self), marks]
      exact destroys
    · refine (keptNext id member).trans (kept id ?_)
      rw [← both] at member
      exact (Forest.labels_keep_sublist _ _).subset member

theorem findDuplicate_eq_none {seen : List Int} (nodup : ids.Nodup)
    (apart : ∀ id ∈ ids, id ∉ seen) : findDuplicate seen ids = none := by
  induction ids generalizing seen with
  | nil => rfl
  | cons id ids ih =>
    obtain ⟨fresh, nodup⟩ := List.nodup_cons.mp nodup
    rw [findDuplicate, if_neg (apart id List.mem_cons_self)]
    refine ih nodup fun other member among => ?_
    obtain same | before := List.mem_cons.mp among
    · exact fresh (same ▸ member)
    · exact apart other (List.mem_cons_of_mem _ member) before

theorem mem_symmetricDifference_filter {kept : Int → Bool} :
    child ∈ symmetricDifference old (old.filter kept) ↔ child ∈ old ∧ kept child = false := by
  unfold symmetricDifference
  simp only [List.mem_mergeSort, List.mem_dedup, List.mem_append, List.mem_filter, not_and,
    decide_eq_true_eq, Bool.not_eq_true]
  constructor
  · rintro (⟨member, cut⟩ | ⟨⟨member, -⟩, missing⟩)
    · exact ⟨member, cut member⟩
    · exact absurd member missing
  · exact fun ⟨member, cut⟩ => .inl ⟨member, fun _ => cut⟩

theorem setLastKnownPendingNodeData_data (state : AXTreeUpdateState) (newData : AXNodeData)
    (id : Int) :
    (state.setLastKnownPendingNodeData newData).data id =
      if id = newData.id then { state.data id with lastKnownChildIds := some newData.childIds }
      else state.data id := by
  change Function.update state.data newData.id _ id = _
  by_cases same : id = newData.id
  · subst same
    rw [Function.update_self, if_pos rfl]
  · rw [Function.update_of_ne same, if_neg same]

/-- New data whose child ids are those of the children that exist changes nothing else. -/
theorem Matches.setLastKnownPendingNodeData (same : state.Matches root forest)
    {newData : AXNodeData}
    (exist : newData.id ∈ forest.labels →
      newData.childIds.filter state.shouldPendingNodeExistInTree = state.children newData.id) :
    (state.setLastKnownPendingNodeData newData).Matches root forest := by
  have exists_eq : (state.setLastKnownPendingNodeData newData).shouldPendingNodeExistInTree =
      state.shouldPendingNodeExistInTree := by
    funext id
    unfold shouldPendingNodeExistInTree
    rw [setLastKnownPendingNodeData_data]
    split <;> rfl
  refine ⟨same.nodup, same.roots, same.pendingRoot, ?_, same.follows.congr fun id member => ?_⟩
  · rw [exists_eq]
    exact same.exists_iff
  · unfold children getLastKnownPendingNodeData
    rw [exists_eq, setLastKnownPendingNodeData_data]
    split
    · next here =>
        subst here
        exact exist member
    · rfl

/-- A node of the tree that only loses children. -/
theorem Matches.computePendingChangesToNode (same : state.Matches root forest)
    (enough : forest.height < fuel) (newData : AXNodeData) (alive : newData.id ∈ forest.labels) (known : (state.data newData.id).lastKnownChildIds = some old)
    (kept : Int → Bool) (keeps : newData.childIds = old.filter kept) (nodup : old.Nodup)
    (others : root ∉ old) (isNewRoot : Bool) :
    ∃ next, state.computePendingChangesToNode fuel newData isNewRoot = some (.ok next) ∧
      next.Matches root (forest.keep fun child => child ∉ old || kept child) ∧
        ∀ id ∈ (forest.keep fun child => child ∉ old || kept child).labels,
          next.data id =
            if id = newData.id then { state.data id with lastKnownChildIds := some newData.childIds }
            else state.data id := by
  let removed := symmetricDifference old newData.childIds
  have mem_removed : ∀ child, child ∈ removed ↔ child ∈ old ∧ kept child = false := by
    intro child
    unfold removed
    rw [keeps, mem_symmetricDifference_filter]
  have passes : (fun child => decide (child ∉ removed)) =
      fun child => decide (child ∉ old) || kept child := by
    funext child
    by_cases member : child ∈ old <;> cases cut : kept child <;> simp [mem_removed, member, cut]
  obtain ⟨between, destroys, sameBetween, unchanged⟩ := same.createOrDestroy enough newData
    (fun child (member : child ∈ removed) among => by
      rw [keeps, List.mem_filter, ((mem_removed child).mp member).2] at among
      exact Bool.false_ne_true among.2)
    fun member => others ((mem_removed root).mp member).1
  rw [passes] at sameBetween unchanged
  refine ⟨between.setLastKnownPendingNodeData newData, ?_, ?_, fun id member => ?_⟩
  · have exist : state.shouldPendingNodeExistInTree newData.id = true :=
      (same.exists_iff newData.id).mpr alive
    have noDuplicate : findDuplicate [] newData.childIds = none :=
      findDuplicate_eq_none (keeps ▸ nodup.filter kept) fun _ _ => List.not_mem_nil
    have initialized : state.doesPendingNodeRequireInit newData.id = false := by
      simp [doesPendingNodeRequireInit, known]
    have lastKnown : state.getLastKnownPendingNodeData newData.id = old := by
      simp [getLastKnownPendingNodeData, known]
    simp only [AXTreeUpdateState.computePendingChangesToNode, createRoot, exist, if_true,
      noDuplicate, initialized, Bool.false_eq_true, if_false, lastKnown]
    rw [destroys]
    rfl
  · refine sameBetween.setLastKnownPendingNodeData fun member => ?_
    have lastKnown : between.getLastKnownPendingNodeData newData.id = old := by
      unfold getLastKnownPendingNodeData
      rw [unchanged newData.id member, known, Option.getD_some]
    unfold children
    rw [lastKnown, keeps, List.filter_filter]
    refine List.filter_congr fun child among => ?_
    rw [Bool.and_eq_left_iff_imp]
    intro exist
    have pass := Forest.passes_of_mem_keep ((sameBetween.exists_iff child).mp exist)
    simpa [among] using pass
  · rw [setLastKnownPendingNodeData_data, unchanged id member]

end AXTreeUpdateState

namespace AXTree

variable (tree : AXTree)

/-- The nodes are those of a tree with one root. -/
structure IsTree (root : Int) (nodes : Forest Int) : Prop where
  nodup : nodes.labels.Nodup
  roots : nodes.roots = [root]
  rootNode : tree.root = some root
  mem_iff : ∀ id, (tree.nodes id).isSome = true ↔ id ∈ nodes.labels
  follows : nodes.Follows tree.childIds
  parent : ∀ {id child node}, child ∈ tree.childIds id → tree.nodes child = some node →
    node.parent = some id
  orphan : ∀ {node}, tree.nodes root = some node → node.parent = none

/-- The update of a node that loses some of its children. -/
def losingData (lost : Int → Bool) (id : Int) : AXNodeData where
  id
  childIds := (tree.childIds id).filter fun child => !lost child

/-- No node is in a tree that was cut off before its turn. -/
def InTurn (nodes : Forest Int) (lost : Int → Bool) : List Int → List Int → Prop
  | _, [] => True
  | removed, id :: ids => (∀ cut ∈ removed, id ∉ nodes.subtree cut) ∧
      InTurn nodes lost (removed ++ (tree.childIds id).filter lost) ids

/-- The state when the nodes `done` have lost their children `removed`. -/
structure Removing (root : Int) (nodes : Forest Int) (lost : Int → Bool) (removed done : List Int)
    (state : AXTreeUpdateState) : Prop where
  same : state.Matches root (nodes.keep (· ∉ removed))
  subset : removed ⊆ nodes.labels
  known : ∀ id ∈ (nodes.keep (· ∉ removed)).labels, (state.data id).lastKnownChildIds =
    some (if id ∈ done then (tree.losingData lost id).childIds else tree.childIds id)

variable {tree} {root : Int} {nodes : Forest Int} {lost : Int → Bool} {removed done : List Int}
  {state : AXTreeUpdateState} {fuel : Nat}
variable {id : Int} {ids : List Int}

theorem IsTree.known (isTree : tree.IsTree root nodes) (member : id ∈ nodes.labels) :
    ∃ node, tree.nodes id = some node :=
  Option.isSome_iff_exists.mp ((isTree.mem_iff id).mpr member)

theorem childIds_of_nodes {node : AXNode} (found : tree.nodes id = some node) :
    tree.childIds id = node.childIds := by
  rw [childIds, found]
  rfl

theorem IsTree.children_subset (isTree : tree.IsTree root nodes) (id : Int) :
    tree.childIds id ⊆ nodes.labels := by
  by_cases member : id ∈ nodes.labels
  · exact isTree.follows.successors member
  · have missing : tree.nodes id = none := Option.not_isSome_iff_eq_none.mp
      fun found => member ((isTree.mem_iff id).mp found)
    rw [childIds, missing]
    exact List.nil_subset _

theorem IsTree.root_not_child (isTree : tree.IsTree root nodes) (id : Int) :
    root ∉ tree.childIds id := by
  intro member
  obtain ⟨node, found⟩ := isTree.known (isTree.children_subset id member)
  have parent := isTree.parent member found
  rw [isTree.orphan found] at parent
  cases parent

theorem IsTree.nodup_childIds (isTree : tree.IsTree root nodes) (id : Int) :
    (tree.childIds id).Nodup := by
  by_cases member : id ∈ nodes.labels
  · rw [isTree.follows.roots_childForest member]
    exact Forest.nodup_roots (Forest.nodup_childForest isTree.nodup id)
  · have missing : tree.nodes id = none := Option.not_isSome_iff_eq_none.mp
      fun found => member ((isTree.mem_iff id).mp found)
    rw [childIds, missing]
    exact List.nodup_nil

theorem IsTree.removing (isTree : tree.IsTree root nodes) (lost : Int → Bool) :
    tree.Removing root nodes lost [] [] tree.updateState := by
  have whole : nodes.keep (· ∉ ([] : List Int)) = nodes :=
    Forest.keep_of_forall fun _ _ => decide_eq_true List.not_mem_nil
  have exists_iff : ∀ id, tree.updateState.shouldPendingNodeExistInTree id = true ↔
      id ∈ nodes.labels := by
    intro id
    rw [← isTree.mem_iff]
    change (PendingStructureChanges.ofNode (tree.nodes id)).nodeExists = true ↔ _
    cases tree.nodes id <;> simp [PendingStructureChanges.ofNode]
  have known : ∀ id ∈ nodes.labels,
      (tree.updateState.data id).lastKnownChildIds = some (tree.childIds id) := by
    intro id member
    obtain ⟨node, found⟩ := isTree.known member
    change (PendingStructureChanges.ofNode (tree.nodes id)).lastKnownChildIds = _
    rw [childIds_of_nodes found, found]
    rfl
  refine ⟨?_, List.nil_subset _, ?_⟩ <;> rw [whole]
  · refine ⟨isTree.nodup, isTree.roots, isTree.rootNode, exists_iff,
      isTree.follows.congr fun id member => ?_⟩
    unfold AXTreeUpdateState.children AXTreeUpdateState.getLastKnownPendingNodeData
    rw [known id member, Option.getD_some, List.filter_eq_self]
    exact fun child among => (exists_iff child).mpr (isTree.follows.successors member among)
  · exact fun id member => (known id member).trans (by rw [if_neg List.not_mem_nil])

/-- A node that is still in the tree loses its children. -/
theorem Removing.node (removing : tree.Removing root nodes lost removed done state)
    (isTree : tree.IsTree root nodes) (enough : nodes.height < fuel)
    (alive : id ∈ (nodes.keep (· ∉ removed)).labels) (fresh : id ∉ done) (isNewRoot : Bool) :
    ∃ next, state.computePendingChangesToNode fuel (tree.losingData lost id) isNewRoot =
        some (.ok next) ∧
      tree.Removing root nodes lost (removed ++ (tree.childIds id).filter lost) (id :: done)
        next := by
  have known := (removing.known id alive).trans (by rw [if_neg fresh])
  obtain ⟨next, computes, same, data⟩ := removing.same.computePendingChangesToNode
    ((Forest.height_keep _ nodes).trans_lt enough) (tree.losingData lost id) alive known
    (fun child => !lost child) rfl (isTree.nodup_childIds id) (isTree.root_not_child id)
    isNewRoot
  have both : ((nodes.keep (· ∉ removed)).keep fun child =>
      decide (child ∉ tree.childIds id) || !lost child) =
        nodes.keep (· ∉ removed ++ (tree.childIds id).filter lost) := by
    rw [Forest.keep_keep]
    congr 1
    funext child
    by_cases early : child ∈ removed <;> by_cases among : child ∈ tree.childIds id <;>
      cases cut : lost child <;> simp [early, among, cut]
  rw [both] at same data
  refine ⟨next, computes, same, List.append_subset.mpr ⟨removing.subset, ?_⟩, ?_⟩
  · exact List.Subset.trans List.filter_sublist.subset (isTree.children_subset id)
  · intro other member
    rw [data other member]
    change (if other = id then _ else _ : PendingStructureChanges).lastKnownChildIds = _
    by_cases here : other = id
    · subst here
      rw [if_pos rfl, if_pos List.mem_cons_self]
    · have before : other ∈ (nodes.keep (· ∉ removed)).labels := by
        rw [← both] at member
        exact (Forest.labels_keep_sublist _ _).subset member
      rw [if_neg here, removing.known other before]
      simp only [List.mem_cons, here, false_or]

/-- A node that was cut off is an error. -/
theorem computePendingChangesToNode_missing (newData : AXNodeData)
    (missing : state.shouldPendingNodeExistInTree newData.id = false) :
    state.computePendingChangesToNode fuel newData false = some (.error (.notInTree newData.id)) := by
  simp [AXTreeUpdateState.computePendingChangesToNode, AXTreeUpdateState.createRoot, missing]

/-- The nodes lose their children, until one of them is not in the tree. -/
theorem Removing.computeNodes (removing : tree.Removing root nodes lost removed done state)
    (isTree : tree.IsTree root nodes) (enough : nodes.height < fuel) (rootWillBeCreated : Bool)
    (rootId : Int) (nodup : ids.Nodup) (fresh : ∀ id ∈ ids, id ∉ done)
    (inside : ids ⊆ nodes.labels) (oldRoot : rootWillBeCreated = true → rootId ∉ nodes.labels) :
    (tree.InTurn nodes lost removed ids → ∃ final cuts,
      AXTree.computeNodes fuel rootWillBeCreated rootId (ids.map (tree.losingData lost)) state =
          some (.ok final) ∧
        tree.Removing root nodes lost cuts (ids.reverse ++ done) final) ∧
      (¬ tree.InTurn nodes lost removed ids → ∃ id,
        AXTree.computeNodes fuel rootWillBeCreated rootId (ids.map (tree.losingData lost)) state =
          some (.error (.notInTree id))) := by
  induction ids generalizing removed done state with
  | nil => exact ⟨fun _ => ⟨state, removed, rfl, removing⟩, fun unmet => absurd trivial unmet⟩
  | cons id ids ih =>
    obtain ⟨first, nodup⟩ := List.nodup_cons.mp nodup
    have here := inside List.mem_cons_self
    have notRoot : (rootWillBeCreated && (tree.losingData lost id).id == rootId) = false := by
      cases rootWillBeCreated with
      | false => rfl
      | true =>
        rw [Bool.true_and, beq_eq_false_iff_ne]
        exact fun same => oldRoot rfl (same ▸ here)
    have alive_iff : id ∈ (nodes.keep (· ∉ removed)).labels ↔
        ∀ cut ∈ removed, id ∉ nodes.subtree cut := by
      rw [Forest.mem_labels_keep isTree.nodup]
      simp only [decide_eq_false_iff_not, not_not]
      exact ⟨fun cuts cut member => cuts.2 cut (removing.subset member) member,
        fun cuts => ⟨here, fun cut _ member => cuts cut member⟩⟩
    rw [List.map_cons, AXTree.computeNodes, notRoot]
    by_cases alive : id ∈ (nodes.keep (· ∉ removed)).labels
    · obtain ⟨next, computes, removingNext⟩ :=
        removing.node isTree enough alive (fresh id List.mem_cons_self) false
      obtain ⟨succeeds, fails⟩ := ih removingNext nodup
        (fun other member among => by
          obtain same | before := List.mem_cons.mp among
          · exact first (same ▸ member)
          · exact fresh other (List.mem_cons_of_mem _ member) before)
        fun other member => inside (List.mem_cons_of_mem _ member)
      rw [computes]
      refine ⟨fun inTurn => ?_, fun outOfTurn => ?_⟩
      · obtain ⟨final, cuts, rest, removed⟩ := succeeds inTurn.2
        refine ⟨final, cuts, rest, ?_⟩
        rw [List.reverse_cons, List.append_assoc]
        exact removed
      · exact fails fun inTurn => outOfTurn ⟨alive_iff.mp alive, inTurn⟩
    · have missing : state.shouldPendingNodeExistInTree id = false :=
        (Bool.not_eq_true _).mp fun exist => alive ((removing.same.exists_iff id).mp exist)
      rw [computePendingChangesToNode_missing (tree.losingData lost id) missing]
      exact ⟨fun inTurn => absurd (alive_iff.mpr inTurn.1) alive, fun _ => ⟨id, rfl⟩⟩

theorem inTurn_iff :
    tree.InTurn nodes lost removed ids ↔
      (∀ id ∈ ids, ∀ cut ∈ removed, id ∉ nodes.subtree cut) ∧
        ids.Pairwise fun first second =>
          ∀ cut ∈ (tree.childIds first).filter lost, second ∉ nodes.subtree cut := by
  induction ids generalizing removed with
  | nil => simp [InTurn]
  | cons id ids ih =>
    rw [InTurn, ih, List.pairwise_cons]
    simp only [List.forall_mem_cons, List.mem_append, or_imp, forall_and]
    constructor
    · rintro ⟨here, ⟨earlier, cutHere⟩, pairs⟩
      exact ⟨⟨here, earlier⟩, cutHere, pairs⟩
    · rintro ⟨⟨here, earlier⟩, cutHere, pairs⟩
      exact ⟨here, ⟨earlier, cutHere⟩, pairs⟩

/-- An update whose nodes only lose children. -/
theorem IsTree.unserialize (isTree : tree.IsTree root nodes) (lost : Int → Bool)
    (enough : nodes.height < fuel) (nodup : ids.Nodup) (inside : ids ⊆ nodes.labels) :
    (tree.InTurn nodes lost [] ids → ∃ next,
      tree.unserialize fuel { nodes := ids.map (tree.losingData lost) } = some next ∧
        next.error = tree.error ∧
          ∀ id, ∀ child ∈ next.childIds id, child ∈ tree.childIds id ∧
            (id ∈ ids → lost child = false)) ∧
      (¬ tree.InTurn nodes lost [] ids → ∃ next,
        tree.unserialize fuel { nodes := ids.map (tree.losingData lost) } = some next ∧
          next.error ≠ none) := by
  have oldRoot : (tree.nodes 0).isNone = true → (0 : Int) ∉ nodes.labels := by
    intro missing member
    rw [← isTree.mem_iff, ← Option.not_isNone, missing] at member
    cases member
  obtain ⟨succeeds, fails⟩ := (isTree.removing lost).computeNodes isTree enough
    (tree.nodes 0).isNone 0 nodup (fun _ _ => List.not_mem_nil) inside oldRoot
  unfold AXTree.unserialize computePendingChanges
  dsimp only
  constructor
  · intro inTurn
    obtain ⟨final, cuts, computes, removing⟩ := succeeds inTurn
    rw [List.append_nil] at removing
    have lastKnown : ∀ id, final.shouldPendingNodeExistInTree id = true →
        (final.data id).lastKnownChildIds =
          some (if id ∈ ids then (tree.losingData lost id).childIds else tree.childIds id) := by
      intro id exist
      rw [removing.known id ((removing.same.exists_iff id).mp exist)]
      simp only [List.mem_reverse]
    rw [computes]
    refine ⟨_, rfl, ?_, fun id child member => ?_⟩
    · have complete : ∀ id, final.doesPendingNodeRequireInit id = false := by
        intro id
        unfold AXTreeUpdateState.doesPendingNodeRequireInit
        cases exist : (final.data id).nodeExists with
        | false => rfl
        | true => simp [lastKnown id exist]
      simp [applyChanges, removing.same.pendingRoot, complete]
    · unfold AXTree.childIds applyChanges at member
      dsimp only at member
      split at member
      · next exist =>
          rw [lastKnown id exist] at member
          change child ∈ (if id ∈ ids then _ else _ : List Int) at member
          split at member
          · have among := List.mem_filter.mp member
            exact ⟨among.1, fun _ => (Bool.not_eq_true' _).mp among.2⟩
          · next outside => exact ⟨member, fun among => absurd among outside⟩
      · cases member
  · intro outOfTurn
    obtain ⟨id, computes⟩ := fails outOfTurn
    rw [computes]
    exact ⟨_, rfl, Option.some_ne_none _⟩

end AXTree

end FlutterEngine.Accessibility
