import FlutterEngine.Ohos.SemanticsRemoval

/-!
# A whole update

Between updates the links stay among existing nodes and the pointer lists
among stored ones. An update keeps this when the pointer graph it leaves below
the root is a tree: the traversal meets exactly that tree, and what is removed
are the existing nodes outside of it.
-/

namespace FlutterEngine.Ohos

open FlutterEngine.Std

namespace SemanticsTree

variable {tree before after merged visited : SemanticsTree} {id other : Int} {ref : NodeRef}
  {node : SemanticsNodeExtend} {nodes : List SemanticsNode} {forest : Forest NodeRef}

/-! ## Links between stored nodes -/

/-- The links and lists do not leave the stored nodes. -/
structure Linked (tree : SemanticsTree) : Prop where
  links : ∀ id, (tree.nodeOf id).Within (tree.existsAt · = true)
  children : ∀ id, ∀ child ∈ (tree.nodeOf id).childrenInTraversalOrderList, tree.IsLive child
  root : (tree.nodeOf 0).SameLinks {}

/-- What holds between updates. -/
structure Sound (tree : SemanticsTree) : Prop where
  stored : Stored tree
  linked : Linked tree
  root : tree.rootNode = tree.allSemanticsNodes.lookup 0
  rootExists : tree.rootNode ≠ none → (tree.nodeOf 0).isExist = true

/-- What holds after the first loop of an update, where the key of the root may
stand for a placeholder. -/
structure Ready (tree : SemanticsTree) : Prop where
  stored : Stored tree
  linked : Linked tree
  root : ∀ ref ∈ tree.rootNode, tree.allSemanticsNodes.lookup 0 = some ref
  rootExists : (tree.nodeOf 0).isExist = tree.rootNode.isSome

namespace Stored

theorem existsAt_of_lookup (stored : Stored tree)
    (found : tree.allSemanticsNodes.lookup id = some ref) :
    tree.existsAt ref = (tree.nodeOf id).isExist :=
  existsAt_of_heap (stored.heap_of_lookup found)

theorem exists_id (stored : Stored tree) (exist : tree.existsAt ref = true) :
    tree.allSemanticsNodes.lookup (tree.idAt ref) = some ref ∧
      (tree.nodeOf (tree.idAt ref)).isExist = true := by
  obtain ⟨node, found, here⟩ := exists_of_existsAt exist
  obtain ⟨id, holds, same⟩ := stored.heap_of_holds (stored.owned (isLive_iff.mpr ⟨node, found⟩))
  obtain rfl := Option.some.inj (found.symm.trans same)
  rw [idAt_of_heap found, stored.described here]
  exact ⟨holds, here⟩

/-- Existing nodes are told apart by their ids. -/
theorem ref_eq (stored : Stored tree) {otherRef : NodeRef} (exist : tree.existsAt ref = true)
    (otherExist : tree.existsAt otherRef = true) (same : tree.idAt ref = tree.idAt otherRef) :
    ref = otherRef := by
  have one := (stored.exists_id exist).1
  have two := (stored.exists_id otherExist).1
  rw [same] at one
  exact Option.some.inj (one.symm.trans two)

theorem isLive_of_exists (exist : tree.existsAt ref = true) : tree.IsLive ref := by
  obtain ⟨node, found, -⟩ := exists_of_existsAt exist
  exact isLive_iff.mpr ⟨node, found⟩

end Stored

theorem SameLinks_default_within {allowed : NodeRef → Prop} (same : node.SameLinks {}) :
    node.Within allowed := by
  refine same.within ⟨?_, ?_, ?_⟩ <;> exact fun _ member => nomatch member

theorem sound_empty : Sound {} where
  stored := {
    live := by simp
    injective := by simp
    owned := by simp [isLive_iff]
    bound := by simp [isLive_iff]
    described := by simp [nodeOf]
    placeholder := by
      intro id _
      exact SemanticsNodeExtend.isPlaceholder_default }
  linked := {
    links := fun _ => SameLinks_default_within (.refl _)
    children := by simp [nodeOf]
    root := .refl _ }
  root := rfl
  rootExists := by simp

/-! ## After merging -/

theorem sameLinks_mergedNode {description : SemanticsNode} {old : SemanticsNodeExtend} :
    (mergedNode after description old).SameLinks old := ⟨rfl, rfl, rfl⟩

theorem Ready.rootNode_eq (ready : Ready tree) (exist : (tree.nodeOf 0).isExist = true) :
    tree.rootNode = tree.allSemanticsNodes.lookup 0 := by
  rw [ready.rootExists] at exist
  obtain ⟨ref, pointer⟩ := Option.isSome_iff_exists.mp exist
  rw [pointer, ready.root ref pointer]

namespace Merged

variable (merge : Merged nodes before after)

include merge

theorem sameLinks (id : Int) :
    (after.nodeOf id).SameLinks (before.nodeOf id) := by
  rw [merge.nodeOf]
  cases describedBy nodes id with
  | none => exact .refl _
  | some description => exact sameLinks_mergedNode

theorem isExist (id : Int) :
    (after.nodeOf id).isExist =
      ((describedBy nodes id).isSome || (before.nodeOf id).isExist) := by
  rw [merge.nodeOf]
  cases describedBy nodes id with
  | none => rfl
  | some description => rfl

theorem existsAt (stored : Stored before)
    (exist : before.existsAt ref = true) : after.existsAt ref = true := by
  obtain ⟨found, here⟩ := stored.exists_id exist
  rw [merge.stored.existsAt_of_lookup (merge.keys found), merge.isExist, here, Bool.or_true]

theorem isLive (stored : Stored before) (live : before.IsLive ref) : after.IsLive ref := by
  obtain ⟨id, found⟩ := stored.owned live
  exact merge.stored.live (merge.keys found)

theorem ready (sound : Sound before) : Ready after where
  stored := merge.stored
  linked := {
    links := by
      intro id
      have within := (merge.sameLinks id).within (sound.linked.links id)
      exact {
        parent := fun ref member => merge.existsAt sound.stored (within.parent ref member)
        previous := fun ref member => merge.existsAt sound.stored (within.previous ref member)
        next := fun ref member => merge.existsAt sound.stored (within.next ref member) }
    children := by
      intro id child member
      rw [merge.nodeOf] at member
      have kept : ∀ child ∈ (before.nodeOf id).childrenInTraversalOrderList, after.IsLive child :=
        fun child among => merge.isLive sound.stored (sound.linked.children id child among)
      cases found : describedBy nodes id with
      | none =>
        rw [found] at member
        exact kept child member
      | some description =>
        rw [found] at member
        simp only [Option.map_some, Option.getD_some, mergedNode] at member
        split at member
        · rename_i visible
          obtain ⟨childId, among, rfl⟩ := List.mem_map.mp member
          have listed :=
            merge.children description (mem_of_describedBy found).1 visible childId among
          obtain ⟨ref, there⟩ := Option.ne_none_iff_exists'.mp listed
          rw [refOf_of_lookup there]
          exact merge.stored.live there
        · exact kept child member
    root := (merge.sameLinks 0).trans sound.linked.root }
  root := by
    intro ref member
    rw [merge.root] at member
    split at member
    · exact member
    · rw [sound.root] at member
      exact merge.keys member
  rootExists := by
    rw [merge.isExist, merge.root]
    cases found : describedBy nodes 0 with
    | some description =>
      obtain ⟨among, named⟩ := mem_of_describedBy found
      have present := merge.self description among
      rw [named] at present
      simpa [Option.isSome_iff_ne_none] using present
    | none =>
      rw [Option.isSome_none, Bool.false_or, if_neg (by simp)]
      cases exist : (before.nodeOf 0).isExist with
      | true =>
        rw [sound.root, lookup_of_exists exist]
        rfl
      | false =>
        cases pointer : before.rootNode with
        | none => rfl
        | some ref =>
          have here := sound.rootExists (by rw [pointer]; exact Option.some_ne_none _)
          rw [exist] at here
          cases here

end Merged

/-- The root has no links. -/
theorem Ready.sameLinks_root (ready : Ready tree) (pointer : tree.rootNode = some ref)
    (found : tree.heap ref = some node) : node.SameLinks {} := by
  have here := ready.stored.heap_of_lookup (ready.root ref pointer)
  obtain rfl := Option.some.inj (here.symm.trans found)
  exact ready.linked.root

/-! ## The traversal from the root -/

/-- The existing nodes that the pointer lists reach from the root form a tree,
or there is no root. -/
structure PointerTree (tree : SemanticsTree) (forest : Forest NodeRef) : Prop where
  roots : forest.roots = tree.rootNode.toList
  follows : forest.Follows tree.existingChildrenAt
  nodup : forest.labels.Nodup

namespace PointerTree

variable (shape : PointerTree merged forest) (ready : Ready merged)
include shape ready

theorem exist : ∀ ref ∈ forest.labels, merged.existsAt ref = true := by
  refine shape.follows.forall_labels ?_ ?_
  · intro ref member
    rw [shape.roots, Option.mem_toList] at member
    rw [ready.stored.existsAt_of_lookup (ready.root ref member), ready.rootExists, member]
    rfl
  · intro ref _ child member
    exact (List.mem_filter.mp member).2

theorem nodup_ids : (forest.labels.map merged.idAt).Nodup := by
  refine shape.nodup.map_on ?_
  intro ref member otherRef otherMember same
  exact ready.stored.ref_eq (shape.exist ready ref member) (shape.exist ready otherRef otherMember) same

theorem childrenLive : ∀ ref ∈ forest.labels, ∀ child ∈ merged.childrenAt ref, merged.IsLive child := by
  intro ref member child among
  obtain ⟨found, -⟩ := ready.stored.exists_id (shape.exist ready ref member)
  rw [childrenAt_of_heap (ready.stored.heap_of_lookup found)] at among
  exact ready.linked.children _ child among

theorem walkable : Walkable (· ∈ forest.labels) merged forest where
  follows := shape.follows
  nodup := shape.nodup
  exist := shape.exist ready
  live := shape.childrenLive ready
  within := fun _ member => member
  parents := by
    intro ref member node found parent linked
    obtain ⟨there, -⟩ := ready.stored.exists_id (shape.exist ready ref member)
    obtain rfl := Option.some.inj ((ready.stored.heap_of_lookup there).symm.trans found)
    have exist := (ready.linked.links _).parent parent linked
    refine ⟨Stored.isLive_of_exists exist, ?_⟩
    intro other otherMember same
    rwa [ready.stored.ref_eq exist (shape.exist ready other otherMember) same]

theorem length_le : forest.labels.length ≤ merged.allocated := by
  have within : forest.labels ⊆ List.range merged.allocated := by
    intro ref member
    exact List.mem_range.mpr
      (ready.stored.bound (Stored.isLive_of_exists (shape.exist ready ref member)))
  simpa using (List.subperm_of_subset shape.nodup within).length_le

omit ready in
/-- There is at most one root. -/
theorem forest_cases : forest = .empty ∧ merged.rootNode = none ∨
    ∃ label children, forest = .cons label children .empty ∧ merged.rootNode = some label := by
  have roots := shape.roots
  cases pointer : merged.rootNode with
  | none =>
    rw [pointer] at roots
    cases forest with
    | empty => exact .inl ⟨rfl, rfl⟩
    | cons => simp at roots
  | some root =>
    rw [pointer] at roots
    cases forest with
    | empty => simp at roots
    | cons label children siblings =>
      obtain ⟨rfl, last⟩ := List.cons.inj roots
      cases siblings with
      | empty => exact .inr ⟨label, children, rfl, rfl⟩
      | cons => simp at last

end PointerTree

namespace PointerTree

variable {label : NodeRef} {children : Forest NodeRef}
  (shape : PointerTree merged (.cons label children .empty)) (ready : Ready merged)
include shape ready

/-- The traversal can enter the root. -/
theorem enterable : Enterable (· ∈ (Forest.cons label children .empty).labels) label [] merged
    children where
  walkable := (shape.walkable ready).below
  exist := shape.exist ready label (by simp)
  roots := shape.follows.1
  live := shape.childrenLive ready label (by simp)
  refAllowed := by simp
  fresh := by simpa using shape.nodup_ids ready

theorem height_le : children.height ≤ merged.allocated := by
  have bound := shape.length_le ready
  have low := children.height_le
  simp only [Forest.labels_cons, Forest.labels_empty, List.append_nil, List.length_cons] at bound
  omega

end PointerTree

namespace PointerTree

variable (shape : PointerTree merged forest) (ready : Ready merged)
include shape ready

/-- The traversal meets every node of the tree once, in its order, and links
them among each other. -/
theorem visitFromRoot_spec (asserts : Bool) :
    ∃ visited, merged.visitFromRoot asserts = .ok (forest.labels.map merged.idAt, visited) ∧
      Traversed (· ∈ forest.labels) forest.labels merged visited ∧
      (visited.nodeOf 0).SameLinks {} := by
  rcases shape.forest_cases with ⟨rfl, pointer⟩ | ⟨label, children, rfl, pointer⟩
  · exact ⟨merged, by simp [visitFromRoot, pointer], .refl _ merged, ready.linked.root⟩
  · have enterable := shape.enterable ready
    obtain ⟨visited, ran, traversed⟩ := updateSelfRecursively_spec (loops asserts _ children)
      enterable.walkable enterable.exist enterable.roots enterable.live enterable.refAllowed
      enterable.fresh (shape.height_le ready)
    have found := ready.root label pointer
    have node := ready.stored.heap_of_lookup found
    obtain ⟨changed, there, -⟩ := exists_of_coreAt (congrFun traversed.core label).symm node
    have unlinked : changed.SameLinks {} :=
      (traversed.keeps label (shape.walkable ready).root_notMem.1 _ node changed there).trans
        (ready.sameLinks_root pointer node)
    refine ⟨visited, ?_, ⟨traversed.toRelinked.subset ?_, ?_⟩, ?_⟩
    · simpa [visitFromRoot, pointer] using ran
    · intro other member
      simp [member]
    · intro other member final finalHere
      simp only [Forest.labels_cons, Forest.labels_empty, List.append_nil,
        List.mem_cons] at member
      rcases member with rfl | member
      · obtain rfl := Option.some.inj (there.symm.trans finalHere)
        exact SameLinks_default_within unlinked
      · exact traversed.links other member final finalHere
    · have same : visited.allSemanticsNodes = merged.allSemanticsNodes := by
        rw [traversed.rest]
      have root : visited.nodeOf 0 = changed := by
        simp [nodeOf, same, found, there]
      rwa [root]

end PointerTree

/-! ## The removal of what was not met -/

theorem nodeOf_core (core : after.coreAt = before.coreAt)
    (nodes : after.allSemanticsNodes = before.allSemanticsNodes) (id : Int) :
    (after.nodeOf id).core = (before.nodeOf id).core := by
  have byCore : ∀ tree : SemanticsTree, (tree.nodeOf id).core =
      ((tree.allSemanticsNodes.lookup id).bind tree.coreAt).getD
        ({} : SemanticsNodeExtend).core := by
    intro tree
    unfold nodeOf coreAt
    cases tree.allSemanticsNodes.lookup id with
    | none => rfl
    | some ref => cases here : tree.heap ref <;> simp [here]
  rw [byCore, byCore, core, nodes]

theorem Relinked.stored {labels : List NodeRef} (step : Relinked labels before after)
    (stored : Stored before) (exist : ∀ ref ∈ labels, before.existsAt ref = true) : Stored after := by
  have nodes : after.allSemanticsNodes = before.allSemanticsNodes := by rw [step.rest]
  have core := nodeOf_core step.core nodes
  exact {
    live := by
      intro id ref found
      rw [step.isLive]
      exact stored.live (nodes ▸ found)
    injective := by
      rw [nodes]
      exact stored.injective
    owned := by
      intro ref live
      rw [step.isLive] at live
      rw [Holds, nodes]
      exact stored.owned live
    bound := by
      intro ref live
      rw [step.isLive] at live
      rw [step.rest]
      exact stored.bound live
    described := by
      intro id here
      rw [SemanticsNodeExtend.core_isExist (core id)] at here
      rw [SemanticsNodeExtend.core_node (core id)]
      exact stored.described here
    placeholder := by
      intro id missing
      rw [SemanticsNodeExtend.core_isExist (core id)] at missing
      have fresh := stored.placeholder missing
      refine ⟨?_, ?_, ?_⟩
      · rw [SemanticsNodeExtend.core_node (core id)]
        exact fresh.id
      · rw [SemanticsNodeExtend.core_children (core id)]
        exact fresh.children
      · cases found : after.allSemanticsNodes.lookup id with
        | none =>
          rw [nodeOf_of_lookup_none found]
          exact .refl _
        | some ref =>
          have earlier : before.allSemanticsNodes.lookup id = some ref := nodes ▸ found
          have here := stored.heap_of_lookup earlier
          obtain ⟨changed, there⟩ : ∃ changed, after.heap ref = some changed := by
            rw [← isLive_iff, step.isLive]
            exact stored.live earlier
          have unmet : ref ∉ labels := by
            intro member
            have met := exist ref member
            rw [existsAt_of_heap here, missing] at met
            cases met
          have same : after.nodeOf id = changed := by simp [nodeOf, found, there]
          rw [same]
          exact (step.keeps ref unmet _ here changed there).trans fresh.unlinked }

/-- The tree when the nodes to remove are known: what was merged, relinked. -/
structure Surveyed (forest : Forest NodeRef) (merged surveyed : SemanticsTree) : Prop where
  stored : Stored surveyed
  nodes : surveyed.allSemanticsNodes = merged.allSemanticsNodes
  rootNode : surveyed.rootNode = merged.rootNode
  core : surveyed.coreAt = merged.coreAt
  links : ∀ ref ∈ forest.labels, ∀ node ∈ surveyed.heap ref, node.Within (· ∈ forest.labels)
  root : (surveyed.nodeOf 0).SameLinks {}

theorem Surveyed.of_refocused (traversed : Traversed (· ∈ forest.labels) forest.labels merged visited)
    (root : (visited.nodeOf 0).SameLinks {}) (stored : Stored visited)
    (refocus : Refocused visited after) : Surveyed forest merged after := by
  have heap : after.heap = visited.heap := by rw [refocus.rest]
  have allocated : after.allocated = visited.allocated := by rw [refocus.rest]
  have nodes : after.allSemanticsNodes = visited.allSemanticsNodes := by rw [refocus.rest]
  exact {
    stored := stored.of_eq heap allocated nodes
    nodes := by rw [nodes, traversed.rest]
    rootNode := by rw [refocus.rest, traversed.rest]
    core := by
      rw [← traversed.core]
      unfold coreAt
      rw [heap]
    links := by
      rw [heap]
      exact traversed.links
    root := by
      have same : after.nodeOf = visited.nodeOf := by
        unfold nodeOf
        rw [heap, nodes]
      rwa [same] }

section Removal

variable {surveyed : SemanticsTree} (shape : PointerTree merged forest) (ready : Ready merged)
  (survey : Surveyed forest merged surveyed)
  (removed : Removed (surveyed.needRemoveIds (forest.labels.map merged.idAt)) surveyed after)

/-- The ids the traversal met. -/
def visitedIds (merged : SemanticsTree) (forest : Forest NodeRef) : List Int :=
  forest.labels.map merged.idAt

/-- The nodes an update keeps: those met and the placeholders. -/
def IsKept (merged : SemanticsTree) (forest : Forest NodeRef) (id : Int) : Prop :=
  id ∈ visitedIds merged forest ∨ (merged.nodeOf id).isExist = false ∧ id ≠ 0

theorem mem_needRemoveIds {visitorId : List Int} : id ∈ tree.needRemoveIds visitorId ↔
    tree.allSemanticsNodes.lookup id ≠ none ∧ id ∉ visitorId := by
  simp [needRemoveIds, ← AList.mem_keys, AList.lookup_eq_none]

include survey in
theorem isExist_surveyed (id : Int) : (surveyed.nodeOf id).isExist = (merged.nodeOf id).isExist :=
  SemanticsNodeExtend.core_isExist (nodeOf_core survey.core survey.nodes id)

include survey removed in
theorem kept_of_isKept (kept : IsKept merged forest id) :
    after.allSemanticsNodes.lookup id = merged.allSemanticsNodes.lookup id ∧
      after.nodeOf id = surveyed.nodeOf id := by
  rw [← survey.nodes]
  apply removed.kept
  rintro ⟨member, named⟩
  obtain ⟨-, unmet⟩ := mem_needRemoveIds.mp member
  rcases kept with met | ⟨missing, nonzero⟩
  · exact unmet met
  · rw [← isExist_surveyed survey] at missing
    rw [(survey.stored.placeholder missing).id] at named
    exact nonzero named.symm

include survey removed in
theorem gone_of_exists (exist : (merged.nodeOf id).isExist = true)
    (unmet : id ∉ visitedIds merged forest) : after.allSemanticsNodes.lookup id = none := by
  have here := exist
  rw [← isExist_surveyed survey] at here
  apply removed.gone
  refine ⟨mem_needRemoveIds.mpr ⟨?_, unmet⟩, survey.stored.described here⟩
  rw [lookup_of_exists here]
  exact Option.some_ne_none _

include shape ready survey removed in
/-- The nodes of the tree stay. -/
theorem existsAt_of_label (member : ref ∈ forest.labels) : after.existsAt ref = true := by
  obtain ⟨found, exist⟩ := ready.stored.exists_id (shape.exist ready ref member)
  obtain ⟨lookup, node⟩ :=
    kept_of_isKept survey removed (.inl (List.mem_map_of_mem member) : IsKept merged forest _)
  rw [removed.stored.existsAt_of_lookup (lookup.trans found), node, isExist_surveyed survey, exist]

include shape ready survey removed in
/-- A described node that remains is one of the tree. -/
theorem mem_labels_of_exists (found : after.allSemanticsNodes.lookup id = some ref)
    (exist : (after.nodeOf id).isExist = true) : ref ∈ forest.labels ∧
      after.nodeOf id = surveyed.nodeOf id ∧ surveyed.heap ref = some (surveyed.nodeOf id) := by
  by_cases gone : IsRemoved surveyed (surveyed.needRemoveIds (forest.labels.map merged.idAt)) id
  · rw [removed.gone id gone] at found
    cases found
  · obtain ⟨lookup, node⟩ := removed.kept id gone
    have here : surveyed.allSemanticsNodes.lookup id = some ref := lookup.symm.trans found
    have met : id ∈ visitedIds merged forest := by
      by_contra unmet
      rw [node, isExist_surveyed survey] at exist
      rw [gone_of_exists survey removed exist unmet] at found
      cases found
    obtain ⟨label, member, rfl⟩ := List.mem_map.mp met
    obtain ⟨there, -⟩ := ready.stored.exists_id (shape.exist ready label member)
    rw [survey.nodes, there] at here
    obtain rfl := Option.some.inj here
    exact ⟨member, node, survey.stored.heap_of_lookup (survey.nodes ▸ there)⟩

include shape ready survey removed in
/-- A node that remains is a placeholder or one of the tree. -/
theorem remains_cases (found : after.allSemanticsNodes.lookup id = some ref) :
    (after.nodeOf id).IsPlaceholder ∨
      ref ∈ forest.labels ∧ after.nodeOf id = surveyed.nodeOf id ∧
        surveyed.heap ref = some (surveyed.nodeOf id) := by
  cases exist : (after.nodeOf id).isExist with
  | false => exact .inl (removed.stored.placeholder exist)
  | true => exact .inr (mem_labels_of_exists shape ready survey removed found exist)

include shape ready survey removed in
theorem linked_after : Linked after where
  links := by
    intro id
    cases found : after.allSemanticsNodes.lookup id with
    | none =>
      rw [nodeOf_of_lookup_none found]
      exact SameLinks_default_within (.refl _)
    | some ref =>
      rcases remains_cases shape ready survey removed found with fresh | ⟨member, node, here⟩
      · exact SameLinks_default_within fresh.unlinked
      · have within := survey.links ref member _ here
        have stays : ∀ other ∈ forest.labels, after.existsAt other = true :=
          fun other among => existsAt_of_label shape ready survey removed among
        rw [node]
        exact {
          parent := fun other among => stays other (within.parent other among)
          previous := fun other among => stays other (within.previous other among)
          next := fun other among => stays other (within.next other among) }
  children := by
    intro id child among
    cases found : after.allSemanticsNodes.lookup id with
    | none => simp [nodeOf_of_lookup_none found] at among
    | some ref =>
      rcases remains_cases shape ready survey removed found with fresh | ⟨member, node, here⟩
      · simp [fresh.children] at among
      · have listed : child ∈ merged.childrenAt ref := by
          rw [node, ← childrenAt_of_heap here] at among
          unfold childrenAt at among ⊢
          rwa [survey.core] at among
        cases exist : merged.existsAt child with
        | true =>
          have next : child ∈ merged.existingChildrenAt ref := List.mem_filter.mpr ⟨listed, exist⟩
          exact Stored.isLive_of_exists (existsAt_of_label shape ready survey removed
            (shape.follows.successors member next))
        | false =>
          obtain ⟨key, there⟩ := ready.stored.owned (shape.childrenLive ready ref member child listed)
          have missing : (merged.nodeOf key).isExist = false := by
            rwa [← ready.stored.existsAt_of_lookup there]
          have nonzero : key ≠ 0 := by
            rintro rfl
            rw [ready.rootExists, Option.isSome_eq_false_iff, Option.isNone_iff_eq_none] at missing
            have roots := shape.roots
            rw [missing] at roots
            cases forest with
            | empty => simp at member
            | cons => simp at roots
          exact removed.stored.live
            ((kept_of_isKept survey removed (.inr ⟨missing, nonzero⟩)).1.trans there)
  root := by
    cases found : after.allSemanticsNodes.lookup 0 with
    | none =>
      rw [nodeOf_of_lookup_none found]
      exact .refl _
    | some ref =>
      rcases remains_cases shape ready survey removed found with fresh | ⟨-, node, -⟩
      · exact fresh.unlinked
      · rw [node]
        exact survey.root

include shape ready in
theorem zero_mem_visitedIds (pointer : merged.rootNode = some ref) :
    0 ∈ visitedIds merged forest := by
  have member : ref ∈ forest.labels := by
    apply forest.roots_subset
    rw [shape.roots, pointer]
    simp
  have exist : (merged.nodeOf 0).isExist = true := by
    rw [ready.rootExists, pointer]
    rfl
  have named : merged.idAt ref = 0 := by
    rw [idAt_of_heap (ready.stored.heap_of_lookup (ready.root ref pointer))]
    exact ready.stored.described exist
  exact List.mem_map.mpr ⟨ref, member, named⟩

include shape ready survey removed in
theorem sound_after : Sound after where
  stored := removed.stored
  linked := linked_after shape ready survey removed
  root := by
    rw [removed.rest, survey.rootNode]
    cases pointer : merged.rootNode with
    | some ref =>
      have kept : IsKept merged forest 0 := .inl (zero_mem_visitedIds shape ready pointer)
      rw [(kept_of_isKept survey removed kept).1, ready.root ref pointer]
    | none =>
      have missing : (surveyed.nodeOf 0).isExist = false := by
        rw [isExist_surveyed survey, ready.rootExists, pointer]
        rfl
      symm
      by_cases gone : IsRemoved surveyed (surveyed.needRemoveIds (forest.labels.map merged.idAt)) 0
      · exact removed.gone 0 gone
      · rw [(removed.kept 0 gone).1]
        by_contra present
        refine gone ⟨mem_needRemoveIds.mpr ⟨present, ?_⟩, (survey.stored.placeholder missing).id⟩
        have roots := shape.roots
        rw [pointer] at roots
        cases forest with
        | empty => simp
        | cons => simp at roots
  rootExists := by
    intro present
    rw [removed.rest, survey.rootNode] at present
    obtain ⟨ref, pointer⟩ := Option.ne_none_iff_exists'.mp present
    have kept : IsKept merged forest 0 := .inl (zero_mem_visitedIds shape ready pointer)
    rw [(kept_of_isKept survey removed kept).2, isExist_surveyed survey, ready.rootExists, pointer]
    rfl

end Removal

/-! ## The update as a whole -/

theorem Linked.of_eq (linked : Linked before) (heap : after.heap = before.heap)
    (nodes : after.allSemanticsNodes = before.allSemanticsNodes) : Linked after := by
  cases before
  cases after
  cases heap
  cases nodes
  exact ⟨linked.links, linked.children, linked.root⟩

theorem Sound.of_eq (sound : Sound before) (heap : after.heap = before.heap)
    (allocated : after.allocated = before.allocated)
    (nodes : after.allSemanticsNodes = before.allSemanticsNodes)
    (root : after.rootNode = before.rootNode) : Sound after where
  stored := sound.stored.of_eq heap allocated nodes
  linked := sound.linked.of_eq heap nodes
  root := by
    rw [root, nodes, sound.root]
  rootExists := by
    intro present
    have same : after.nodeOf = before.nodeOf := by
      unfold nodeOf
      rw [heap, nodes]
    rw [same]
    exact sound.rootExists (root ▸ present)

/-- What an update does from the state its first loop leaves. -/
structure Updated (forest : Forest NodeRef) (hasFocusNode : Bool) (merged after : SemanticsTree) :
    Prop where
  sound : Sound after
  labels : ∀ ref ∈ forest.labels, after.existsAt ref = true
  kept : ∀ id, IsKept merged forest id →
    after.allSemanticsNodes.lookup id = merged.allSemanticsNodes.lookup id ∧
      (after.nodeOf id).core = (merged.nodeOf id).core
  gone : ∀ id, (merged.nodeOf id).isExist = true → id ∉ visitedIds merged forest →
    after.allSemanticsNodes.lookup id = none
  focused : ∀ ref ∈ after.focusedNode,
    ref ∈ merged.focusedNode ∧ (merged.IsLive ref → after.IsLive ref)
  requested : (∀ ref ∈ merged.needRequestFocusedNode, merged.IsLive ref) →
    ∀ ref ∈ after.needRequestFocusedNode, after.IsLive ref
  input : after.inputFocusedNode = if hasFocusNode then merged.inputFocusedNode else none
  lastInput : after.lastInputFocusedNode = merged.lastInputFocusedNode

theorem mergeUpdate_spec (sound : Sound tree) (updates : SemanticsNodeUpdates) :
    ∃ merged, tree.mergeUpdate updates = .ok ((lastInputFocus updates.nodes).isSome, merged) ∧
      Merged updates.nodes { tree with lastInputFocusedNode := tree.inputFocusedNode } merged ∧
      Ready merged := by
  have soundStart : Sound { tree with lastInputFocusedNode := tree.inputFocusedNode } :=
    sound.of_eq rfl rfl rfl rfl
  obtain ⟨merged, ran, merge⟩ := mergeNodes_spec false soundStart.stored updates.nodup
  exact ⟨merged, by simpa [mergeUpdate] using ran, merge, merge.ready soundStart⟩

/-- The key -1 is looked up as the root, so it may not be among those removed. -/
def NoRedirect (merged : SemanticsTree) (forest : Forest NodeRef) : Prop :=
  merged.allSemanticsNodes.lookup (-1) ≠ none → -1 ∈ visitedIds merged forest

instance : Decidable (NoRedirect merged forest) := by
  unfold NoRedirect
  infer_instance

theorem dropInputFocus_eq (hasFocusNode : Bool) : tree.dropInputFocus hasFocusNode =
    { tree with inputFocusedNode := if hasFocusNode then tree.inputFocusedNode else none } := by
  cases hasFocusNode <;> rfl

variable {asserts hasFocusNode : Bool} {updates : SemanticsNodeUpdates}

/-- The stages of an update after its first loop: the traversal, the choice of
the next focus and the removal of what was not met. -/
theorem updateWithNodes_stages
    (merge : tree.mergeUpdate updates = .ok (hasFocusNode, merged)) (ready : Ready merged)
    (shape : PointerTree merged forest) (redirect : NoRedirect merged forest)
    (done : tree.updateWithNodes asserts updates = .ok after) :
    ∃ visited surveyed last,
      merged.visitFromRoot asserts = .ok (forest.labels.map merged.idAt, visited) ∧
      Traversed (· ∈ forest.labels) forest.labels merged visited ∧ Refocused visited surveyed ∧
      Surveyed forest merged surveyed ∧
      Removed (surveyed.needRemoveIds (forest.labels.map merged.idAt)) surveyed last ∧
      after = last.dropInputFocus hasFocusNode := by
  obtain ⟨visited, ran, traversed, root⟩ := shape.visitFromRoot_spec ready asserts
  have storedVisited := traversed.toRelinked.stored ready.stored (shape.exist ready)
  rw [updateWithNodes, merge] at done
  simp only [Fault.ok_bind, ran] at done
  obtain ⟨-, -, done⟩ := Fault.bind_eq_ok done
  obtain ⟨surveyed, refocused, done⟩ := Fault.bind_eq_ok done
  have refocus := updateNextFocusWhenDisappear_refocused refocused
  have survey := Surveyed.of_refocused traversed root storedVisited refocus
  have keys : surveyed.needRemoveIds (forest.labels.map merged.idAt) =
      visited.needRemoveIds (forest.labels.map merged.idAt) := by
    rw [refocus.rest]
    rfl
  have safe : -1 ∉ surveyed.needRemoveIds (forest.labels.map merged.idAt) := by
    intro member
    obtain ⟨present, unmet⟩ := mem_needRemoveIds.mp member
    rw [survey.nodes] at present
    exact unmet (redirect present)
  obtain ⟨last, ranLast, removed⟩ := removeNodes_spec survey.stored safe
  rw [← keys, ranLast, Fault.ok_bind, Fault.pure_eq] at done
  exact ⟨visited, surveyed, last, ran, traversed, refocus, survey, removed,
    (Except.ok.inj done).symm⟩

theorem updateWithNodes_spec
    (merge : tree.mergeUpdate updates = .ok (hasFocusNode, merged)) (ready : Ready merged)
    (shape : PointerTree merged forest) (redirect : NoRedirect merged forest)
    (done : tree.updateWithNodes asserts updates = .ok after) :
    Updated forest hasFocusNode merged after := by
  obtain ⟨visited, surveyed, last, -, traversed, refocus, survey, removed, rfl⟩ :=
    updateWithNodes_stages merge ready shape redirect done
  have sound := sound_after shape ready survey removed
  have live : surveyed.IsLive = merged.IsLive := by
    unfold IsLive
    rw [survey.core]
  have labels : ∀ ref ∈ forest.labels, last.existsAt ref = true :=
    fun ref member => existsAt_of_label shape ready survey removed member
  have gone : ∀ id, (merged.nodeOf id).isExist = true → id ∉ visitedIds merged forest →
      last.allSemanticsNodes.lookup id = none :=
    fun id exist unmet => gone_of_exists survey removed exist unmet
  rw [dropInputFocus_eq]
  exact {
    sound := sound.of_eq rfl rfl rfl rfl
    labels := labels
    kept := by
      intro id kept
      obtain ⟨lookup, node⟩ := kept_of_isKept survey removed kept
      exact ⟨lookup, (congrArg SemanticsNodeExtend.core node).trans
        (nodeOf_core survey.core survey.nodes id)⟩
    gone := gone
    focused := by
      intro ref member
      obtain ⟨earlier, stays⟩ := removed.focused ref member
      rw [refocus.rest, traversed.rest] at earlier
      exact ⟨earlier, fun alive => stays (live ▸ alive)⟩
    requested := by
      intro all ref member
      obtain ⟨earlier, stays⟩ := removed.requested ref member
      apply stays
      rcases refocus.requested ref earlier with kept | found
      · rw [traversed.rest] at kept
        rw [live]
        exact all ref kept
      · rw [live, ← traversed.toRelinked.isLive]
        exact found
    input := by
      rw [removed.rest, refocus.rest, traversed.rest]
    lastInput := by
      rw [removed.rest, refocus.rest, traversed.rest] }

end SemanticsTree

end FlutterEngine.Ohos
