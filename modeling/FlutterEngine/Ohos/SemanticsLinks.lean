import FlutterEngine.Ohos.SemanticsPointers
import FlutterEngine.Std.ChainedForest

/-!
# The links after an update

The traversal gives every node it meets its parent and the siblings beside it,
whatever links the node had before. After an update the links, like the pointer
lists, are those of the tree below the root, and nothing else is described.
-/

namespace FlutterEngine.Ohos

open FlutterEngine.Std

def SemanticsNodeExtend.links (node : SemanticsNodeExtend) : Links NodeRef where
  parent := node.parentNode
  previous := node.previousNode
  next := node.nextNode

theorem SemanticsNodeExtend.SameLinks.links_eq {node other : SemanticsNodeExtend}
    (same : node.SameLinks other) : node.links = other.links := by
  rw [links, links, same.parent, same.previous, same.next]

namespace SemanticsTree

variable {tree before after merged visited : SemanticsTree} {allowed : NodeRef → Prop}
  {ref other this : NodeRef} {node : SemanticsNodeExtend} {labels : List NodeRef}
  {forest children siblings : Forest NodeRef} {asserts : Bool} {visitorId : List Int}
  {loop : ChildLoop}

def linksAt (tree : SemanticsTree) (ref : NodeRef) : Links NodeRef :=
  (tree.heap ref).elim ({} : SemanticsNodeExtend).links SemanticsNodeExtend.links

@[simp] theorem linksAt_of_heap (found : tree.heap ref = some node) :
    tree.linksAt ref = node.links := by
  simp [linksAt, found]

@[simp] theorem linksAt_write_self : (tree.write ref node).linksAt ref = node.links :=
  linksAt_of_heap write_heap_self

theorem linksAt_write_of_ne (different : other ≠ ref) :
    (tree.write ref node).linksAt other = tree.linksAt other := by
  rw [linksAt, linksAt, write_heap_of_ne different]

theorem heap_of_deref (read : tree.deref ref = .ok node) : tree.heap ref = some node := by
  obtain ⟨same, found, again⟩ := deref_of_live (isLive_of_deref read)
  obtain rfl := Except.ok.inj (read.symm.trans again)
  exact found

/-- The links of the other nodes stay. -/
theorem Relinked.linksAt (step : Relinked labels before after) (outside : ref ∉ labels) :
    after.linksAt ref = before.linksAt ref := by
  cases found : after.heap ref with
  | some changed =>
    obtain ⟨node, here, -⟩ := exists_of_coreAt (congrFun step.core ref) found
    rw [linksAt_of_heap found, linksAt_of_heap here]
    exact (step.keeps ref outside node here changed found).links_eq
  | none =>
    have gone : before.heap ref = none := by
      have core := congrFun step.core ref
      rw [coreAt, coreAt, found] at core
      exact Option.map_eq_none_iff.mp core.symm
    rw [SemanticsTree.linksAt, SemanticsTree.linksAt, found, gone]

/-! ## One child -/

/-- The parent pointer is right afterwards, be it replaced or kept: a node with
the id of the parent is the parent. -/
theorem linkParent_links (live : tree.IsLive ref)
    (unique : ∀ parent ∈ (tree.linksAt ref).parent,
      tree.idAt parent = tree.idAt this → parent = this)
    (done : tree.linkParent this ref = .ok after) :
    (after.linksAt ref).parent = some this ∧
      ∀ other ≠ ref, after.linksAt other = tree.linksAt other := by
  obtain ⟨node, found, read⟩ := deref_of_live live
  rw [linkParent, read, Fault.ok_bind] at done
  obtain ⟨self, here, done⟩ := Fault.bind_eq_ok done
  obtain ⟨has, checked, done⟩ := Fault.bind_eq_ok done
  cases has with
  | false =>
    obtain rfl := Except.ok.inj done
    exact ⟨by rw [linksAt_write_self]; rfl, fun other different => linksAt_write_of_ne different⟩
  | true =>
    obtain rfl := Except.ok.inj done
    refine ⟨?_, fun _ _ => rfl⟩
    rw [linksAt_of_heap found] at unique ⊢
    cases linked : node.parentNode with
    | none => simp [hasParent, linked] at checked
    | some parent =>
      rw [hasParent, linked] at checked
      obtain ⟨parentNode, there, same⟩ := Fault.bind_eq_ok checked
      have equal : parentNode.id = self.id := by simpa using same
      rw [← idAt_of_heap (heap_of_deref there), ← idAt_of_heap (heap_of_deref here)] at equal
      rw [SemanticsNodeExtend.links, linked, unique parent linked equal]

/-- The siblings are linked to each other, the child to none that follows. -/
theorem linkSiblings_links {prevNode : Option NodeRef} (apart : ref ∉ prevNode)
    (done : tree.linkSiblings prevNode ref = .ok after) :
    after.linksAt ref = { tree.linksAt ref with
        previous := prevNode
        next := none } ∧
      ∀ prev ∈ prevNode, after.linksAt prev = { tree.linksAt prev with next := some ref } := by
  obtain ⟨next, linkedNext, done⟩ := Fault.bind_eq_ok done
  obtain ⟨child, read, done⟩ := Fault.bind_eq_ok done
  have here := heap_of_deref read
  obtain rfl := Except.ok.inj done
  cases prevNode with
  | none =>
    obtain rfl := Except.ok.inj linkedNext
    refine ⟨?_, by simp⟩
    rw [linksAt_write_self, linksAt_of_heap here]
    rfl
  | some prev =>
    have different : prev ≠ ref := fun equal => apart (by simp [equal])
    obtain ⟨node, there, written⟩ := Fault.bind_eq_ok linkedNext
    obtain rfl := Except.ok.inj written
    refine ⟨?_, ?_⟩
    · rw [write_heap_of_ne different.symm] at here
      rw [linksAt_write_self, linksAt_of_heap here]
      rfl
    · rintro _ ⟨⟩
      rw [linksAt_write_of_ne different, linksAt_write_self,
        linksAt_of_heap (heap_of_deref there)]
      rfl

/-! ## The whole traversal -/

/-- Allowed nodes are told apart by their ids. -/
def Identified (allowed : NodeRef → Prop) (tree : SemanticsTree) : Prop :=
  ∀ one two, allowed one → allowed two → tree.idAt one = tree.idAt two → one = two

theorem Identified.relinked (identified : Identified allowed before)
    (step : Relinked labels before after) : Identified allowed after := by
  unfold Identified
  rw [step.idAt]
  exact identified

/-- The child loop links the forest it meets, and to its first node the one
that it comes after. -/
def Chains (asserts : Bool) (allowed : NodeRef → Prop) (forest : Forest NodeRef) : Prop :=
  ∀ {fuel : Nat} {this : NodeRef} {loop final : ChildLoop} {refs : List NodeRef},
    Entered allowed this loop forest → Identified allowed loop.tree → forest.height ≤ fuel →
    refs.filter loop.tree.existsAt = forest.roots →
    (∀ ref ∈ refs, loop.tree.IsLive ref) →
    refs.foldlM (visitChild (updateSelfRecursively asserts fuel) this) loop = .ok final →
    forest.Chained final.tree.linksAt (some this) loop.prevNode ∧
      ∀ prev ∈ loop.prevNode, (loop.tree.linksAt prev).next = none →
        final.tree.linksAt prev = { loop.tree.linksAt prev with next := forest.roots.head? }

/-- The recursive call links what is below its node. -/
theorem Enterable.chained (enterable : Enterable allowed ref visitorId tree children)
    (chains : Chains asserts allowed children) (identified : Identified allowed tree)
    {fuel : Nat} (deep : children.height ≤ fuel) {ids : List Int}
    (done : updateSelfRecursively asserts (fuel + 1) ref visitorId tree = .ok (ids, after)) :
    children.Chained after.linksAt (some ref) none := by
  obtain ⟨node, found, -⟩ := exists_of_existsAt enterable.exist
  rw [enterable.updateSelfRecursively_eq found] at done
  obtain ⟨final, ran, done⟩ := Fault.bind_eq_ok done
  obtain ⟨-, rfl⟩ := Prod.mk.inj (Except.ok.inj done)
  exact (chains (enterable.entered found) (identified.relinked (enteredLoop_relinked found)) deep
    (enterable.listed found) (enterable.listedLive found) ran).1

/-- What one round of the child loop leaves: the child linked to its parent and
to the child before it, and what is below the child. -/
theorem visitChild_links (loops : Loops asserts allowed children)
    (chains : Chains asserts allowed children)
    (entered : Entered allowed this loop (.cons ref children siblings))
    (identified : Identified allowed loop.tree) {fuel : Nat} (deep : children.height ≤ fuel)
    {next : ChildLoop}
    (done : visitChild (updateSelfRecursively asserts (fuel + 1)) this loop ref = .ok next) :
    next.tree.linksAt ref = { parent := some this, previous := loop.prevNode, next := none } ∧
      children.Chained next.tree.linksAt (some ref) none ∧
      ∀ prev ∈ loop.prevNode,
        next.tree.linksAt prev = { loop.tree.linksAt prev with next := some ref } := by
  have here : ref ∈ (Forest.cons ref children siblings).labels := by simp
  obtain ⟨node, found, exist⟩ := exists_of_existsAt (entered.walkable.exist ref here)
  obtain ⟨parented, linked, visited, absorbed, toParent, toSiblings, ran, finished, first, second,
    third⟩ := entered.stages loops deep
  rw [visitChild, deref_of_heap found] at done
  simp only [Fault.ok_bind, exist, Bool.not_true, Bool.false_eq_true, if_false, toParent,
    toSiblings, ran, finished, Fault.pure_eq] at done
  obtain rfl := Except.ok.inj done
  have unmet : ∀ other, other = ref ∨ other ∈ loop.prevNode → other ∉ children.labels := by
    rintro other (rfl | prev) member
    · exact entered.walkable.root_notMem.1 member
    · exact entered.prevApart other prev (by simp [member])
  have kept : ∀ other, other = ref ∨ other ∈ loop.prevNode →
      absorbed.linksAt other = linked.linksAt other := by
    intro other among
    rw [third.linksAt (by simp), second.linksAt (unmet other among)]
  obtain ⟨parent, others⟩ := linkParent_links (isLive_iff.mpr ⟨node, found⟩) (by
    intro parent member
    rw [linksAt_of_heap found] at member
    intro same
    have candidate := entered.walkable.parents ref here node found parent member
    exact identified parent this (candidate.2 this entered.thisAllowed same) entered.thisAllowed
      same) toParent
  obtain ⟨child, previous⟩ :=
    linkSiblings_links (fun prev => entered.prevApart ref prev here) toSiblings
  refine ⟨?_, ?_, ?_⟩
  · rw [kept ref (.inl rfl), child]
    simp only [parent]
  · have below := (entered.linked first).chained chains (identified.relinked first.toRelinked) deep
      ran
    exact below.congr fun label _ => third.linksAt (by simp)
  · intro prev member
    have different : prev ≠ ref := by
      rintro rfl
      exact entered.prevApart prev member here
    rw [kept prev (.inr member), previous prev member, others prev different]

/-- The induction is on the forest, like that of `loops`. -/
theorem chains (asserts : Bool) (allowed : NodeRef → Prop) (forest : Forest NodeRef) :
    Chains asserts allowed forest := by
  induction forest with
  | empty =>
    intro fuel this loop final refs entered _ _ roots live done
    rw [foldlM_skip live (List.filter_eq_nil_iff.mp roots)] at done
    obtain rfl := Except.ok.inj done
    refine ⟨trivial, ?_⟩
    intro prev _ last
    rw [Forest.roots_empty, List.head?_nil, ← last]
  | cons root children siblings below beside =>
    intro fuel this loop final refs entered identified deep roots live done
    obtain ⟨skipped, rest, rfl, absent, -, roots⟩ := List.filter_eq_cons_iff.mp roots
    simp only [Forest.height, max_le_iff] at deep
    obtain ⟨fuel, rfl⟩ : ∃ smaller, fuel = smaller + 1 := ⟨fuel - 1, by omega⟩
    have shallower : children.height ≤ fuel := by omega
    obtain ⟨visited, ran, first⟩ :=
      visitChild_spec (loops asserts allowed children) entered shallower
    obtain ⟨links, inside, before⟩ := visitChild_links (loops asserts allowed children) below
      entered identified shallower ran
    rw [List.foldlM_append, foldlM_skip (fun ref member => live ref (by simp [member])) absent,
      Fault.ok_bind, List.foldlM_cons, ran, Fault.ok_bind] at done
    have beyond := entered.beyond first
    have existing : rest.filter visited.existsAt = siblings.roots := by rwa [first.existsAt]
    have alive : ∀ ref ∈ rest, visited.IsLive ref := by
      rw [first.isLive]
      exact fun ref member => live ref (by simp [member])
    obtain ⟨along, linked⟩ := beside beyond (identified.relinked first.toRelinked) deep.2
      existing alive done
    obtain ⟨again, looped, -, second⟩ :=
      loops asserts allowed siblings beyond deep.2 existing alive
    obtain rfl := Except.ok.inj (looped.symm.trans done)
    have kept : ∀ label, label ≠ root → label ∉ siblings.labels →
        again.tree.linksAt label = visited.linksAt label := by
      intro label different outside
      exact second.linksAt (by simp [different, outside])
    refine ⟨⟨?_, ?_, along⟩, ?_⟩
    · rw [linked root rfl (by rw [links]), links]
    · refine inside.congr fun label member => kept label ?_ ?_
      · rintro rfl
        exact entered.walkable.root_notMem.1 member
      · exact fun outside => entered.walkable.apart label outside (by simp [member])
    · intro prev member _
      have apart := entered.prevApart prev member
      rw [kept prev (fun equal => apart (by simp [equal])) (fun among => apart (by simp [among])),
        before prev member]
      rfl

/-- The traversal from the root links the tree that it meets. -/
theorem PointerTree.visitFromRoot_chained (shape : PointerTree merged forest)
    (ready : Ready merged) {ids : List Int}
    (done : merged.visitFromRoot asserts = .ok (ids, visited)) :
    forest.Chained visited.linksAt none none := by
  rcases shape.forest_cases with ⟨rfl, -⟩ | ⟨label, children, rfl, pointer⟩
  · trivial
  · have enterable := shape.enterable ready
    have deep := shape.height_le ready
    have identified : Identified (· ∈ (Forest.cons label children .empty).labels) merged :=
      fun one two here there same =>
        ready.stored.ref_eq (shape.exist ready one here) (shape.exist ready two there) same
    obtain ⟨node, found, -⟩ := exists_of_existsAt enterable.exist
    simp only [visitFromRoot, pointer] at done
    obtain ⟨again, ran, traversed⟩ := updateSelfRecursively_spec (loops asserts _ children)
      enterable.walkable enterable.exist enterable.roots enterable.live enterable.refAllowed
      enterable.fresh deep
    obtain ⟨-, rfl⟩ := Prod.mk.inj (Except.ok.inj (ran.symm.trans done))
    refine ⟨?_, enterable.chained (chains asserts _ children) identified deep done, trivial⟩
    rw [traversed.toRelinked.linksAt (shape.walkable ready).root_notMem.1, linksAt_of_heap found,
      (ready.sameLinks_root pointer found).links_eq]
    rfl

/-! ## The tree between updates -/

/-- The pointer lists below the root are a tree that holds every described node,
and the links are those of this tree. -/
structure Consistent (tree : SemanticsTree) (forest : Forest NodeRef) : Prop
    extends Sound tree, PointerTree tree forest where
  whole : ∀ ref, tree.existsAt ref = true → ref ∈ forest.labels
  chained : forest.Chained tree.linksAt none none

theorem Sound.ready (sound : Sound tree) : Ready tree where
  stored := sound.stored
  linked := sound.linked
  root := by
    intro ref member
    rwa [← sound.root]
  rootExists := by
    cases pointer : tree.rootNode with
    | none =>
      rw [nodeOf_of_lookup_none (sound.root ▸ pointer)]
      rfl
    | some ref => exact sound.rootExists (by simp [pointer])

/-- Nothing described changes with the heap outside of what is compared here. -/
theorem Consistent.of_same (consistent : Consistent before forest) (sound : Sound after)
    (root : after.rootNode = before.rootNode)
    (exist : ∀ ref, after.existsAt ref = before.existsAt ref)
    (children : ∀ ref ∈ forest.labels, after.childrenAt ref = before.childrenAt ref)
    (links : ∀ ref ∈ forest.labels, after.linksAt ref = before.linksAt ref) :
    Consistent after forest where
  toSound := sound
  roots := by
    rw [root]
    exact consistent.roots
  follows := by
    refine consistent.follows.congr fun ref member => ?_
    rw [existingChildrenAt, existingChildrenAt, children ref member, funext exist]
  nodup := consistent.nodup
  whole := by
    intro ref here
    rw [exist] at here
    exact consistent.whole ref here
  chained := consistent.chained.congr links

theorem consistent_of_bare (sound : Sound tree) (bare : ∀ ref, ¬ tree.IsLive ref) :
    Consistent tree .empty where
  toSound := sound
  roots := by
    cases pointer : tree.rootNode with
    | none => rfl
    | some ref => exact absurd (sound.stored.live (sound.root ▸ pointer)) (bare ref)
  follows := trivial
  nodup := List.nodup_nil
  whole := fun ref exist => absurd (Stored.isLive_of_exists exist) (bare ref)
  chained := trivial

section Removal

variable {surveyed : SemanticsTree} (shape : PointerTree merged forest) (ready : Ready merged)
  (survey : Surveyed forest merged surveyed)
  (removed : Removed (surveyed.needRemoveIds (forest.labels.map merged.idAt)) surveyed after)
include shape ready survey removed

/-- The nodes of the tree stay as they were when the others are removed. -/
theorem heap_of_label (member : ref ∈ forest.labels) : after.heap ref = surveyed.heap ref := by
  obtain ⟨found, -⟩ := ready.stored.exists_id (shape.exist ready ref member)
  obtain ⟨lookup, node⟩ :=
    kept_of_isKept survey removed (.inl (List.mem_map_of_mem member) : IsKept merged forest _)
  rw [removed.stored.heap_of_lookup (lookup.trans found), node,
    survey.stored.heap_of_lookup (survey.nodes ▸ found)]

theorem mem_of_existsAt (exist : after.existsAt ref = true) : ref ∈ forest.labels := by
  obtain ⟨found, here⟩ := removed.stored.exists_id exist
  exact (mem_labels_of_exists shape ready survey removed found here).1

theorem existingChildrenAt_of_label (member : ref ∈ forest.labels) :
    after.existingChildrenAt ref = merged.existingChildrenAt ref := by
  have lists : after.childrenAt ref = merged.childrenAt ref := by
    unfold childrenAt
    rw [← survey.core, coreAt, coreAt, heap_of_label shape ready survey removed member]
  rw [existingChildrenAt, existingChildrenAt, lists]
  apply List.filter_congr
  intro child among
  rw [Bool.eq_iff_iff]
  constructor
  · intro exist
    exact shape.exist ready child (mem_of_existsAt shape ready survey removed exist)
  · intro exist
    exact existsAt_of_label shape ready survey removed
      (shape.follows.successors member (List.mem_filter.mpr ⟨among, exist⟩))

theorem consistent_after (chained : forest.Chained surveyed.linksAt none none) :
    Consistent after forest where
  toSound := sound_after shape ready survey removed
  roots := by
    rw [removed.rest, survey.rootNode]
    exact shape.roots
  follows := shape.follows.congr fun _ member =>
    existingChildrenAt_of_label shape ready survey removed member
  nodup := shape.nodup
  whole := fun _ exist => mem_of_existsAt shape ready survey removed exist
  chained := chained.congr fun ref member => by
    rw [linksAt, linksAt, heap_of_label shape ready survey removed member]

end Removal

variable {updates : SemanticsNodeUpdates}

/-- An update that leaves a tree below the root leaves the links of this tree. -/
theorem updateWithNodes_consistent {hasFocusNode : Bool}
    (merge : tree.mergeUpdate updates = .ok (hasFocusNode, merged)) (ready : Ready merged)
    (shape : PointerTree merged forest) (redirect : NoRedirect merged forest)
    (done : tree.updateWithNodes asserts updates = .ok after) : Consistent after forest := by
  obtain ⟨visited, surveyed, last, ran, -, refocus, survey, removed, rfl⟩ :=
    updateWithNodes_stages merge ready shape redirect done
  have links : surveyed.linksAt = visited.linksAt := by
    unfold linksAt
    rw [refocus.rest]
  have chained := shape.visitFromRoot_chained ready ran
  rw [← links] at chained
  have consistent := consistent_after shape ready survey removed chained
  rw [dropInputFocus_eq]
  exact consistent.of_same (consistent.toSound.of_eq rfl rfl rfl rfl) rfl (fun _ => rfl)
    (fun _ _ => rfl) fun _ _ => rfl

/-! ## Runs -/

/-- The flag of a node says nothing about the tree. -/
theorem Consistent.setFocused (consistent : Consistent tree forest)
    (live : tree.IsLive ref) {focused : Bool}
    (done : tree.setFocused ref focused = .ok after) :
    Consistent after forest ∧ after.IsLive = tree.IsLive ∧
      after = { tree with heap := after.heap } := by
  obtain ⟨id, there⟩ := consistent.stored.owned live
  obtain ⟨again, written, sound, alive, rest⟩ :=
    setFocused_spec consistent.toSound there focused
  obtain rfl := Except.ok.inj (written.symm.trans done)
  obtain ⟨node, read, done⟩ := Fault.bind_eq_ok done
  have found := heap_of_deref read
  have equal := Except.ok.inj done
  have kept : ∀ other, again.existsAt other = tree.existsAt other ∧
      again.childrenAt other = tree.childrenAt other ∧
      again.linksAt other = tree.linksAt other := by
    intro other
    rw [← equal]
    by_cases same : other = ref
    · subst same
      rw [existsAt_of_heap write_heap_self, childrenAt_of_heap write_heap_self,
        linksAt_of_heap write_heap_self, existsAt_of_heap found, childrenAt_of_heap found,
        linksAt_of_heap found]
      exact ⟨rfl, rfl, rfl⟩
    · unfold existsAt childrenAt linksAt coreAt
      rw [write_heap_of_ne same]
      exact ⟨rfl, rfl, rfl⟩
  refine ⟨consistent.of_same sound ?_ (fun other => (kept other).1)
    (fun other _ => (kept other).2.1) fun other _ => (kept other).2.2, alive, rest⟩
  rw [rest]

/-- What the calls of a run keep. -/
def Held (tree : SemanticsTree) : Prop :=
  (∃ forest, Consistent tree forest) ∧ ∀ ref ∈ tree.focusedNode, tree.IsLive ref

/-- An update leaves a tree below the root, and no other node has the id -1. -/
def StaysConsistent (tree : SemanticsTree) : TreeOp → Prop
  | .updateWithNodes updates => ∃ merged forest,
      LeavesTree tree updates merged forest ∧ NoRedirect merged forest
  | _ => True

theorem Consistent.of_focusedNode (consistent : Consistent tree forest)
    (pointer : Option NodeRef) : Consistent { tree with focusedNode := pointer } forest :=
  consistent.of_same (consistent.toSound.of_eq rfl rfl rfl rfl) rfl (fun _ => rfl)
    (fun _ _ => rfl) fun _ _ => rfl

theorem Held.setAccessibilityFocusNode (held : Held tree) {id : Int}
    (done : tree.setAccessibilityFocusNode id = .ok after) : Held after := by
  obtain ⟨⟨forest, consistent⟩, focused⟩ := held
  obtain ⟨found, searched, done⟩ := Fault.bind_eq_ok done
  cases found with
  | none =>
    obtain rfl := Except.ok.inj done
    exact ⟨⟨forest, consistent⟩, focused⟩
  | some ref =>
    obtain ⟨key, there⟩ := lookup_of_findNodeById searched
    have live := consistent.stored.live there
    obtain ⟨consistent, alive, rest⟩ :=
      (consistent.of_focusedNode (some ref)).setFocused live done
    refine ⟨⟨forest, consistent⟩, ?_⟩
    rw [alive, rest]
    rintro _ ⟨⟩
    exact live

theorem Held.clearAccessibilityFocusNode (held : Held tree)
    (done : tree.clearAccessibilityFocusNode = .ok after) : Held after := by
  obtain ⟨⟨forest, consistent⟩, focused⟩ := held
  cases pointer : tree.focusedNode with
  | none =>
    simp only [SemanticsTree.clearAccessibilityFocusNode, pointer] at done
    obtain rfl := Except.ok.inj done
    exact ⟨⟨forest, consistent⟩, focused⟩
  | some ref =>
    simp only [SemanticsTree.clearAccessibilityFocusNode, pointer] at done
    obtain ⟨flagged, written, done⟩ := Fault.bind_eq_ok done
    obtain ⟨consistent, -, -⟩ := consistent.setFocused (focused ref pointer) written
    obtain rfl := Except.ok.inj done
    exact ⟨⟨forest, consistent.of_focusedNode none⟩, by simp⟩

theorem Held.updateWithNodes (held : Held tree)
    (meets : StaysConsistent tree (.updateWithNodes updates))
    (done : tree.updateWithNodes asserts updates = .ok after) : Held after := by
  obtain ⟨⟨earlier, consistent⟩, focused⟩ := held
  obtain ⟨merged, forest, ⟨⟨hasFocusNode, merges⟩, shape⟩, redirect⟩ := meets
  obtain ⟨again, same, merge, ready⟩ := mergeUpdate_spec consistent.toSound updates
  obtain ⟨rfl, rfl⟩ := Prod.mk.inj (Except.ok.inj (merges.symm.trans same))
  have updated := updateWithNodes_spec merges ready shape redirect done
  refine ⟨⟨forest, updateWithNodes_consistent merges ready shape redirect done⟩, ?_⟩
  intro ref member
  obtain ⟨before, live⟩ := updated.focused ref member
  rw [merge.rest] at before
  exact live (merge.isLive (consistent.stored.of_eq rfl rfl rfl) (focused ref before))

/-- The tree is consistent between the calls of every run whose updates leave a
tree below the root. -/
theorem reachable_held (asserts : Bool)
    (reached : (machine asserts).Reachable StaysConsistent tree) : Held tree := by
  refine reached.invariant Held ?_ ?_
  · rintro _ rfl
    exact ⟨⟨.empty, consistent_of_bare sound_empty (by simp [isLive_iff])⟩, by simp⟩
  · intro state op next held meets transition
    have done : state.perform asserts op = .ok next := by
      cases result : state.perform asserts op with
      | error fault => simp [machine, result, Except.toOption] at transition
      | ok after => simpa [machine, result, Except.toOption] using transition
    cases op with
    | updateWithNodes updates => exact held.updateWithNodes meets done
    | setAccessibilityFocusNode id => exact held.setAccessibilityFocusNode done
    | clearAccessibilityFocusNode => exact held.clearAccessibilityFocusNode done
    | clearSemanticsTree =>
      obtain rfl := Except.ok.inj done
      obtain ⟨⟨forest, consistent⟩, -⟩ := held
      exact ⟨⟨.empty, consistent_of_bare consistent.toSound.clearSemanticsTree
        (clearSemanticsTree_bare consistent.stored)⟩, by simp [clearSemanticsTree]⟩

end SemanticsTree

end FlutterEngine.Ohos
