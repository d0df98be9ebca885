import FlutterEngine.Ohos.SemanticsTree
import FlutterEngine.Std.Forest

/-!
# The traversal of a tree of pointers

Where the pointer lists below a node form a forest of existing nodes, the
recursion ends, meets every node of the forest once and leaves links that stay
among the nodes it met. It never changes the lists.
-/

namespace FlutterEngine.Ohos

open FlutterEngine.Std

namespace Fault

variable {α β : Type}

@[simp] theorem pure_eq (value : α) : (pure value : Except Fault α) = .ok value := rfl

@[simp] theorem ok_bind (value : α) (next : α → Except Fault β) :
    (Except.ok value >>= next) = next value := rfl

theorem bind_eq_ok {first : Except Fault α} {next : α → Except Fault β} {result : β}
    (done : first >>= next = .ok result) :
    ∃ value, first = .ok value ∧ next value = .ok result := by
  cases first with
  | error fault => cases done
  | ok value => exact ⟨value, rfl, done⟩

end Fault

namespace SemanticsNodeExtend

/-- What the traversal leaves alone: all but the links and `focusableInSubtree`. -/
def core (node : SemanticsNodeExtend) : SemanticsNodeExtend :=
  { node with
    focusableInSubtree := false
    parentNode := none
    previousNode := none
    nextNode := none }

variable {node other : SemanticsNodeExtend}

theorem core_node (same : node.core = other.core) : node.toSemanticsNode = other.toSemanticsNode :=
  congrArg (·.toSemanticsNode) same

theorem core_isExist (same : node.core = other.core) : node.isExist = other.isExist :=
  congrArg (·.isExist) same

theorem core_children (same : node.core = other.core) :
    node.childrenInTraversalOrderList = other.childrenInTraversalOrderList :=
  congrArg (·.childrenInTraversalOrderList) same

/-- The links lead to allowed nodes only. -/
structure Within (allowed : NodeRef → Prop) (node : SemanticsNodeExtend) : Prop where
  parent : ∀ ref ∈ node.parentNode, allowed ref
  previous : ∀ ref ∈ node.previousNode, allowed ref
  next : ∀ ref ∈ node.nextNode, allowed ref

structure SameLinks (node other : SemanticsNodeExtend) : Prop where
  parent : node.parentNode = other.parentNode
  previous : node.previousNode = other.previousNode
  next : node.nextNode = other.nextNode

theorem SameLinks.refl (node : SemanticsNodeExtend) : SameLinks node node := ⟨rfl, rfl, rfl⟩

theorem SameLinks.trans {last : SemanticsNodeExtend} (one : SameLinks node other)
    (two : SameLinks other last) : SameLinks node last :=
  ⟨one.parent.trans two.parent, one.previous.trans two.previous, one.next.trans two.next⟩

theorem SameLinks.within {allowed : NodeRef → Prop} (same : SameLinks node other)
    (within : other.Within allowed) : node.Within allowed where
  parent := same.parent ▸ within.parent
  previous := same.previous ▸ within.previous
  next := same.next ▸ within.next

/-- A node that was named as a child only. -/
structure IsPlaceholder (node : SemanticsNodeExtend) : Prop where
  id : node.id = 0
  children : node.childrenInTraversalOrderList = []
  unlinked : node.SameLinks {}

theorem isPlaceholder_default : IsPlaceholder {} := ⟨rfl, rfl, .refl _⟩

end SemanticsNodeExtend

namespace SemanticsTree

variable {tree before after last : SemanticsTree} {allowed : NodeRef → Prop}
  {ref other : NodeRef} {node : SemanticsNodeExtend} {first second : List NodeRef}

theorem deref_of_heap (found : tree.heap ref = some node) : tree.deref ref = .ok node := by
  simp [deref, found]

@[simp] theorem write_heap_self : (tree.write ref node).heap ref = some node := by
  simp [write]

theorem write_heap_of_ne (different : other ≠ ref) :
    (tree.write ref node).heap other = tree.heap other := by
  simp [write, different]

/-! ## What the pointer graph consists of -/

/-- The node at an address, as far as the traversal leaves it alone. -/
def coreAt (tree : SemanticsTree) (ref : NodeRef) : Option SemanticsNodeExtend :=
  (tree.heap ref).map SemanticsNodeExtend.core

def idAt (tree : SemanticsTree) (ref : NodeRef) : Int :=
  (tree.coreAt ref).elim 0 (·.id)

def existsAt (tree : SemanticsTree) (ref : NodeRef) : Bool :=
  (tree.coreAt ref).elim false (·.isExist)

def childrenAt (tree : SemanticsTree) (ref : NodeRef) : List NodeRef :=
  (tree.coreAt ref).elim [] (·.childrenInTraversalOrderList)

/-- The children the traversal goes into. -/
def existingChildrenAt (tree : SemanticsTree) (ref : NodeRef) : List NodeRef :=
  (tree.childrenAt ref).filter tree.existsAt

def IsLive (tree : SemanticsTree) (ref : NodeRef) : Prop := tree.coreAt ref ≠ none

@[simp] theorem idAt_of_heap (found : tree.heap ref = some node) : tree.idAt ref = node.id := by
  simp [idAt, coreAt, found, SemanticsNodeExtend.core]

@[simp] theorem existsAt_of_heap (found : tree.heap ref = some node) :
    tree.existsAt ref = node.isExist := by
  simp [existsAt, coreAt, found, SemanticsNodeExtend.core]

@[simp] theorem childrenAt_of_heap (found : tree.heap ref = some node) :
    tree.childrenAt ref = node.childrenInTraversalOrderList := by
  simp [childrenAt, coreAt, found, SemanticsNodeExtend.core]

theorem isLive_iff : tree.IsLive ref ↔ ∃ node, tree.heap ref = some node := by
  simp [IsLive, coreAt, Option.ne_none_iff_exists']

theorem exists_of_existsAt (exist : tree.existsAt ref = true) :
    ∃ node, tree.heap ref = some node ∧ node.isExist = true := by
  cases found : tree.heap ref with
  | none => simp [existsAt, coreAt, found] at exist
  | some node => exact ⟨node, rfl, by rwa [existsAt_of_heap found] at exist⟩

variable {changed : SemanticsNodeExtend}

theorem exists_of_coreAt (core : after.coreAt ref = before.coreAt ref)
    (found : after.heap ref = some changed) :
    ∃ node, before.heap ref = some node ∧ changed.core = node.core := by
  rw [coreAt, found, coreAt] at core
  obtain ⟨node, here, same⟩ := Option.map_eq_some_iff.mp core.symm
  exact ⟨node, here, same.symm⟩

/-- A write of the same core leaves every core as it was. -/
theorem coreAt_write (found : tree.heap ref = some node)
    (same : changed.core = node.core) : (tree.write ref changed).coreAt = tree.coreAt := by
  ext1 other
  by_cases equal : other = ref
  · subst equal
    simp [coreAt, found, same]
  · simp only [coreAt, write_heap_of_ne equal]

/-! ## Steps of the traversal -/

/-- The heap differs in links of the labelled nodes only. -/
structure Relinked (labels : List NodeRef) (before after : SemanticsTree) : Prop where
  rest : after = { before with heap := after.heap }
  core : after.coreAt = before.coreAt
  keeps : ∀ ref ∉ labels, ∀ node ∈ before.heap ref, ∀ changed ∈ after.heap ref,
    changed.SameLinks node

/-- The labelled nodes have links to allowed nodes. -/
structure Traversed (allowed : NodeRef → Prop) (labels : List NodeRef)
    (before after : SemanticsTree) : Prop extends Relinked labels before after where
  links : ∀ ref ∈ labels, ∀ changed ∈ after.heap ref, changed.Within allowed

namespace Relinked

theorem refl (labels : List NodeRef) (tree : SemanticsTree) : Relinked labels tree tree where
  rest := rfl
  core := rfl
  keeps := by
    intro ref _ node found changed same
    obtain rfl := Option.some.inj (found.symm.trans same)
    exact .refl _

theorem trans (one : Relinked first before after) (two : Relinked second after last) :
    Relinked (first ++ second) before last where
  rest := by
    rw [two.rest, one.rest]
  core := two.core.trans one.core
  keeps := by
    intro ref outside node found changed final
    rw [List.mem_append, not_or] at outside
    obtain ⟨middle, between, -⟩ := exists_of_coreAt (congrFun two.core ref) final
    exact (two.keeps ref outside.2 middle between changed final).trans
      (one.keeps ref outside.1 node found middle between)

theorem subset (step : Relinked first before after) (within : first ⊆ second) :
    Relinked second before after where
  rest := step.rest
  core := step.core
  keeps := fun ref outside => step.keeps ref fun member => outside (within member)

/-- A write to a labelled node. -/
theorem write (found : tree.heap ref = some node)
    (same : changed.core = node.core) : Relinked [ref] tree (tree.write ref changed) where
  rest := rfl
  core := coreAt_write found same
  keeps := by
    intro other outside node here after there
    rw [List.mem_singleton] at outside
    rw [write_heap_of_ne outside] at there
    obtain rfl := Option.some.inj (here.symm.trans there)
    exact .refl _

/-- A write that changes no link. -/
theorem write_other (found : tree.heap ref = some node) (same : changed.core = node.core)
    (links : changed.SameLinks node) : Relinked [] tree (tree.write ref changed) where
  rest := rfl
  core := coreAt_write found same
  keeps := by
    intro other _ before here after there
    by_cases equal : other = ref
    · subst equal
      obtain rfl := Option.some.inj (found.symm.trans here)
      obtain rfl := Option.some.inj (write_heap_self.symm.trans there)
      exact links
    · rw [write_heap_of_ne equal] at there
      obtain rfl := Option.some.inj (here.symm.trans there)
      exact .refl _

variable {labels : List NodeRef}

variable (step : Relinked labels before after)

include step

theorem idAt : after.idAt = before.idAt := by
  unfold SemanticsTree.idAt
  rw [step.core]

theorem existsAt : after.existsAt = before.existsAt := by
  unfold SemanticsTree.existsAt
  rw [step.core]

theorem childrenAt :
    after.childrenAt = before.childrenAt := by
  unfold SemanticsTree.childrenAt
  rw [step.core]

theorem existingChildrenAt :
    after.existingChildrenAt = before.existingChildrenAt := by
  unfold SemanticsTree.existingChildrenAt
  rw [step.childrenAt, step.existsAt]

theorem isLive : after.IsLive = before.IsLive := by
  unfold IsLive
  rw [step.core]

end Relinked

namespace Traversed

theorem refl (allowed : NodeRef → Prop) (tree : SemanticsTree) : Traversed allowed [] tree tree where
  toRelinked := .refl [] tree
  links := by simp

theorem trans (one : Traversed allowed first before after)
    (two : Traversed allowed second after last) :
    Traversed allowed (first ++ second) before last where
  toRelinked := one.toRelinked.trans two.toRelinked
  links := by
    intro ref member changed final
    by_cases again : ref ∈ second
    · exact two.links ref again changed final
    · have early := (List.mem_append.mp member).resolve_right again
      obtain ⟨middle, between, -⟩ := exists_of_coreAt (congrFun two.core ref) final
      exact (two.keeps ref again middle between changed final).within
        (one.links ref early middle between)

theorem of_relinked (step : Relinked [] before after) : Traversed allowed [] before after where
  toRelinked := step
  links := by simp

end Traversed

/-- The existing nodes form a forest whose nodes have no stale parent. -/
structure Walkable (allowed : NodeRef → Prop) (tree : SemanticsTree) (forest : Forest NodeRef) :
    Prop where
  follows : forest.Follows tree.existingChildrenAt
  nodup : forest.labels.Nodup
  exist : ∀ ref ∈ forest.labels, tree.existsAt ref = true
  live : ∀ ref ∈ forest.labels, ∀ child ∈ tree.childrenAt ref, tree.IsLive child
  within : ∀ ref ∈ forest.labels, allowed ref
  parents : ∀ ref ∈ forest.labels, ∀ node ∈ tree.heap ref, ∀ parent ∈ node.parentNode,
    tree.IsLive parent ∧
      ∀ other, allowed other → tree.idAt parent = tree.idAt other → allowed parent

namespace Walkable

variable {forest children siblings : Forest NodeRef} {labels : List NodeRef}

theorem relinked (walkable : Walkable allowed before forest)
    (step : Relinked labels before after)
    (apart : ∀ ref ∈ forest.labels, ref ∉ labels) : Walkable allowed after forest where
  follows := by
    rw [step.existingChildrenAt]
    exact walkable.follows
  nodup := walkable.nodup
  exist := by
    rw [step.existsAt]
    exact walkable.exist
  live := by
    rw [step.childrenAt, step.isLive]
    exact walkable.live
  within := walkable.within
  parents := by
    intro ref member changed final parent linked
    obtain ⟨node, found, -⟩ := exists_of_coreAt (congrFun step.core ref) final
    rw [(step.keeps ref (apart ref member) node found changed final).parent] at linked
    rw [step.isLive, step.idAt]
    exact walkable.parents ref member node found parent linked

theorem part {part : Forest NodeRef} (walkable : Walkable allowed tree forest)
    (follows : part.Follows tree.existingChildrenAt)
    (sublist : part.labels.Sublist forest.labels) :
    Walkable allowed tree part where
  follows := follows
  nodup := sublist.nodup walkable.nodup
  exist := fun other member => walkable.exist other (sublist.subset member)
  live := fun other member => walkable.live other (sublist.subset member)
  within := fun other member => walkable.within other (sublist.subset member)
  parents := fun other member => walkable.parents other (sublist.subset member)

variable (walkable : Walkable allowed tree (.cons ref children siblings))

include walkable

theorem below :
    Walkable allowed tree children :=
  walkable.part walkable.follows.2.1 ((List.sublist_append_left _ _).cons ref)

theorem beside :
    Walkable allowed tree siblings :=
  walkable.part walkable.follows.2.2 ((List.sublist_append_right _ _).cons ref)

theorem root_notMem :
    ref ∉ children.labels ∧ ref ∉ siblings.labels := by
  have apart := (List.nodup_cons.mp walkable.nodup).1
  rwa [List.mem_append, not_or] at apart

theorem apart :
    ∀ other ∈ siblings.labels, other ∉ ref :: children.labels := by
  have distinct := (List.nodup_append.mp (List.nodup_cons.mp walkable.nodup).2).2.2
  intro other member among
  rcases List.mem_cons.mp among with rfl | among
  · exact walkable.root_notMem.2 member
  · exact distinct other among other member rfl

end Walkable

/-! ## One child -/

theorem deref_of_live (live : tree.IsLive ref) :
    ∃ node, tree.heap ref = some node ∧ tree.deref ref = .ok node := by
  obtain ⟨node, found⟩ := isLive_iff.mp live
  exact ⟨node, found, deref_of_heap found⟩

theorem write_same (found : tree.heap ref = some node) : tree.write ref node = tree := by
  have same : Function.update tree.heap ref (some node) = tree.heap := by
    rw [← found, Function.update_eq_self]
  rw [write, same]

/-- A child's parent pointer ends up allowed, whether it is replaced or kept. -/
theorem linkParent_spec {this : NodeRef} (found : tree.heap ref = some node)
    (live : tree.IsLive this) (thisAllowed : allowed this)
    (parents : ∀ parent ∈ node.parentNode, tree.IsLive parent ∧
      ∀ other, allowed other → tree.idAt parent = tree.idAt other → allowed parent) :
    ∃ changed, tree.linkParent this ref = .ok (tree.write ref changed) ∧
      changed.core = node.core ∧ ∀ parent ∈ changed.parentNode, allowed parent := by
  obtain ⟨self, here, read⟩ := deref_of_live live
  have replaced : ∀ parent ∈ ({ node with parentNode := some this } : SemanticsNodeExtend).parentNode,
      allowed parent := by
    rintro parent ⟨⟩
    exact thisAllowed
  cases linked : node.parentNode with
  | none =>
    refine ⟨{ node with parentNode := some this }, ?_, rfl, replaced⟩
    simp [linkParent, deref_of_heap found, read, hasParent, linked]
  | some parent =>
    obtain ⟨parentLive, unique⟩ := parents parent linked
    obtain ⟨parentNode, there, parentRead⟩ := deref_of_live parentLive
    by_cases same : parentNode.id = self.id
    · refine ⟨node, ?_, rfl, ?_⟩
      · rw [write_same found]
        simp [linkParent, deref_of_heap found, read, hasParent, linked, parentRead, same]
      · intro other equal
        obtain rfl := Option.some.inj (linked.symm.trans equal)
        exact unique this thisAllowed (by rwa [idAt_of_heap there, idAt_of_heap here])
    · refine ⟨{ node with parentNode := some this }, ?_, rfl, replaced⟩
      simp [linkParent, deref_of_heap found, read, hasParent, linked, parentRead, same]

/-- The previous sibling is linked to the child. -/
theorem linkNext_spec {prevNode : Option NodeRef} (childAllowed : allowed ref)
    (live : ∀ prev ∈ prevNode, tree.IsLive prev)
    (within : ∀ prev ∈ prevNode, ∀ node ∈ tree.heap prev, node.Within allowed) :
    ∃ linked, tree.linkNext prevNode ref = .ok linked ∧
      Traversed allowed prevNode.toList tree linked ∧
      (ref ∉ prevNode → linked.heap ref = tree.heap ref) := by
  cases prevNode with
  | none => exact ⟨tree, rfl, .refl allowed tree, fun _ => rfl⟩
  | some prev =>
    obtain ⟨node, found, read⟩ := deref_of_live (live prev rfl)
    have written : tree.linkNext (some prev) ref =
        .ok (tree.write prev { node with nextNode := some ref }) := by
      simp [linkNext, read]
    refine ⟨_, written, ⟨.write found rfl, ?_⟩, ?_⟩
    · intro label member final finalHere
      obtain rfl := List.mem_singleton.mp member
      obtain rfl := Option.some.inj (write_heap_self.symm.trans finalHere)
      have before := within label rfl node found
      exact ⟨before.parent, before.previous, by rintro _ ⟨⟩; exact childAllowed⟩
    · intro different
      exact write_heap_of_ne fun equal => different (by simp [equal])

/-- A child is linked to its parent and to its previous sibling. -/
theorem link_spec {this : NodeRef} {prevNode : Option NodeRef}
    (found : tree.heap ref = some node) (childAllowed : allowed ref)
    (live : tree.IsLive this) (thisAllowed : allowed this)
    (prevLive : ∀ prev ∈ prevNode, tree.IsLive prev) (prevAllowed : ∀ prev ∈ prevNode, allowed prev)
    (prevWithin : ∀ prev ∈ prevNode, ∀ node ∈ tree.heap prev, node.Within allowed)
    (other : ref ∉ prevNode)
    (parents : ∀ parent ∈ node.parentNode, tree.IsLive parent ∧
      ∀ other, allowed other → tree.idAt parent = tree.idAt other → allowed parent) :
    ∃ parented linked, tree.linkParent this ref = .ok parented ∧
      parented.linkSiblings prevNode ref = .ok linked ∧
      Traversed allowed (prevNode.toList ++ [ref]) tree linked := by
  obtain ⟨changed, parented, same, parentAllowed⟩ :=
    linkParent_spec found live thisAllowed parents
  have first : Relinked [ref] tree (tree.write ref changed) := .write found same
  have untouched : ∀ prev ∈ prevNode, (tree.write ref changed).heap prev = tree.heap prev := by
    intro prev member
    exact write_heap_of_ne fun equal => other (equal ▸ member)
  obtain ⟨next, linkedNext, second, kept⟩ :=
    linkNext_spec childAllowed (by rwa [first.isLive])
      (fun prev member => untouched prev member ▸ prevWithin prev member)
  have here : next.heap ref = some changed := (kept other).trans write_heap_self
  have third : Relinked [ref] next
      (next.write ref { changed with
        previousNode := prevNode
        nextNode := none }) := .write here rfl
  refine ⟨_, _, parented, by simp [linkSiblings, linkedNext, deref_of_heap here]; rfl, ?_, ?_⟩
  · refine ((first.trans second.toRelinked).trans third).subset ?_
    intro label member
    simp only [List.mem_append, List.mem_singleton] at member ⊢
    tauto
  · intro label member final finalHere
    by_cases equal : label = ref
    · subst equal
      obtain rfl := Option.some.inj (write_heap_self.symm.trans finalHere)
      exact ⟨parentAllowed, prevAllowed, by simp⟩
    · rw [write_heap_of_ne equal] at finalHere
      have prev := (List.mem_append.mp member).resolve_right (by simpa using equal)
      exact second.links label prev final finalHere

theorem absorbFocusable_spec {this : NodeRef} (childLive : tree.IsLive ref)
    (live : tree.IsLive this) :
    ∃ absorbed, tree.absorbFocusable this ref = .ok absorbed ∧
      Relinked [] tree absorbed := by
  obtain ⟨child, -, childRead⟩ := deref_of_live childLive
  obtain ⟨self, here, read⟩ := deref_of_live live
  have written : tree.absorbFocusable this ref = .ok (tree.write this { self with
      focusableInSubtree := self.focusableInSubtree || child.focusableInSubtree }) := by
    simp [absorbFocusable, childRead, read]
  exact ⟨_, written, .write_other here rfl ⟨rfl, rfl, rfl⟩⟩

/-! ## The whole recursion -/

/-- Children that do not exist are passed over. -/
theorem foldlM_skip
    {recurse : NodeRef → List Int → SemanticsTree → Except Fault (List Int × SemanticsTree)}
    {this : NodeRef} {loop : ChildLoop} {refs : List NodeRef}
    (live : ∀ ref ∈ refs, loop.tree.IsLive ref)
    (absent : ∀ ref ∈ refs, ¬ loop.tree.existsAt ref = true) :
    refs.foldlM (visitChild recurse this) loop = .ok loop := by
  induction refs with
  | nil => rfl
  | cons ref refs ih =>
    obtain ⟨node, found, read⟩ := deref_of_live (live ref (by simp))
    have missing : node.isExist = false := by
      have here := absent ref (by simp)
      rwa [existsAt_of_heap found, Bool.not_eq_true] at here
    rw [List.foldlM_cons]
    simp only [visitChild, read, Fault.ok_bind, missing, Bool.not_false, if_true, Fault.pure_eq]
    exact ih (fun other member => live other (by simp [member]))
      fun other member => absent other (by simp [member])

/-- What the child loop starts from, below the node it runs for. -/
structure Entered (allowed : NodeRef → Prop) (this : NodeRef) (loop : ChildLoop)
    (forest : Forest NodeRef) : Prop where
  walkable : Walkable allowed loop.tree forest
  live : loop.tree.IsLive this
  thisAllowed : allowed this
  prevLive : ∀ prev ∈ loop.prevNode, loop.tree.IsLive prev
  prevAllowed : ∀ prev ∈ loop.prevNode, allowed prev
  prevWithin : ∀ prev ∈ loop.prevNode, ∀ node ∈ loop.tree.heap prev, node.Within allowed
  prevApart : ∀ prev ∈ loop.prevNode, prev ∉ forest.labels
  fresh : (loop.visitorId ++ forest.labels.map loop.tree.idAt).Nodup

/-- The child loop ends when the existing members of its list are the roots of
the forest, having met all of the forest. -/
def Loops (asserts : Bool) (allowed : NodeRef → Prop) (forest : Forest NodeRef) : Prop :=
  ∀ {fuel : Nat} {this : NodeRef} {loop : ChildLoop} {refs : List NodeRef},
    Entered allowed this loop forest → forest.height ≤ fuel →
    refs.filter loop.tree.existsAt = forest.roots →
    (∀ ref ∈ refs, loop.tree.IsLive ref) →
    ∃ final, refs.foldlM (visitChild (updateSelfRecursively asserts fuel) this) loop = .ok final ∧
      final.visitorId = loop.visitorId ++ forest.labels.map loop.tree.idAt ∧
      Traversed allowed (loop.prevNode.toList ++ forest.labels) loop.tree final.tree

/-- What the recursive call for an existing node starts from. -/
structure Enterable (allowed : NodeRef → Prop) (ref : NodeRef) (visitorId : List Int)
    (tree : SemanticsTree) (children : Forest NodeRef) : Prop where
  walkable : Walkable allowed tree children
  exist : tree.existsAt ref = true
  roots : tree.existingChildrenAt ref = children.roots
  live : ∀ child ∈ tree.childrenAt ref, tree.IsLive child
  refAllowed : allowed ref
  fresh : (visitorId ++ (ref :: children.labels).map tree.idAt).Nodup

/-- The child loop as the recursive call enters it. -/
def enteredLoop (tree : SemanticsTree) (ref : NodeRef) (node : SemanticsNodeExtend)
    (visitorId : List Int) : ChildLoop where
  tree := tree.write ref { node with focusableInSubtree := node.isFocusable }
  visitorId := visitorId ++ [node.id]
  prevNode := none

variable {asserts : Bool} {children siblings : Forest NodeRef} {visitorId : List Int}
  {this : NodeRef} {loop : ChildLoop}

theorem enteredLoop_relinked (found : tree.heap ref = some node) :
    Relinked [] tree (enteredLoop tree ref node visitorId).tree :=
  .write_other found rfl ⟨rfl, rfl, rfl⟩

namespace Enterable

variable (enterable : Enterable allowed ref visitorId tree children)
include enterable

variable (found : tree.heap ref = some node)

include found

theorem entered :
    Entered allowed ref (enteredLoop tree ref node visitorId) children where
  walkable := enterable.walkable.relinked (enteredLoop_relinked found) (by simp)
  live := by
    rw [(enteredLoop_relinked found).isLive]
    exact isLive_iff.mpr ⟨node, found⟩
  thisAllowed := enterable.refAllowed
  prevLive := by simp [enteredLoop]
  prevAllowed := by simp [enteredLoop]
  prevWithin := by simp [enteredLoop]
  prevApart := by simp [enteredLoop]
  fresh := by
    have fresh := enterable.fresh
    rw [(enteredLoop_relinked found).idAt, enteredLoop, List.append_assoc, List.singleton_append]
    rwa [List.map_cons, idAt_of_heap found] at fresh

/-- The existing children are the roots to visit. -/
theorem listed :
    node.childrenInTraversalOrderList.filter
      (enteredLoop tree ref node visitorId).tree.existsAt = children.roots := by
  rw [(enteredLoop_relinked found).existsAt, ← childrenAt_of_heap found]
  exact enterable.roots

theorem listedLive :
    ∀ child ∈ node.childrenInTraversalOrderList,
      (enteredLoop tree ref node visitorId).tree.IsLive child := by
  rw [(enteredLoop_relinked found).isLive, ← childrenAt_of_heap found]
  exact enterable.live

/-- The assertion of the recursion passes, and the loop runs over the children. -/
theorem updateSelfRecursively_eq (fuel : Nat) :
    updateSelfRecursively asserts (fuel + 1) ref visitorId tree = do
      let loop ← node.childrenInTraversalOrderList.foldlM
        (visitChild (updateSelfRecursively asserts fuel) ref) (enteredLoop tree ref node visitorId)
      return (loop.visitorId, loop.tree) := by
  have unmet : node.id ∉ visitorId := by
    have fresh := enterable.fresh
    rw [List.map_cons, idAt_of_heap found] at fresh
    exact fun met => (List.nodup_append.mp fresh).2.2 node.id met node.id (by simp) rfl
  have passes : assertion asserts (decide (node.id ∉ visitorId)) = .ok () := by
    simp [assertion, unmet]
  rw [updateSelfRecursively, deref_of_heap found, Fault.ok_bind, passes, Fault.ok_bind]
  rfl

end Enterable

theorem updateSelfRecursively_spec (loops : Loops asserts allowed children)
    (walkable : Walkable allowed tree children) (exist : tree.existsAt ref = true)
    (roots : tree.existingChildrenAt ref = children.roots)
    (live : ∀ child ∈ tree.childrenAt ref, tree.IsLive child) (refAllowed : allowed ref)
    {visitorId : List Int}
    (fresh : (visitorId ++ (ref :: children.labels).map tree.idAt).Nodup)
    {fuel : Nat} (deep : children.height ≤ fuel) :
    ∃ after, updateSelfRecursively asserts (fuel + 1) ref visitorId tree =
        .ok (visitorId ++ (ref :: children.labels).map tree.idAt, after) ∧
      Traversed allowed children.labels tree after := by
  have enterable : Enterable allowed ref visitorId tree children :=
    ⟨walkable, exist, roots, live, refAllowed, fresh⟩
  obtain ⟨node, found, -⟩ := exists_of_existsAt exist
  obtain ⟨final, ran, visited, traversed⟩ :=
    loops (enterable.entered found) deep (enterable.listed found) (enterable.listedLive found)
  refine ⟨final.tree, ?_, (Traversed.of_relinked (enteredLoop_relinked found)).trans traversed⟩
  rw [enterable.updateSelfRecursively_eq found, ran, Fault.ok_bind, Fault.pure_eq, visited,
    (enteredLoop_relinked found).idAt, enteredLoop, List.map_cons, idAt_of_heap found,
    List.append_assoc, List.singleton_append]

namespace Entered

variable (entered : Entered allowed this loop (.cons ref children siblings))
include entered

/-- The child can be gone into once it is linked. -/
theorem linked {linked : SemanticsTree}
    (first : Traversed allowed (loop.prevNode.toList ++ [ref]) loop.tree linked) :
    Enterable allowed ref loop.visitorId linked children where
  walkable := by
    refine entered.walkable.below.relinked first.toRelinked ?_
    intro other member among
    rcases List.mem_append.mp among with prev | self
    · exact entered.prevApart other (by simpa using prev) (by simp [member])
    · rw [List.mem_singleton.mp self] at member
      exact entered.walkable.root_notMem.1 member
  exist := by
    rw [first.existsAt]
    exact entered.walkable.exist ref (by simp)
  roots := by
    rw [first.existingChildrenAt]
    exact entered.walkable.follows.1
  live := by
    rw [first.childrenAt, first.isLive]
    exact entered.walkable.live ref (by simp)
  refAllowed := entered.walkable.within ref (by simp)
  fresh := by
    rw [first.idAt]
    refine entered.fresh.sublist (List.Sublist.append_left ?_ _)
    simp

/-- The loop goes on with the next children. -/
theorem beyond {visited : SemanticsTree}
    (first : Traversed allowed (loop.prevNode.toList ++ ref :: children.labels) loop.tree visited) :
    Entered allowed this {
      tree := visited
      visitorId := loop.visitorId ++ (ref :: children.labels).map loop.tree.idAt
      prevNode := some ref } siblings where
  walkable := by
    refine entered.walkable.beside.relinked first.toRelinked ?_
    intro other member among
    rcases List.mem_append.mp among with prev | among
    · exact entered.prevApart other (by simpa using prev) (by simp [member])
    · exact entered.walkable.apart other member among
  live := by
    rw [first.isLive]
    exact entered.live
  thisAllowed := entered.thisAllowed
  prevLive := by
    rintro prev ⟨⟩
    rw [first.isLive]
    obtain ⟨node, found, -⟩ := exists_of_existsAt (entered.walkable.exist ref (by simp))
    exact isLive_iff.mpr ⟨node, found⟩
  prevAllowed := by
    rintro prev ⟨⟩
    exact entered.walkable.within ref (by simp)
  prevWithin := by
    rintro prev ⟨⟩
    exact first.links ref (by simp)
  prevApart := by
    rintro prev ⟨⟩
    exact entered.walkable.root_notMem.2
  fresh := by
    have fresh := entered.fresh
    rw [first.idAt, List.append_assoc, ← List.map_append]
    exact fresh

/-- The stages of one round of the child loop, for a child that exists. -/
theorem stages (loops : Loops asserts allowed children) {fuel : Nat}
    (deep : children.height ≤ fuel) :
    ∃ parented linked visited absorbed, loop.tree.linkParent this ref = .ok parented ∧
      parented.linkSiblings loop.prevNode ref = .ok linked ∧
      updateSelfRecursively asserts (fuel + 1) ref loop.visitorId linked =
        .ok (loop.visitorId ++ (ref :: children.labels).map loop.tree.idAt, visited) ∧
      visited.absorbFocusable this ref = .ok absorbed ∧
      Traversed allowed (loop.prevNode.toList ++ [ref]) loop.tree linked ∧
      Traversed allowed children.labels linked visited ∧ Relinked [] visited absorbed := by
  have walkable := entered.walkable
  have here : ref ∈ (Forest.cons ref children siblings).labels := by simp
  obtain ⟨node, found, -⟩ := exists_of_existsAt (walkable.exist ref here)
  obtain ⟨parented, linked, toParent, toSiblings, first⟩ :=
    link_spec found (walkable.within ref here) entered.live entered.thisAllowed entered.prevLive
      entered.prevAllowed entered.prevWithin (fun prev => entered.prevApart ref prev here)
      (walkable.parents ref here node found)
  have enterable := entered.linked first
  obtain ⟨visited, ran, second⟩ := updateSelfRecursively_spec loops enterable.walkable
    enterable.exist enterable.roots enterable.live enterable.refAllowed enterable.fresh deep
  obtain ⟨absorbed, finished, third⟩ := absorbFocusable_spec
    (by rw [second.isLive, first.isLive]; exact isLive_iff.mpr ⟨node, found⟩)
    (by rw [second.isLive, first.isLive]; exact entered.live)
  rw [first.idAt] at ran
  exact ⟨parented, linked, visited, absorbed, toParent, toSiblings, ran, finished, first, second,
    third⟩

end Entered

/-- One round of the child loop, for a child that exists. -/
theorem visitChild_spec (loops : Loops asserts allowed children)
    {this : NodeRef} {loop : ChildLoop}
    (entered : Entered allowed this loop (.cons ref children siblings))
    {fuel : Nat} (deep : children.height ≤ fuel) :
    ∃ after, visitChild (updateSelfRecursively asserts (fuel + 1)) this loop ref = .ok {
        tree := after
        visitorId := loop.visitorId ++ (ref :: children.labels).map loop.tree.idAt
        prevNode := some ref } ∧
      Traversed allowed (loop.prevNode.toList ++ ref :: children.labels) loop.tree after := by
  obtain ⟨node, found, exist⟩ := exists_of_existsAt (entered.walkable.exist ref (by simp))
  obtain ⟨parented, linked, visited, absorbed, toParent, toSiblings, ran, finished, first, second,
    third⟩ := entered.stages loops deep
  refine ⟨absorbed, ?_, ?_⟩
  · rw [visitChild, deref_of_heap found]
    simp only [Fault.ok_bind, exist, Bool.not_true, Bool.false_eq_true, if_false, toParent,
      toSiblings, ran, finished, Fault.pure_eq]
  · have all := (first.trans second).trans (.of_relinked third)
    rwa [List.append_nil, List.append_assoc, List.singleton_append] at all

/-- The induction is on the forest: below a root runs the recursive call, beside
it the rest of the loop. -/
theorem loops (asserts : Bool) (allowed : NodeRef → Prop) (forest : Forest NodeRef) :
    Loops asserts allowed forest := by
  induction forest with
  | empty =>
    intro fuel this loop refs entered _ roots live
    refine ⟨loop, foldlM_skip live ?_, by simp, .refl _ loop.tree, ?_⟩
    · exact List.filter_eq_nil_iff.mp roots
    · intro label member
      exact entered.prevWithin label (by simpa using member)
  | cons root children siblings below beside =>
    intro fuel this loop refs entered deep roots live
    obtain ⟨skipped, rest, rfl, absent, -, roots⟩ := List.filter_eq_cons_iff.mp roots
    simp only [Forest.height, max_le_iff] at deep
    obtain ⟨fuel, rfl⟩ : ∃ smaller, fuel = smaller + 1 := ⟨fuel - 1, by omega⟩
    have shallower : children.height ≤ fuel := by omega
    obtain ⟨visited, ran, first⟩ := visitChild_spec below entered shallower
    obtain ⟨final, looped, met, second⟩ := beside (entered.beyond first) deep.2
      (by rw [first.existsAt]; exact roots)
      (by rw [first.isLive]; exact fun ref member => live ref (by simp [member]))
    refine ⟨final, ?_, ?_, ?_⟩
    · rw [List.foldlM_append, foldlM_skip (fun ref member => live ref (by simp [member])) absent,
        Fault.ok_bind, List.foldlM_cons, ran, Fault.ok_bind]
      exact looped
    · rw [met, first.idAt, List.append_assoc, ← List.map_append]
      rfl
    · refine ⟨(first.trans second).toRelinked.subset ?_, ?_⟩
      · intro label member
        simp only [Option.toList_some, Forest.labels_cons, List.mem_append, List.mem_cons,
          List.not_mem_nil, or_false] at member ⊢
        tauto
      · intro label member
        apply (first.trans second).links
        simp only [Option.toList_some, Forest.labels_cons, List.mem_append, List.mem_cons,
          List.not_mem_nil, or_false] at member ⊢
        tauto

end SemanticsTree

end FlutterEngine.Ohos
