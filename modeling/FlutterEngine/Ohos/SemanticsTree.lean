import FlutterEngine.Ohos.SemanticsNode
import Mathlib.Data.List.AList

/-!
# The OHOS semantics tree

`ohos_semantics_tree.cpp` and `SemanticsNodeExtend::UpdateSelfRecursively`. Nodes
live in a heap and are named by their addresses. Reading a deleted node is a
fault of its own, so that a pointer which outlives its node is seen when it is
used.
-/

namespace FlutterEngine.Ohos

/-- What stops an operation of the tree. -/
inductive Fault where
  /-- A read of a deleted node. -/
  | useAfterFree
  | nullDereference
  /-- A failed `assert`, in a build that has them. -/
  | assertion
  /-- A recursion or a loop that meets more nodes than were ever allocated. -/
  | endless
deriving DecidableEq, Repr

structure SemanticsTree where
  /-- The nodes that are allocated and not yet deleted. -/
  heap : NodeRef → Option SemanticsNodeExtend := fun _ => none
  /-- The next address to allocate. -/
  allocated : NodeRef := 0
  allSemanticsNodes : AList (fun _ : Int => NodeRef) := ∅
  rootNode : Option NodeRef := none
  focusedNode : Option NodeRef := none
  needRequestFocusedNode : Option NodeRef := none
  inputFocusedNode : Option NodeRef := none
  lastInputFocusedNode : Option NodeRef := none
  focusRequestHasSend : Bool := false
  needFindFocusNodeAgain : Bool := false

/-- The cases of `ArkUI_AccessibilityFocusMoveDirection`. -/
inductive FocusMoveDirection where
  | up | down | left | right | forward | backward | invalid
deriving DecidableEq, Repr

/-- `assert`, which a build may leave out. -/
def assertion (asserts condition : Bool) : Except Fault Unit :=
  if asserts && !condition then .error .assertion else .ok ()

namespace SemanticsTree

variable (tree : SemanticsTree)

def deref (ref : NodeRef) : Except Fault SemanticsNodeExtend :=
  match tree.heap ref with
  | none => .error .useAfterFree
  | some node => .ok node

/-- The node behind a pointer that is not expected to be null. -/
def derefPointer (pointer : Option NodeRef) : Except Fault SemanticsNodeExtend :=
  match pointer with
  | none => .error .nullDereference
  | some ref => tree.deref ref

/-- The node behind a pointer, if it is not null. -/
def derefOption (pointer : Option NodeRef) : Except Fault (Option SemanticsNodeExtend) :=
  match pointer with
  | none => .ok none
  | some ref => do return some (← tree.deref ref)

def write (ref : NodeRef) (node : SemanticsNodeExtend) : SemanticsTree :=
  { tree with heap := Function.update tree.heap ref (some node) }

def findNodeById (id : Int) : Except Fault (Option NodeRef) :=
  -- redirect to root node
  let id := if id = -1 then 0 else id
  match tree.allSemanticsNodes.lookup id with
  | none => .ok none
  | some ref => do
      let node ← tree.deref ref
      -- This node is some node's child but was not given by an update.
      return if node.id ≠ id then none else some ref

/-- `new SemanticsNodeExtend()`, stored under its key. -/
def addNode (id : Int) : SemanticsTree :=
  { tree with
    heap := Function.update tree.heap tree.allocated (some {})
    allocated := tree.allocated + 1
    allSemanticsNodes := tree.allSemanticsNodes.insert id tree.allocated }

def getOrAddNode (id : Int) : NodeRef × SemanticsTree :=
  match tree.allSemanticsNodes.lookup id with
  | some ref => (ref, tree)
  | none => (tree.allocated, tree.addNode id)

/-! ## Accessibility focus -/

def setFocused (ref : NodeRef) (focused : Bool) : Except Fault SemanticsTree := do
  let node ← tree.deref ref
  return tree.write ref { node with isAccessibilityFocued := focused }

def clearAccessibilityFocusNode : Except Fault SemanticsTree :=
  match tree.focusedNode with
  | none => .ok tree
  | some ref => do
      let tree ← tree.setFocused ref false
      return { tree with focusedNode := none }

def setAccessibilityFocusNode (id : Int) : Except Fault SemanticsTree := do
  match ← tree.findNodeById id with
  | none => return tree
  | some ref =>
    let tree := { tree with focusedNode := some ref }
    tree.setFocused ref true

def clearIfFocused (ref : NodeRef) : Except Fault SemanticsTree :=
  if tree.focusedNode = some ref then tree.clearAccessibilityFocusNode else .ok tree

/-- `delete node`, after the pointers that `RemoveNode` looks after. -/
def deleteNode (ref : NodeRef) : SemanticsTree :=
  { tree with
    heap := Function.update tree.heap ref none
    needRequestFocusedNode :=
      if tree.needRequestFocusedNode = some ref then none else tree.needRequestFocusedNode }

def removeNode (id : Int) : Except Fault SemanticsTree := do
  match ← tree.findNodeById id with
  | none => return tree
  | some ref =>
    let erased := { tree with allSemanticsNodes := tree.allSemanticsNodes.erase id }
    return (← erased.clearIfFocused ref).deleteNode ref

/-- The destructor of the map's nodes and the reset of every pointer. -/
def clearSemanticsTree : SemanticsTree :=
  { heap := fun ref =>
      if ∃ stored ∈ tree.allSemanticsNodes.entries, stored.2 = ref then none else tree.heap ref
    allocated := tree.allocated }

/-! ## Merging an update -/

/-- The pointer list of a node, refilled from its list of ids. -/
def addChildren (parent : NodeRef) : List Int → SemanticsTree → Except Fault SemanticsTree
  | [], tree => .ok tree
  | id :: ids, tree => do
      let (child, tree) := tree.getOrAddNode id
      let node ← tree.deref parent
      addChildren parent ids (tree.write parent
        { node with childrenInTraversalOrderList := node.childrenInTraversalOrderList ++ [child] })

def becomeRoot (id : Int) (ref : NodeRef) : SemanticsTree :=
  if id = 0 then { tree with rootNode := some ref } else tree

def becomeInputFocused (focused : Bool) (ref : NodeRef) : SemanticsTree :=
  if focused then { tree with inputFocusedNode := some ref } else tree

/-- One round of the first loop of `UpdateWithNodes`; also whether the node is
a visible one with input focus. -/
def mergeNode (node : SemanticsNode) : Except Fault (Bool × SemanticsTree) := do
  let (ref, tree) := tree.getOrAddNode node.id
  let nodeExt := (← tree.deref ref).updateWithNode node
  let tree := (tree.write ref nodeExt).becomeRoot node.id ref
  if !nodeExt.isVisible then return (false, tree)
  let tree := tree.becomeInputFocused nodeExt.isFocused ref
  let tree := tree.write ref { nodeExt with childrenInTraversalOrderList := [] }
  return (nodeExt.isFocused, ← addChildren ref node.childrenInTraversalOrder tree)

/-- The first loop of `UpdateWithNodes`, with `has_focus_node`. -/
def mergeNodes : List SemanticsNode → Bool → SemanticsTree → Except Fault (Bool × SemanticsTree)
  | [], hasFocusNode, tree => .ok (hasFocusNode, tree)
  | node :: nodes, hasFocusNode, tree => do
      let (focused, tree) ← tree.mergeNode node
      mergeNodes nodes (hasFocusNode || focused) tree

/-! ## The traversal -/

/-- The variables of the child loop of `UpdateSelfRecursively`. -/
structure ChildLoop where
  tree : SemanticsTree
  /-- `visitorId`, in the order of insertion. -/
  visitorId : List Int
  prevNode : Option NodeRef

/-- Whether the child's parent pointer leads to a node with this id. -/
def hasParent (child : SemanticsNodeExtend) (id : Int) : Except Fault Bool :=
  match child.parentNode with
  | none => .ok false
  | some ref => do return (← tree.deref ref).id = id

def linkParent (this childRef : NodeRef) : Except Fault SemanticsTree := do
  let child ← tree.deref childRef
  if ← tree.hasParent child (← tree.deref this).id then return tree
  return tree.write childRef { child with parentNode := some this }

def linkNext (prevNode : Option NodeRef) (childRef : NodeRef) : Except Fault SemanticsTree :=
  match prevNode with
  | none => .ok tree
  | some ref => do
      let node ← tree.deref ref
      return tree.write ref { node with nextNode := some childRef }

def linkSiblings (prevNode : Option NodeRef) (childRef : NodeRef) : Except Fault SemanticsTree := do
  let tree ← tree.linkNext prevNode childRef
  let child ← tree.deref childRef
  return tree.write childRef { child with
    previousNode := prevNode
    nextNode := none }

/-- `focusableInSubtree = focusableInSubtree || childNode->focusableInSubtree`. -/
def absorbFocusable (this childRef : NodeRef) : Except Fault SemanticsTree := do
  let child ← tree.deref childRef
  let node ← tree.deref this
  return tree.write this { node with
    focusableInSubtree := node.focusableInSubtree || child.focusableInSubtree }

/-- One round of the child loop around the recursive call. -/
def visitChild
    (recurse : NodeRef → List Int → SemanticsTree → Except Fault (List Int × SemanticsTree))
    (this : NodeRef) (loop : ChildLoop) (childRef : NodeRef) : Except Fault ChildLoop := do
  let child ← loop.tree.deref childRef
  -- Some child is not updated by UpdateSemantics.
  if !child.isExist then return loop
  let tree ← loop.tree.linkParent this childRef
  let tree ← tree.linkSiblings loop.prevNode childRef
  let (visitorId, tree) ← recurse childRef loop.visitorId tree
  let tree ← tree.absorbFocusable this childRef
  return {
    tree := tree
    visitorId := visitorId
    prevNode := some childRef }

def updateSelfRecursively (asserts : Bool) :
    (fuel : Nat) → NodeRef → List Int → SemanticsTree → Except Fault (List Int × SemanticsTree)
  | 0, _, _, _ => .error .endless
  | fuel + 1, this, visitorId, tree => do
      let node ← tree.deref this
      assertion asserts (node.id ∉ visitorId)
      let entered : ChildLoop := {
        tree := tree.write this { node with focusableInSubtree := node.isFocusable }
        visitorId := visitorId ++ [node.id]
        prevNode := none }
      let loop ← node.childrenInTraversalOrderList.foldlM
        (visitChild (updateSelfRecursively asserts fuel) this) entered
      return (loop.visitorId, loop.tree)

/-- The traversal from the root, of which no path is longer than the number of
nodes unless it goes round in a cycle. -/
def visitFromRoot (asserts : Bool) : Except Fault (List Int × SemanticsTree) :=
  match tree.rootNode with
  | none => .ok ([], tree)
  | some root => updateSelfRecursively asserts (tree.allocated + 1) root [] tree

/-- `assert(!root_node_->IsFocusable())`. -/
def assertRoot (asserts : Bool) : Except Fault Unit :=
  match tree.rootNode with
  | none => .ok ()
  | some root => do assertion asserts (!(← tree.deref root).isFocusable)

/-! ## The next accessibility focus -/

/-- Where the focus moves to from a node, or the node itself. -/
def pickNext (currentRef : NodeRef) (current : SemanticsNodeExtend) :
    FocusMoveDirection → Except Fault NodeRef
  | .up => .ok (current.parentNode.getD currentRef)
  | .down => .ok (current.childrenInTraversalOrderList.head?.getD currentRef)
  | .left => .ok (current.previousNode.getD currentRef)
  | .right => .ok (current.nextNode.getD currentRef)
  | .backward => .ok ((current.previousNode.or current.parentNode).getD currentRef)
  | .forward => do
      let candidate ← current.childrenInTraversalOrderList.findM? fun ref => do
        let child ← tree.deref ref
        return child.isExist && child.focusableInSubtree
      return (candidate.or current.nextNode).getD currentRef
  | .invalid => .ok currentRef

/-- The loop of `FindNextFocusNode`. -/
def findFrom (startNode : NodeRef) (direction : FocusMoveDirection) :
    (fuel : Nat) → NodeRef → Except Fault NodeRef
  | 0, _ => .error .endless
  | fuel + 1, currentRef => do
      let current ← tree.deref currentRef
      if direction = .invalid then return currentRef
      let returnRef ← tree.pickNext currentRef current direction
      -- We should not focus on root node or cannot find the next node.
      if some returnRef = tree.rootNode || returnRef = currentRef then return startNode
      if (← tree.deref returnRef).isFocusable then return returnRef
      findFrom startNode direction fuel returnRef

def findNextFocusNode (id : Int) (direction : FocusMoveDirection) :
    Except Fault (Option NodeRef) := do
  match ← tree.findNodeById id with
  | none => return none
  | some startNode => return some (← tree.findFrom startNode direction (tree.allocated + 1) startNode)

/-- Follow a link until a node is accepted or the link is null. -/
def walk (link : SemanticsNodeExtend → Option NodeRef) (accepts : SemanticsNodeExtend → Bool) :
    (fuel : Nat) → Option NodeRef → Except Fault (Option NodeRef)
  | _, none => .ok none
  | 0, some _ => .error .endless
  | fuel + 1, some ref => do
      let node ← tree.deref ref
      if accepts node then return some ref
      walk link accepts fuel (link node)

/-- A node which the focus can move to. -/
def isCandidate (needRemoveIds : List Int) (node : SemanticsNodeExtend) : Bool :=
  node.isExist && node.isFocusable && node.isVisible && node.id ∉ needRemoveIds

/-- An ancestor at which the search upwards stops. -/
def isAncestorCandidate (needRemoveIds : List Int) (node : SemanticsNodeExtend) : Bool :=
  node.id = 0 || node.isFocusable && node.isVisible && node.id ∉ needRemoveIds

def findSibling (needRemoveIds : List Int) (focused : SemanticsNodeExtend) :
    Except Fault (Option NodeRef) := do
  let fuel := tree.allocated + 1
  let parent ← tree.derefPointer focused.parentNode
  if parent.id ∈ needRemoveIds then return none
  -- first find brother
  if let some next ← tree.walk (·.nextNode) (isCandidate needRemoveIds) fuel focused.nextNode then
    return some next
  if let some previous ←
      tree.walk (·.previousNode) (isCandidate needRemoveIds) fuel focused.previousNode then
    return some previous
  -- second find parent's other children
  parent.childrenInTraversalOrderList.findM? fun ref => do
    return isCandidate needRemoveIds (← tree.deref ref)

/-- A brother, another child of the parent or an ancestor of the focused node. -/
def findNear (asserts : Bool) (needRemoveIds : List Int) (focusedRef : NodeRef) :
    Except Fault (Option NodeRef) := do
  let focused ← tree.deref focusedRef
  assertion asserts (focused.parentNode.isSome && some focusedRef ≠ tree.rootNode)
  if let some sibling ← tree.findSibling needRemoveIds focused then return some sibling
  -- last go ancestor
  tree.walk (·.parentNode) (isAncestorCandidate needRemoveIds) (tree.allocated + 1)
    focused.parentNode

/-- The search for a node to focus, from the focused node or else from the root. -/
def findFocus (asserts : Bool) (needRemoveIds : List Int) : Except Fault (Option NodeRef) := do
  let near ← match tree.focusedNode with
    | none => pure none
    | some focusedRef => tree.findNear asserts needRemoveIds focusedRef
  match near with
  | none => tree.findNextFocusNode 0 .forward
  | some ref =>
    if (← tree.deref ref).id = 0 then tree.findNextFocusNode 0 .forward else return some ref

/-- What the search found is requested, unless it is the root again. -/
def requestFocus (found : Option NodeRef) : Except Fault SemanticsTree :=
  match found with
  | none => .ok tree
  | some ref => do
      if (← tree.deref ref).id = 0 then return { tree with needFindFocusNodeAgain := true }
      return { tree with
        needRequestFocusedNode := some ref
        focusRequestHasSend := false
        needFindFocusNodeAgain := false }

def focusedNodeIsDisappear (needRemoveIds : List Int) : Except Fault Bool := do
  match ← tree.derefOption tree.focusedNode with
  | none => return false
  | some focused => return focused.id ∈ needRemoveIds || !focused.isVisible

def requestFocusedNodeNeedUpdate : Except Fault Bool := do
  match ← tree.derefOption tree.needRequestFocusedNode with
  | none => return true
  | some requested => return !requested.isVisible

def updateNextFocusWhenDisappear (asserts : Bool) (needRemoveIds : List Int) :
    Except Fault SemanticsTree := do
  let disappear ← tree.focusedNodeIsDisappear needRemoveIds
  let needUpdate ← tree.requestFocusedNodeNeedUpdate
  if (disappear || tree.needFindFocusNodeAgain) && needUpdate then
    tree.requestFocus (← tree.findFocus asserts needRemoveIds)
  else return tree

/-! ## The update -/

/-- The keys that the traversal did not meet. -/
def needRemoveIds (visitorId : List Int) : List Int :=
  tree.allSemanticsNodes.keys.filter (· ∉ visitorId)

def removeNodes : List Int → SemanticsTree → Except Fault SemanticsTree
  | [], tree => .ok tree
  | id :: ids, tree => do removeNodes ids (← tree.removeNode id)

/-- The tree after the first loop of `UpdateWithNodes`. -/
def mergeUpdate (updates : SemanticsNodeUpdates) : Except Fault (Bool × SemanticsTree) :=
  mergeNodes updates.nodes false { tree with lastInputFocusedNode := tree.inputFocusedNode }

def dropInputFocus (hasFocusNode : Bool) : SemanticsTree :=
  if hasFocusNode then tree else { tree with inputFocusedNode := none }

/-- `UpdateWithNodes`, without the list of the nodes whose element info changed. -/
def updateWithNodes (asserts : Bool) (updates : SemanticsNodeUpdates) :
    Except Fault SemanticsTree := do
  let (hasFocusNode, merged) ← tree.mergeUpdate updates
  let (visitorId, visited) ← merged.visitFromRoot asserts
  visited.assertRoot asserts
  let needRemoveIds := visited.needRemoveIds visitorId
  let refocused ← visited.updateNextFocusWhenDisappear asserts needRemoveIds
  let removed ← removeNodes needRemoveIds refocused
  return removed.dropInputFocus hasFocusNode

end SemanticsTree

end FlutterEngine.Ohos
