import FlutterEngine.Accessibility.AXTree

/-!
# Commits of semantics updates

`CommitUpdates` of `accessibility_bridge.cc`. Of a semantics node only the id and the children
are read here; the events that follow the second update are left out. Assertions are off.
-/

namespace FlutterEngine.Accessibility

structure SemanticsNode where
  id : Int
  childrenInTraversalOrder : List Int
deriving DecidableEq, Repr

/-- The pending updates are listed in the iteration order of their map. -/
structure AccessibilityBridge where
  tree : AXTree
  pendingSemanticsNodeUpdates : List SemanticsNode
  distinct : (pendingSemanticsNodeUpdates.map SemanticsNode.id).Nodup

/-- `find` in the map of pending updates. -/
def findUpdate (updates : List SemanticsNode) (id : Int) : Option SemanticsNode :=
  updates.find? fun node => node.id == id

/-- `erase` in the map of pending updates. -/
def eraseUpdate (updates : List SemanticsNode) (id : Int) : List SemanticsNode :=
  updates.filter fun node => node.id ≠ id

/-- `ConvertFlutterUpdate`. -/
def convertFlutterUpdate (node : SemanticsNode) : AXNodeData where
  id := node.id
  childIds := node.childrenInTraversalOrder

/-! ## The first update -/

/-- Take a child from the data of its previous parent. -/
def removeFromParent (tree : AXTree) (updates : List AXNodeData) (parentId childId : Int) :
    List AXNodeData :=
  let updates :=
    if updates.any fun data => data.id == parentId then updates
    else updates ++ [⟨parentId, tree.childIds parentId⟩]
  updates.map fun data =>
    if data.id = parentId then { data with childIds := data.childIds.erase childId } else data

/-- None where the child has no parent. -/
def removeReparented (tree : AXTree) (node : SemanticsNode) (updates : List AXNodeData)
    (childId : Int) : Option (List AXNodeData) :=
  match tree.nodes childId with
  | none => some updates
  | some child =>
    match child.parent with
    | none => none
    | some parentId =>
      if parentId = node.id then some updates
      else some (removeFromParent tree updates parentId childId)

/-- `updates` of `CreateRemoveReparentedNodesUpdate`. -/
def reparentedUpdates (tree : AXTree) (pending : List SemanticsNode) : Option (List AXNodeData) :=
  pending.foldlM
    (fun updates node => node.childrenInTraversalOrder.foldlM (removeReparented tree node) updates)
    []

/-- `rank` orders the ids as the iteration of the map `updates` does. -/
def createRemoveReparentedNodesUpdate (rank : Int → Nat) (tree : AXTree)
    (pending : List SemanticsNode) : Option (Option AXTreeUpdate) :=
  (reparentedUpdates tree pending).map fun updates =>
    if updates.isEmpty then none
    else some { nodes := updates.mergeSort fun first second => rank first.id ≤ rank second.id }

/-! ## The second update -/

/-- `GetSubTreeList`: the pending updates that are left, and `result`. Out of fuel on none. -/
def getSubTreeList : Nat → SemanticsNode → List SemanticsNode × List SemanticsNode →
    Option (List SemanticsNode × List SemanticsNode)
  | 0, _, _ => none
  | fuel + 1, target, (pending, result) =>
    target.childrenInTraversalOrder.foldlM
      (fun state child =>
        match findUpdate state.1 child with
        | none => some state
        | some node =>
          (getSubTreeList fuel node state).map fun state =>
            (eraseUpdate state.1 child, state.2))
      (pending, result ++ [target])

/-- `results`: the lists, in the order in which they are found. -/
def subTreeLists : Nat → List SemanticsNode → Option (List (List SemanticsNode))
  | 0, _ => none
  | _ + 1, [] => some []
  | fuel + 1, target :: pending =>
    match getSubTreeList (fuel + 1) target (target :: pending, []) with
    | none => none
    | some (pending, subTreeList) =>
      (subTreeLists fuel (eraseUpdate pending target.id)).map fun results =>
        subTreeList :: results

/-- The first update must set the root of the tree. -/
def createUpdate (tree : AXTree) (results : List (List SemanticsNode)) : AXTreeUpdate where
  rootId :=
    if tree.root = some kInvalidAXID then
      ((results.getLast?.bind List.head?).map SemanticsNode.id).getD 0
    else 0
  nodes := results.reverse.flatten.map convertFlutterUpdate

/-- What a commit does: the tree after the first update, the second update when it comes to
that, and what is left. -/
structure Commit where
  removed : AXTree
  submitted : Option AXTreeUpdate
  bridge : AccessibilityBridge

namespace AccessibilityBridge

variable (bridge : AccessibilityBridge)

/-- `CommitUpdates`, from where the nodes have been removed from their old parents. -/
def submitUpdates (fuel : Nat) (tree : AXTree) : Option Commit :=
  match subTreeLists fuel bridge.pendingSemanticsNodeUpdates with
  | none => none
  | some results =>
    (tree.unserialize fuel (createUpdate tree results)).map fun next =>
      ⟨tree, some (createUpdate tree results), next, [], List.nodup_nil⟩

def commitUpdates (fuel : Nat) (rank : Int → Nat) : Option Commit :=
  match createRemoveReparentedNodesUpdate rank bridge.tree bridge.pendingSemanticsNodeUpdates with
  | none => none
  | some none => bridge.submitUpdates fuel bridge.tree
  | some (some removeReparented) =>
    match bridge.tree.unserialize fuel removeReparented with
    | none => none
    | some tree =>
      if tree.error.isSome then some ⟨tree, none, { bridge with tree }⟩
      else bridge.submitUpdates fuel tree

/-- The child lists of the pending updates, applied over the current tree. -/
def applied (id : Int) : List Int :=
  match findUpdate bridge.pendingSemanticsNodeUpdates id with
  | some node => node.childrenInTraversalOrder
  | none => bridge.tree.childIds id

end AccessibilityBridge

end FlutterEngine.Accessibility
