import FlutterEngine.Std.ForestPruning

/-!
# The accessibility tree

`AXTree` of `ax_tree.cc`, as far as `Unserialize` reads and writes the structure of the tree.
`ComputePendingChanges` finds the errors and the nodes that the tree is to have; the second
pass, which gives the tree these nodes, is taken to do so. Observers, cached values and
`node_id_to_clear`, which no update here sets, are left out.
-/

namespace FlutterEngine.Accessibility

/-- `AXNode::kInvalidAXID`. -/
def kInvalidAXID : Int := -1

structure AXNodeData where
  id : Int
  childIds : List Int
deriving DecidableEq, Repr

/-- A node of the tree: its parent, and `child_ids` of its data. -/
structure AXNode where
  parent : Option Int
  childIds : List Int
deriving DecidableEq, Repr

/-- What `error_` says. -/
inductive AXError where
  /-- "%d will not be in the tree and is not the new root" -/
  | notInTree (id : Int)
  /-- "Node %d is already pending for creation, cannot be the new root" -/
  | pendingRoot (id : Int)
  /-- "Node %d has duplicate child id %d" -/
  | duplicateChild (id child : Int)
  /-- "Node %d is already pending for creation, cannot be a new child" -/
  | pendingChild (child : Int)
  /-- "Node %d is not marked for destruction, would be reparented to %d" -/
  | reparented (child id : Int)
  /-- "Tree has no root." -/
  | noRoot
  /-- "Nodes left pending by the update:" -/
  | leftPending
deriving DecidableEq, Repr

/-- `error` is none while `error_` is empty. -/
structure AXTree where
  root : Option Int
  nodes : Int → Option AXNode
  error : Option AXError := none

structure AXTreeUpdate where
  rootId : Int := 0
  nodes : List AXNodeData
deriving DecidableEq, Repr

/-- `lastKnownChildIds` are the child ids of `last_known_data`, none where that is null. -/
structure PendingStructureChanges where
  nodeExists : Bool
  parentNodeId : Option Int
  lastKnownChildIds : Option (List Int)
deriving DecidableEq, Repr

/-- `PendingStructureChanges(node)`. -/
def PendingStructureChanges.ofNode : Option AXNode → PendingStructureChanges
  | none => ⟨false, none, none⟩
  | some node => ⟨true, node.parent, some node.childIds⟩

structure AXTreeUpdateState where
  pendingRootId : Option Int
  data : Int → PendingStructureChanges

namespace AXTreeUpdateState

variable (state : AXTreeUpdateState)

def set (id : Int) (changes : PendingStructureChanges) : AXTreeUpdateState :=
  { state with data := Function.update state.data id changes }

def shouldPendingNodeExistInTree (id : Int) : Bool := (state.data id).nodeExists

def doesPendingNodeRequireInit (id : Int) : Bool :=
  (state.data id).nodeExists && (state.data id).lastKnownChildIds.isNone

def getLastKnownPendingNodeData (id : Int) : List Int :=
  (state.data id).lastKnownChildIds.getD []

def setLastKnownPendingNodeData (newData : AXNodeData) : AXTreeUpdateState :=
  state.set newData.id { state.data newData.id with lastKnownChildIds := some newData.childIds }

/-- None when the node already exists. -/
def incrementPendingCreateNodeCount (id : Int) (parentNodeId : Option Int) :
    Option AXTreeUpdateState :=
  if (state.data id).nodeExists then none
  else some (state.set id { state.data id with nodeExists := true, parentNodeId })

def incrementPendingDestroyNodeCount (id : Int) : AXTreeUpdateState :=
  if (state.data id).nodeExists then
    { state.set id ⟨false, none, none⟩ with
      pendingRootId := if state.pendingRootId = some id then none else state.pendingRootId }
  else state

/-- `MarkNodesForDestructionRecursive`, out of fuel on none. -/
def markSubtreeForDestruction : Nat → AXTreeUpdateState → Int → Option AXTreeUpdateState
  | 0, _, _ => none
  | fuel + 1, state, id =>
    if !state.shouldPendingNodeExistInTree id then some state
    else
      (state.getLastKnownPendingNodeData id).foldlM (markSubtreeForDestruction fuel)
        (state.incrementPendingDestroyNodeCount id)

/-- Result of a computation that may fail or run out of fuel. -/
abbrev Computed (Result : Type) : Type := Option (Except AXError Result)

/-- Create the children of a node that has no data yet. -/
def createChildren (id : Int) : List Int → AXTreeUpdateState → Except AXError AXTreeUpdateState
  | [], state => .ok state
  | child :: children, state =>
    match state.incrementPendingCreateNodeCount child (some id) with
    | none => .error (.pendingChild child)
    | some state => createChildren id children state

/-- Create and destroy the children that two lists do not share. -/
def createOrDestroy (fuel : Nat) (newData : AXNodeData) :
    List Int → AXTreeUpdateState → Computed AXTreeUpdateState
  | [], state => some (.ok state)
  | child :: children, state =>
    if child ∈ newData.childIds then
      if state.shouldPendingNodeExistInTree child then
        some (.error (.reparented child newData.id))
      else
        match state.incrementPendingCreateNodeCount child (some newData.id) with
        | none => some (.error (.pendingChild child))
        | some state => createOrDestroy fuel newData children state
    else
      match state.markSubtreeForDestruction fuel child with
      | none => none
      | some state => createOrDestroy fuel newData children state

/-- `std::set_symmetric_difference` of the sets of two lists, in order. -/
def symmetricDifference (old new : List Int) : List Int :=
  (old.filter (· ∉ new) ++ new.filter (· ∉ old)).dedup.mergeSort

/-- The first child that a list repeats. -/
def findDuplicate (seen : List Int) : List Int → Option Int
  | [] => none
  | child :: children =>
    if child ∈ seen then some child else findDuplicate (child :: seen) children

/-- The new root, when a node that is not in the tree may be it. -/
def createRoot (fuel : Nat) (id : Int) (isNewRoot : Bool) : Computed AXTreeUpdateState :=
  if state.shouldPendingNodeExistInTree id then some (.ok state)
  else if !isNewRoot then some (.error (.notInTree id))
  else
    match state.incrementPendingCreateNodeCount id none with
    | none => some (.error (.pendingRoot id))
    | some state =>
      match state.pendingRootId with
      | none => some (.ok { state with pendingRootId := some id })
      | some root => (state.markSubtreeForDestruction fuel root).map fun state =>
        .ok { state with pendingRootId := some id }

def computePendingChangesToNode (fuel : Nat) (newData : AXNodeData) (isNewRoot : Bool) :
    Computed AXTreeUpdateState :=
  match state.createRoot fuel newData.id isNewRoot with
  | none => none
  | some (.error error) => some (.error error)
  | some (.ok state) =>
    match findDuplicate [] newData.childIds with
    | some child => some (.error (.duplicateChild newData.id child))
    | none =>
      let changed :=
        if state.doesPendingNodeRequireInit newData.id then
          some (createChildren newData.id (newData.childIds.mergeSort) state)
        else
          createOrDestroy fuel newData
            (symmetricDifference (state.getLastKnownPendingNodeData newData.id)
              newData.childIds) state
      changed.map fun result => result.map fun state => state.setLastKnownPendingNodeData newData

end AXTreeUpdateState

namespace AXTree

variable (tree : AXTree)

/-- `GetFromId(id)->data().child_ids`. -/
def childIds (id : Int) : List Int := (tree.nodes id).elim [] AXNode.childIds

/-- The changes of an update, node by node. -/
def computeNodes (fuel : Nat) (rootWillBeCreated : Bool) (rootId : Int) :
    List AXNodeData → AXTreeUpdateState → AXTreeUpdateState.Computed AXTreeUpdateState
  | [], state => some (.ok state)
  | newData :: nodes, state =>
    match state.computePendingChangesToNode fuel newData
      (rootWillBeCreated && newData.id == rootId) with
    | none => none
    | some (.error error) => some (.error error)
    | some (.ok state) => computeNodes fuel rootWillBeCreated rootId nodes state

/-- `AXTreeUpdateState(tree)`, with the pending root id of `ComputePendingChanges`. -/
def updateState : AXTreeUpdateState where
  pendingRootId := tree.root
  data id := .ofNode (tree.nodes id)

def computePendingChanges (fuel : Nat) (update : AXTreeUpdate) :
    AXTreeUpdateState.Computed AXTreeUpdateState :=
  computeNodes fuel (tree.nodes update.rootId).isNone update.rootId update.nodes tree.updateState

/-- The tree that the pending changes describe. -/
def applyChanges (update : AXTreeUpdate) (state : AXTreeUpdateState) : AXTree :=
  let nodes := fun id =>
    if (state.data id).nodeExists then
      some ⟨(state.data id).parentNodeId, (state.data id).lastKnownChildIds.getD []⟩
    else none
  let pending := update.nodes.any fun newData =>
    newData.childIds.any state.doesPendingNodeRequireInit
  { root := state.pendingRootId
    nodes
    error :=
      if state.pendingRootId.isNone then some .noRoot
      else if pending then some .leftPending
      else tree.error }

/-- `Unserialize`. A failed update leaves the nodes as they are; `error_` is never cleared. -/
def unserialize (fuel : Nat) (update : AXTreeUpdate) : Option AXTree :=
  match tree.computePendingChanges fuel update with
  | none => none
  | some (.error error) => some { tree with error := some error }
  | some (.ok state) => some (tree.applyChanges update state)

end AXTree

end FlutterEngine.Accessibility
