import FlutterEngine.DisplayList.SkRect

/-!
# The R-tree of a display list

`DlRTree` of `dl_rtree.cc`: all nodes in one vector, the tracked rectangles first, then
one generation of parents after the other. A node is addressed by its index; using an
address outside the vector, or no parent, is undefined and `none` here. `int`s hold
what they count except where `search` stores an unsigned index in one.
-/

namespace FlutterEngine.DisplayList

open FlutterEngine.Std

/-- The union in a node: what a leaf or what an internal node has. -/
inductive NodeContent where
  | child (index count : Nat)
  | id (id : Int)
deriving DecidableEq, Repr

structure Node (Rect : Type) where
  bounds : Rect
  content : NodeContent

structure DlRTree (Rect : Type) where
  nodes : List (Node Rect)
  leafCount : Nat
  invalidId : Int

namespace DlRTree

def kMaxChildren : Nat := 11

/-- The parents of this many nodes. -/
def familyCount (genCount : Nat) : Nat := (genCount + kMaxChildren - 1) / kMaxChildren

theorem familyCount_lt {genCount : Nat} (several : 1 < genCount) :
    0 < familyCount genCount ∧ familyCount genCount < genCount := by
  unfold familyCount kMaxChildren
  omega

/-- The nodes of this generation's ancestors, added to those counted so far. -/
def countGenerations (genCount totalNodeCount : Nat) : Nat :=
  if several : 1 < genCount then
    have := (familyCount_lt several).2
    countGenerations (familyCount genCount) (totalNodeCount + familyCount genCount)
  else totalNodeCount
termination_by genCount

def totalNodeCount (leafCount : Nat) : Nat := countGenerations leafCount leafCount

section Build

variable {Rect : Type} (skia : SkRects Rect)

/-! ## The constructor -/

/-- Whether the rectangle at this index is tracked. -/
def isTracked (ids : Option (Nat → Int)) (p : Int → Bool) (rect : Rect) (index : Nat) : Bool :=
  !skia.isEmpty rect && ids.all fun ids => p (ids index)

/-- The leaves of the tracked rectangles, in their order. -/
def leaves (rects : List Rect) (ids : Option (Nat → Int)) (p : Int → Bool) (invalidId : Int) :
    List (Node Rect) :=
  rects.zipIdx.filterMap fun (rect, index) =>
    if isTracked skia ids p rect index then
      some ⟨rect, .id ((ids.map fun ids => ids index).getD invalidId)⟩
    else none

/-- The inner loop of the constructor between two siblings. -/
structure Family (Rect : Type) where
  nodes : List (Node Rect)
  D : Int := 0
  parentIndex : Nat
  parent : Option Nat := none

/-- Move on to a new parent when it is due, which has no children yet. -/
def nextParent (genCount familyCount siblingIndex : Nat) (family : Family Rect) :
    Option (Family Rect) :=
  let D := family.D + familyCount
  if D > 0 then
    if family.parentIndex < family.nodes.length then
      some {
        nodes := family.nodes.set family.parentIndex ⟨skia.empty, .child siblingIndex 0⟩
        D := D - genCount
        parentIndex := family.parentIndex + 1
        parent := some family.parentIndex }
    else none
  else some { family with D := D }

/-- Add a sibling to the children of the parent. -/
def joinSibling (siblingIndex : Nat) (family : Family Rect) : Option (Family Rect) := do
  let parentIndex ← family.parent
  let parent ← family.nodes[parentIndex]?
  let sibling ← family.nodes[siblingIndex]?
  match parent.content with
  | .child index count =>
    some { family with
      nodes := family.nodes.set parentIndex
        ⟨skia.join parent.bounds sibling.bounds, .child index (count + 1)⟩ }
  | .id _ => none

/-- Distribute the next siblings. -/
def addSiblings (genCount familyCount : Nat) : (remaining siblingIndex : Nat) → Family Rect →
    Option (Family Rect)
  | 0, _, family => some family
  | remaining + 1, siblingIndex, family => do
      let family ← nextParent skia genCount familyCount siblingIndex family
      let family ← joinSibling skia siblingIndex family
      addSiblings genCount familyCount remaining (siblingIndex + 1) family

/-- Combine this generation into parents, and these in turn. -/
def buildGenerations (genStart genCount : Nat) (nodes : List (Node Rect)) :
    Option (List (Node Rect)) :=
  if several : 1 < genCount then
    have := (familyCount_lt several).2
    let genEnd := genStart + genCount
    match addSiblings skia genCount (familyCount genCount) genCount genStart
        { nodes, parentIndex := genEnd } with
    | none => none
    | some family => buildGenerations genEnd (familyCount genCount) family.nodes
  else some nodes
termination_by genCount

/-- The constructor. Only an array of ids is filtered by the predicate. -/
def ofRects (rects : List Rect) (ids : Option (Nat → Int)) (p : Int → Bool) (invalidId : Int) :
    Option (DlRTree Rect) :=
  let leaves := leaves skia rects ids p invalidId
  let leafCount := leaves.length
  let blank : Node Rect := ⟨skia.empty, .child 0 0⟩
  (buildGenerations skia 0 leafCount
    (leaves ++ List.replicate (totalNodeCount leafCount - leafCount) blank)).map
      fun nodes => ⟨nodes, leafCount, invalidId⟩

end Build

/-! ## Searching -/

section Search

variable {Rect : Type} (skia : SkRects Rect) (tree : DlRTree Rect) (query : Rect)

/-- An unsigned number stored in an `int`. -/
def toInt (value : Nat) : Int := (BitVec.ofNat 32 value).toInt

def nodeAt (i : Int) : Option (Node Rect) := if 0 ≤ i then tree.nodes[i.toNat]? else none

/-- The loop over a parent's children; `search` goes into an internal one. -/
def searchChildren (search : Node Rect → List Nat → Option (List Nat)) :
    Int → (remaining : Nat) → List Nat → Option (List Nat)
  | _, 0, results => some results
  | i, remaining + 1, results => do
      let node ← tree.nodeAt i
      let results ←
        if skia.intersects node.bounds query then
          if i < tree.leafCount then some (results ++ [i.toNat]) else search node results
        else some results
      searchChildren search (i + 1) remaining results

/-- `search` below a parent, at most as deep as the fuel. -/
def searchNode : (fuel : Nat) → Node Rect → List Nat → Option (List Nat)
  | 0, _, _ => none
  | fuel + 1, parent, results =>
    match parent.content with
    | .child index count =>
      let start := toInt index
      let stop := toInt (index + count)
      searchChildren skia tree query (searchNode fuel) start (stop - start).toNat results
    | .id _ => none

/-- `search`: append the leaves the query hits to the results. -/
def search (results : List Nat) : Option (List Nat) :=
  if skia.isEmpty query then some results
  else
    match tree.nodes.getLast? with
    | none => some results
    | some root =>
      if skia.intersects root.bounds query then
        if tree.nodes.length = 1 then some (results ++ [0])
        else searchNode skia tree query tree.nodes.length root results
      else some results

/-- Whether this is the index of a leaf. -/
def isLeafIndex (resultIndex : Int) : Bool := 0 ≤ resultIndex && resultIndex < tree.leafCount

def id (resultIndex : Int) : Int :=
  if tree.isLeafIndex resultIndex then
    match tree.nodes[resultIndex.toNat]? with
    | some ⟨_, .id id⟩ => id
    | _ => tree.invalidId
  else tree.invalidId

def bounds (resultIndex : Int) : Rect :=
  if tree.isLeafIndex resultIndex then
    match tree.nodes[resultIndex.toNat]? with
    | some node => node.bounds
    | none => skia.empty
  else skia.empty

end Search

end DlRTree

end FlutterEngine.DisplayList
