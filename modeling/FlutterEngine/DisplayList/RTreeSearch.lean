import FlutterEngine.DisplayList.RTreeShape

/-!
# Searching is a linear scan

`search` answers what a scan of the tracked rectangles in the order of the constructor
answers, as long as every index is an `int`. The index one past the children of the
root is the largest that is read; when it is not an `int`, a rectangle is not found.
-/

namespace FlutterEngine.DisplayList.DlRTree

variable {Rect : Type} (skia : SkRects Rect)

/-! ## The linear scan -/

/-- The rectangles to track, each with its index in the array. -/
def tracked (rects : List Rect) (ids : Option (Nat → Int)) (p : Int → Bool) : List (Rect × Nat) :=
  rects.zipIdx.filter fun (rect, index) => isTracked skia ids p rect index

/-- The places of those rectangles that share an area with the query. -/
def linearScan (query : Rect) (rects : List Rect) : List Nat :=
  (List.range rects.length).filter fun index =>
    !skia.isEmpty query && rects[index]?.any fun rect => skia.intersects rect query

/-- The tree answers like a scan of the tracked rectangles. -/
structure ScansLinearly (rects : List (Rect × Nat)) (ids : Option (Nat → Int)) (invalidId : Int)
    (tree : DlRTree Rect) : Prop where
  search : ∀ query results,
    tree.search skia query results = some (results ++ linearScan skia query (rects.map Prod.fst))
  ordered : ∀ query found, tree.search skia query [] = some found → found.Pairwise (· < ·)
  bounds : ∀ (index : Nat) rect position, rects[index]? = some (rect, position) →
    tree.bounds skia index = rect
  id : ∀ (index : Nat) rect position, rects[index]? = some (rect, position) →
    tree.id index = (ids.map fun ids => ids position).getD invalidId

variable {skia}

theorem linearScan_pairwise (query : Rect) (rects : List Rect) :
    (linearScan skia query rects).Pairwise (· < ·) :=
  List.pairwise_lt_range.filter _

variable (skia) in
theorem leaves_eq_map (rects : List Rect) (ids : Option (Nat → Int)) (p : Int → Bool)
    (invalidId : Int) :
    leaves skia rects ids p invalidId = (tracked skia rects ids p).map fun (rect, index) =>
      ⟨rect, .id ((ids.map fun ids => ids index).getD invalidId)⟩ := by
  unfold leaves tracked
  induction rects.zipIdx with
  | nil => rfl
  | cons entry rest ih =>
    obtain ⟨rect, index⟩ := entry
    cases isLeaf : isTracked skia ids p rect index with
    | false => simpa [isLeaf] using ih
    | true => simpa [isLeaf] using ih

theorem tracked_filled {rects : List Rect} {ids : Option (Nat → Int)} {p : Int → Bool}
    {entry : Rect × Nat} (listed : entry ∈ tracked skia rects ids p) :
    skia.isEmpty entry.1 = false := by
  have isTracked := (List.mem_filter.mp listed).2
  simp only [DlRTree.isTracked, Bool.and_eq_true, Bool.not_eq_true'] at isTracked
  exact isTracked.1

/-! ## Below a parent -/

section Search

variable {tree : DlRTree Rect} {query : Rect}

theorem toInt_of_lt {value : Nat} (small : value < 2 ^ 31) : toInt value = value := by
  unfold toInt
  rw [BitVec.toInt_ofNat']
  apply Int.bmod_eq_of_le <;> omega

theorem nodeAt_natCast (index : Nat) : tree.nodeAt index = tree.nodes[index]? := by
  simp [nodeAt]

/-- Whether the query hits the bounds of this node. -/
def hits (skia : SkRects Rect) (tree : DlRTree Rect) (query : Rect) (index : Nat) : Bool :=
  tree.nodes[index]?.any fun node => skia.intersects node.bounds query

/-- The next child, then the others. -/
theorem searchChildren_of_found {start stop : Nat} {node : Node Rect} {results : List Nat}
    (search : Node Rect → List Nat → Option (List Nat)) (inside : start < stop)
    (found : tree.nodes[start]? = some node) :
    searchChildren skia tree query search start (stop - start) results =
      (if skia.intersects node.bounds query then
          if start < tree.leafCount then some (results ++ [start]) else search node results
        else some results).bind
          (searchChildren skia tree query search (start + 1 : Nat) (stop - (start + 1))) := by
  have remaining : stop - start = stop - (start + 1) + 1 := by omega
  rw [remaining, searchChildren, nodeAt_natCast, found]
  simp only [Option.bind_eq_bind, Option.bind_some, Int.ofNat_lt, Int.toNat_natCast]
  by_cases hit : skia.intersects node.bounds query = true
  · by_cases leaf : start < tree.leafCount
    · simp only [if_pos hit, if_pos leaf]
      rfl
    · simp only [if_pos hit, if_neg leaf]
      rfl
  · simp only [if_neg hit]
    rfl

/-- Searching an internal node searches its children. -/
theorem searchNode_child (fuel index count : Nat) (bounds : Rect) (results : List Nat) :
    searchNode skia tree query (fuel + 1) ⟨bounds, .child index count⟩ results =
      searchChildren skia tree query (searchNode skia tree query fuel) (toInt index)
        (toInt (index + count) - toInt index).toNat results := rfl

/-- Nothing is added below a node whose children end at a negative number. -/
theorem searchNode_wrapped {index count : Nat} {bounds : Rect} (wraps : toInt (index + count) < 0)
    (fuel : Nat) (results : List Nat) :
    searchNode skia tree query fuel ⟨bounds, .child index count⟩ results = some results ∨
      searchNode skia tree query fuel ⟨bounds, .child index count⟩ results = none := by
  cases fuel with
  | zero => exact .inr rfl
  | succ fuel =>
    rw [searchNode_child]
    cases remaining : (toInt (index + count) - toInt index).toNat with
    | zero => exact .inl rfl
    | succ remaining =>
      have outside : tree.nodeAt (toInt index) = none := if_neg (by omega)
      right
      rw [searchChildren, outside]
      rfl

/-- Searching the nodes of a range appends the leaves below them that the query hits. -/
theorem searchChildren_spec {start stop fuel : Nat} {all : List Nat}
    (spans : Spans skia tree.nodes tree.leafCount start stop all)
    (filled : skia.isEmpty query = false) (deep : stop ≤ fuel) (small : stop ≤ 2 ^ 31)
    (results : List Nat) :
    searchChildren skia tree query (searchNode skia tree query fuel) start (stop - start) results =
      some (results ++ all.filter (hits skia tree query)) := by
  induction spans generalizing fuel results with
  | nil start => simp [searchChildren]
  | @leaf start stop node rest below found filledNode others ih =>
    have inside := others.le
    have same : hits skia tree query start = skia.intersects node.bounds query := by
      simp [hits, found]
    rw [searchChildren_of_found _ (by omega) found, if_pos below, List.filter_cons, same]
    cases skia.intersects node.bounds query with
    | false => exact ih deep small results
    | true => simpa using ih deep small (results ++ [start])
  | @parent start stop index count bounds inner rest internal found filledBounds before encloses
      children others childrenIh ih =>
      have inside := others.le
      rw [searchChildren_of_found _ (by omega) found, if_neg (Nat.not_lt.mpr internal), List.filter_append]
      cases hit : skia.intersects bounds query with
      | false =>
        -- A leaf that the query hits below a parent makes it hit the parent.
        have nothing : inner.filter (hits skia tree query) = [] := by
          rw [List.filter_eq_nil_iff]
          intro leaf listed hitsLeaf
          obtain ⟨node, foundNode, around⟩ := children.encloses_leaves encloses leaf listed
          have hitNode : skia.intersects node.bounds query = true := by
            simpa [hits, foundNode] using hitsLeaf
          rw [around.2.2 query filled hitNode] at hit
          cases hit
        rw [nothing]
        exact ih deep small results
      | true =>
        obtain ⟨fuel, rfl⟩ := Nat.exists_eq_add_of_le' (by omega : 1 ≤ fuel)
        have width : ((index + count : Nat) - (index : Int)).toNat = index + count - index := by
          omega
        have below := childrenIh (by omega : index + count ≤ fuel) (by omega) results
        rw [if_pos rfl, searchNode_child, toInt_of_lt (by omega), toInt_of_lt (by omega), width,
          below, ← List.append_assoc]
        exact ih deep small _

end Search

/-! ## The constructed tree -/

/-- Leaves on their own span themselves. -/
theorem spans_leaves {nodes : List (Node Rect)} {leafCount : Nat} (start count : Nat)
    (whole : start + count = leafCount)
    (filled : ∀ index, index < leafCount →
      ∃ node, nodes[index]? = some node ∧ skia.isEmpty node.bounds = false) :
    Spans skia nodes leafCount start leafCount (List.range' start count) := by
  induction count generalizing start with
  | zero =>
    obtain rfl : start = leafCount := whole
    exact .nil start
  | succ count ih =>
    obtain ⟨node, found, nodeFilled⟩ := filled start (by omega)
    exact .leaf (by omega) found nodeFilled (ih (start + 1) (by omega))

/-- What the constructor makes of the rectangles: a last node above all leaves, and the
leaves in front. -/
structure Built (skia : SkRects Rect) (rects : List (Rect × Nat)) (ids : Option (Nat → Int))
    (invalidId : Int) (tree : DlRTree Rect) : Prop where
  leafCount : tree.leafCount = rects.length
  invalid : tree.invalidId = invalidId
  length : tree.nodes.length = totalNodeCount rects.length
  found : ∀ (index : Nat) rect position, rects[index]? = some (rect, position) →
    tree.nodes[index]? = some ⟨rect, .id ((ids.map fun ids => ids position).getD invalidId)⟩
  spans : 0 < rects.length → Spans skia tree.nodes rects.length (tree.nodes.length - 1)
    tree.nodes.length (List.range rects.length)
  root : 1 < rects.length → LastParent tree.nodes (tree.nodes.length - 1) (tree.nodes.length - 1)

variable (skia) in
theorem ofRects_spec (rects : List Rect) (ids : Option (Nat → Int)) (p : Int → Bool)
    (invalidId : Int) :
    ∃ tree, ofRects skia rects ids p invalidId = some tree ∧
      Built skia (tracked skia rects ids p) ids invalidId tree := by
  have sameLeaves := leaves_eq_map skia rects ids p invalidId
  have filled := fun entry => @tracked_filled _ skia rects ids p entry
  generalize tracked skia rects ids p = entries at sameLeaves filled
  unfold ofRects
  simp only [sameLeaves, List.length_map]
  generalize nodesEq : entries.map _ ++ List.replicate _ _ = nodes
  have length : nodes.length = totalNodeCount entries.length := by
    have room := le_countGenerations entries.length entries.length
    rw [← nodesEq, List.length_append, List.length_map, List.length_replicate, totalNodeCount]
    omega
  have found : ∀ (index : Nat) rect position, entries[index]? = some (rect, position) →
      nodes[index]? = some ⟨rect, .id ((ids.map fun ids => ids position).getD invalidId)⟩ := by
    intro index rect position listed
    have inside := (List.getElem?_eq_some_iff.mp listed).1
    rw [← nodesEq, List.getElem?_append_left (by rwa [List.length_map]), List.getElem?_map, listed]
    rfl
  rcases Nat.eq_zero_or_pos entries.length with empty | positive
  · obtain rfl := List.eq_nil_of_length_eq_zero empty
    refine ⟨⟨nodes, 0, invalidId⟩, ?_, rfl, rfl, length, found, ?_, ?_⟩
    · rw [buildGenerations, dif_neg (by simp)]
      rfl
    · exact fun some => absurd some (Nat.lt_irrefl 0)
    · exact fun several => absurd several (Nat.not_lt_zero 1)
  · have spans : Spans skia nodes entries.length 0 (0 + entries.length)
        (List.range entries.length) := by
      rw [List.range_eq_range', Nat.zero_add]
      apply spans_leaves 0 entries.length (Nat.zero_add _)
      intro index inside
      refine ⟨_, found index _ _ (List.getElem?_eq_getElem inside), ?_⟩
      exact filled _ (List.getElem_mem inside)
    obtain ⟨final, builds, finalLength, kept, finalSpans, last⟩ :=
      buildGenerations_spec 0 entries.length positive spans (by omega)
        (by rw [length, Nat.zero_add]; rfl)
    refine ⟨⟨final, entries.length, invalidId⟩, by rw [builds]; rfl, rfl, rfl,
      finalLength.trans length, ?_, ?_, ?_⟩
    · intro index rect position listed
      have inside := (List.getElem?_eq_some_iff.mp listed).1
      rw [kept index (by omega)]
      exact found index rect position listed
    · intro _
      simp only [finalLength]
      exact finalSpans
    · intro several
      simp only [finalLength]
      exact last several

namespace Built

variable {rects : List (Rect × Nat)} {ids : Option (Nat → Int)} {invalidId : Int}
  {tree : DlRTree Rect}

section

variable (built : Built skia rects ids invalidId tree)

include built

/-- The leaves hit are those the scan finds. -/
theorem filter_hits {query : Rect} (filled : skia.isEmpty query = false) :
    (List.range rects.length).filter (hits skia tree query) =
      linearScan skia query (rects.map Prod.fst) := by
  rw [linearScan, List.length_map]
  apply List.filter_congr
  intro index listed
  have inside := List.mem_range.mp listed
  have found := built.found index _ _ (List.getElem?_eq_getElem inside)
  simp [hits, found, inside, filled]

theorem length_pos (some : 0 < rects.length) :
    rects.length ≤ tree.nodes.length ∧ 0 < tree.nodes.length := by
  have fewer := le_countGenerations rects.length rects.length
  rw [built.length, totalNodeCount]
  omega

/-- Only a single node is a leaf and the root. -/
theorem single_iff (some : 0 < rects.length) :
    tree.nodes.length = 1 ↔ tree.nodes.length - 1 < tree.leafCount := by
  rw [built.leafCount, built.length, totalNodeCount]
  by_cases several : 1 < rects.length
  · have parents := (familyCount_lt several).1
    have more := le_countGenerations (familyCount rects.length)
      (rects.length + familyCount rects.length)
    rw [countGenerations_several several]
    omega
  · rw [countGenerations_single several]
    omega

/-- The search treats the last node like a child. -/
theorem search_root (some : 0 < rects.length)
    {query : Rect} (filled : skia.isEmpty query = false) (results : List Nat) :
    tree.search skia query results =
      searchChildren skia tree query (searchNode skia tree query tree.nodes.length)
        (tree.nodes.length - 1 : Nat) (tree.nodes.length - (tree.nodes.length - 1)) results := by
  have positive := (built.length_pos some).2
  have single := built.single_iff some
  obtain ⟨root, found, -⟩ := (built.spans some).found (by omega)
  have last : tree.nodes.getLast? = Option.some root := List.getLast?_eq_getElem?.trans found
  have done : tree.nodes.length - (tree.nodes.length - 1 + 1) = 0 := by omega
  rw [searchChildren_of_found _ (by omega) found, done, search, filled,
    if_neg Bool.false_ne_true]
  simp only [last]
  by_cases hit : skia.intersects root.bounds query = true
  · by_cases one : tree.nodes.length = 1
    · rw [if_pos hit, if_pos hit, if_pos one, if_pos (single.mp one), one]
      rfl
    · rw [if_pos hit, if_pos hit, if_neg one, if_neg (mt single.mpr one)]
      cases searchNode skia tree query tree.nodes.length root results <;> rfl
  · rw [if_neg hit, if_neg hit]
    rfl

/-- A tree whose indices are `int`s answers as the scan does. -/
theorem search_eq
    (small : totalNodeCount rects.length ≤ 2 ^ 31) (query : Rect) (results : List Nat) :
    tree.search skia query results =
      some (results ++ linearScan skia query (rects.map Prod.fst)) := by
  cases filled : skia.isEmpty query with
  | true => simp [search, linearScan, filled]
  | false =>
    rw [← built.filter_hits filled]
    rcases Nat.eq_zero_or_pos rects.length with none | some
    · have length := built.length
      rw [none, totalNodeCount, countGenerations_single (by omega)] at length
      have noNodes := List.eq_nil_of_length_eq_zero length
      simp [search, filled, none, noNodes]
    · have spans := built.spans some
      rw [← built.leafCount] at spans
      rw [built.search_root some filled, ← built.leafCount]
      exact searchChildren_spec spans filled (Nat.le_refl _) (built.length ▸ small) results

/-- What the constructor placed can be read back. -/
theorem read_eq {index : Nat} {rect : Rect}
    {position : Nat} (listed : rects[index]? = some (rect, position)) :
    tree.bounds skia index = rect ∧
      tree.id index = (ids.map fun ids => ids position).getD invalidId := by
  have inside := (List.getElem?_eq_some_iff.mp listed).1
  have isLeaf : tree.isLeafIndex index = true := by
    simp [isLeafIndex, built.leafCount, inside]
  have found := built.found index rect position listed
  constructor
  · simp [bounds, isLeaf, found]
  · simp [DlRTree.id, isLeaf, found]

theorem scansLinearly (small : totalNodeCount rects.length ≤ 2 ^ 31) :
    ScansLinearly skia rects ids invalidId tree where
  search := built.search_eq small
  ordered query found searched := by
    rw [built.search_eq small] at searched
    cases searched
    exact linearScan_pairwise query _
  bounds _ _ _ listed := (built.read_eq listed).1
  id _ _ _ listed := (built.read_eq listed).2

end

/-! ## Indices past `int` -/

/-- The last node encloses every leaf. -/
theorem root_encloses (built : Built skia rects ids invalidId tree) {leaf : Nat}
    (inside : leaf < rects.length) :
    ∃ root node, tree.nodes[tree.nodes.length - 1]? = some root ∧
      tree.nodes[leaf]? = some node ∧ skia.Encloses root.bounds node.bounds := by
  have some : 0 < rects.length := by omega
  have positive := (built.length_pos some).2
  have spans := built.spans some
  obtain ⟨root, found, filled⟩ := spans.found (by omega)
  have last : ∀ sibling node, tree.nodes.length - 1 ≤ sibling → sibling < tree.nodes.length →
      tree.nodes[sibling]? = Option.some node → skia.Encloses root.bounds node.bounds := by
    intro sibling node least most same
    obtain rfl : sibling = tree.nodes.length - 1 := by omega
    rw [found] at same
    cases same
    exact skia.encloses_refl filled
  obtain ⟨node, foundLeaf, encloses⟩ :=
    spans.encloses_leaves last leaf (List.mem_range.mpr inside)
  exact ⟨root, node, found, foundLeaf, encloses⟩

theorem toInt_of_ge {value : Nat} (large : 2 ^ 31 ≤ value) (inside : value < 2 ^ 32) :
    toInt value = value - 2 ^ 32 := by
  unfold toInt
  rw [BitVec.toInt_ofNat', Int.bmod_def]
  omega

/-- When the index past the last child wraps, the first rectangle is not found. -/
theorem not_scansLinearly (built : Built skia rects ids invalidId tree)
    (isInt : rects.length < 2 ^ 31) (large : 2 ^ 31 < totalNodeCount rects.length) :
    ¬ScansLinearly skia rects ids invalidId tree := by
  intro scans
  have several : 1 < rects.length := by
    by_contra few
    rw [totalNodeCount, countGenerations_single few] at large
    omega
  have some : 0 < rects.length := by omega
  have most := countGenerations_lt rects.length rects.length some
  rw [← totalNodeCount, ← built.length] at most
  rw [← built.length] at large
  obtain ⟨index, bounds, before, found⟩ := built.root several
  obtain ⟨root, node, foundRoot, foundLeaf, encloses⟩ := built.root_encloses some
  rw [found] at foundRoot
  cases foundRoot
  have hitLeaf := skia.intersects_self encloses.1
  have hitRoot := encloses.2.2 _ encloses.1 hitLeaf
  -- The scan finds the first rectangle when it is its own query.
  have listed : 0 ∈ linearScan skia node.bounds (rects.map Prod.fst) := by
    rw [← built.filter_hits encloses.1]
    simp [hits, foundLeaf, hitLeaf, some]
  have searched := scans.search node.bounds []
  have notLeaf := mt (built.single_iff some).mpr (by omega)
  have done : tree.nodes.length - (tree.nodes.length - 1 + 1) = 0 := by omega
  have wraps : toInt (index + (tree.nodes.length - 1 - index)) < 0 := by
    rw [Nat.add_sub_cancel' before.le, toInt_of_ge (by omega) (by omega)]
    omega
  rw [built.search_root some encloses.1, searchChildren_of_found _ (by omega) found, if_pos hitRoot,
    if_neg notLeaf, done] at searched
  rcases searchNode_wrapped wraps tree.nodes.length [] with nothing | fails
  · rw [nothing] at searched
    have same := Option.some.inj searched
    rw [List.nil_append] at same
    rw [← same] at listed
    exact absurd listed List.not_mem_nil
  · rw [fails] at searched
    cases searched

end Built

/-! ## The constructor and the search -/

/-- The constructed tree answers like a linear scan exactly when every index of a node
is an `int`. -/
theorem ofRects_scansLinearly_iff (rects : List Rect) (ids : Option (Nat → Int)) (p : Int → Bool)
    (invalidId : Int) (isInt : rects.length < 2 ^ 31) :
    (∃ tree, ofRects skia rects ids p invalidId = some tree ∧
        ScansLinearly skia (tracked skia rects ids p) ids invalidId tree) ↔
      totalNodeCount (tracked skia rects ids p).length ≤ 2 ^ 31 := by
  obtain ⟨tree, constructed, built⟩ := ofRects_spec skia rects ids p invalidId
  constructor
  · rintro ⟨other, same, scans⟩
    rw [constructed] at same
    cases same
    by_contra large
    refine built.not_scansLinearly ?_ (Nat.lt_of_not_le large) scans
    calc (tracked skia rects ids p).length
      _ ≤ rects.zipIdx.length := List.length_filter_le _ _
      _ = rects.length := List.length_zipIdx
      _ < 2 ^ 31 := isInt
  · intro small
    exact ⟨tree, constructed, built.scansLinearly small⟩

/-- Three rectangles, of which the second is empty. -/
def threeRects : List Binary32Rect :=
  [⟨0, 0, 0x3F800000#32, 0x3F800000#32⟩, ⟨0, 0, 0, 0⟩, ⟨0, 0, 0x40000000#32, 0x40000000#32⟩]

theorem ofRects_scansLinearly_threeRects :
    ∃ tree, ofRects binary32Rects threeRects (some fun index => index) (fun _ => true) (-1) =
        some tree ∧
      ScansLinearly binary32Rects (tracked binary32Rects threeRects (some fun index => index)
        fun _ => true) (some fun index => index) (-1) tree :=
  (ofRects_scansLinearly_iff threeRects (some fun index => index) (fun _ => true) (-1)
    (by decide)).mpr (by
      have few : (tracked binary32Rects threeRects (some fun index => index)
        fun _ => true).length = 2 := by decide
      rw [few, totalNodeCount, countGenerations_several (by decide), countGenerations_single]
      · decide
      · decide)

theorem tracked_replicate {rect : Rect} (filled : skia.isEmpty rect = false) (count : Nat)
    (p : Int → Bool) : (tracked skia (List.replicate count rect) none p).length = count := by
  have all : tracked skia (List.replicate count rect) none p =
      (List.replicate count rect).zipIdx := by
    apply List.filter_eq_self.mpr
    intro entry listed
    have isRect := List.eq_of_mem_replicate (List.fst_mem_of_mem_zipIdx listed)
    simp [isTracked, isRect, filled]
  rw [all, List.length_zipIdx, List.length_replicate]

/-- With as many tracked rectangles as an `int` counts, their parents have larger indices. -/
theorem ofRects_scansLinearly_fails :
    ¬∃ tree, ofRects binary32Rects (List.replicate (2 ^ 31 - 1) ⟨0, 0, 0x3F800000#32, 0x3F800000#32⟩)
        none (fun _ => true) (-1) = some tree ∧
      ScansLinearly binary32Rects (tracked binary32Rects
        (List.replicate (2 ^ 31 - 1) ⟨0, 0, 0x3F800000#32, 0x3F800000#32⟩) none fun _ => true)
        none (-1) tree := by
  have filled : binary32Rects.isEmpty ⟨0, 0, 0x3F800000#32, 0x3F800000#32⟩ = false := by decide
  generalize countEq : 2 ^ 31 - 1 = count
  have counted := tracked_replicate filled count fun _ => true
  obtain ⟨tree, constructed, built⟩ := ofRects_spec binary32Rects
    (List.replicate count ⟨0, 0, 0x3F800000#32, 0x3F800000#32⟩) none (fun _ => true) (-1)
  rintro ⟨other, same, scans⟩
  rw [constructed] at same
  cases same
  refine built.not_scansLinearly ?_ ?_ scans
  · rw [counted]
    omega
  · rw [counted, totalNodeCount, countGenerations_several (by omega)]
    have more := le_countGenerations (familyCount count) (count + familyCount count)
    have parents : 2 ≤ familyCount count := by
      unfold familyCount kMaxChildren
      omega
    omega

end FlutterEngine.DisplayList.DlRTree
