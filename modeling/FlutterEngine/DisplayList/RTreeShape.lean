import FlutterEngine.DisplayList.RTree

/-!
# The shape of the tree

`Spans start stop leaves` says that the nodes from `start` up to `stop` have exactly
these leaves below them, in this order, and that each parent encloses its children.
The constructor turns a generation that spans the leaves into a next one that spans
the same leaves: its counter is back at 0 when the siblings are distributed, so the
parents come out as many as there was room for.
-/

namespace FlutterEngine.DisplayList.DlRTree

variable {Rect : Type} {skia : SkRects Rect}

/-- The nodes of this range have these leaves below them. -/
inductive Spans (skia : SkRects Rect) (nodes : List (Node Rect)) (leafCount : Nat) :
    Nat → Nat → List Nat → Prop where
  | nil (start : Nat) : Spans skia nodes leafCount start start []
  | leaf {start stop : Nat} {node : Node Rect} {rest : List Nat} (below : start < leafCount)
      (found : nodes[start]? = some node) (filled : skia.isEmpty node.bounds = false)
      (others : Spans skia nodes leafCount (start + 1) stop rest) :
      Spans skia nodes leafCount start stop (start :: rest)
  | parent {start stop index count : Nat} {bounds : Rect} {inner rest : List Nat}
      (internal : leafCount ≤ start) (found : nodes[start]? = some ⟨bounds, .child index count⟩)
      (filled : skia.isEmpty bounds = false) (before : index + count ≤ start)
      (encloses : ∀ sibling node, index ≤ sibling → sibling < index + count →
        nodes[sibling]? = some node → skia.Encloses bounds node.bounds)
      (children : Spans skia nodes leafCount index (index + count) inner)
      (others : Spans skia nodes leafCount (start + 1) stop rest) :
      Spans skia nodes leafCount start stop (inner ++ rest)

namespace Spans

variable {nodes : List (Node Rect)} {leafCount start middle stop : Nat} {first rest all : List Nat}

theorem le (spans : Spans skia nodes leafCount start stop all) : start ≤ stop := by
  induction spans with
  | nil start => exact Nat.le_refl start
  | leaf _ _ _ _ ih => omega
  | parent _ _ _ _ _ _ _ _ ih => omega

theorem append (before : Spans skia nodes leafCount start middle first)
    (after : Spans skia nodes leafCount middle stop rest) :
    Spans skia nodes leafCount start stop (first ++ rest) := by
  induction before with
  | nil start => exact after
  | leaf below found filled _ ih => exact .leaf below found filled (ih after)
  | parent internal found filled before encloses children _ _ ih =>
    rw [List.append_assoc]
    exact .parent internal found filled before encloses children (ih after)

variable (spans : Spans skia nodes leafCount start stop all)

include spans

/-- The first node of a range on its own. -/
theorem uncons (nonempty : start < stop) :
    ∃ first rest, Spans skia nodes leafCount start (start + 1) first ∧
      Spans skia nodes leafCount (start + 1) stop rest ∧ all = first ++ rest := by
  cases spans with
  | nil => exact absurd nonempty (Nat.lt_irrefl _)
  | leaf below found filled others => exact ⟨_, _, .leaf below found filled (.nil _), others, rfl⟩
  | parent internal found filled before encloses children others =>
    refine ⟨_ ++ [], _, .parent internal found filled before encloses children (.nil _), others, ?_⟩
    rw [List.append_nil]

/-- The nodes of a range exist and are not empty. -/
theorem found (nonempty : start < stop) :
    ∃ node, nodes[start]? = some node ∧ skia.isEmpty node.bounds = false := by
  cases spans with
  | nil => exact absurd nonempty (Nat.lt_irrefl _)
  | leaf _ found filled _ => exact ⟨_, found, filled⟩
  | parent _ found filled _ _ _ _ => exact ⟨_, found, filled⟩

/-- Only the nodes before the end of the range matter. -/
theorem congr {changed : List (Node Rect)}
    (agree : ∀ index, index < stop → changed[index]? = nodes[index]?) :
    Spans skia changed leafCount start stop all := by
  induction spans with
  | nil start => exact .nil start
  | leaf below found filled others ih =>
    have inside := others.le
    exact .leaf below ((agree _ (by omega)).trans found) filled (ih agree)
  | parent internal found filled before encloses _ others childrenIh ih =>
    have inside := others.le
    refine .parent internal ((agree _ (by omega)).trans found) filled before ?_ ?_ (ih agree)
    · intro sibling node least most same
      rw [agree sibling (by omega)] at same
      exact encloses sibling node least most same
    · apply childrenIh
      intro index inside
      exact agree index (by omega)

/-- What encloses the nodes of a range encloses the leaves below them. -/
theorem encloses_leaves {outer : Rect}
    (siblings : ∀ sibling node, start ≤ sibling → sibling < stop → nodes[sibling]? = some node →
      skia.Encloses outer node.bounds) :
    ∀ leaf ∈ all, ∃ node, nodes[leaf]? = some node ∧ skia.Encloses outer node.bounds := by
  induction spans generalizing outer with
  | nil => exact fun _ listed => absurd listed List.not_mem_nil
  | @leaf start stop node rest below found filled others ih =>
    have inside := others.le
    intro leaf listed
    cases listed with
    | head => exact ⟨node, found, siblings start node (Nat.le_refl _) (by omega) found⟩
    | tail _ listed =>
      apply ih _ leaf listed
      intro sibling node least
      exact siblings sibling node (by omega)
  | @parent start stop index count bounds inner rest internal found filled before encloses children
      others childrenIh ih =>
      have inside := others.le
      have here := siblings start _ (Nat.le_refl _) (by omega) found
      intro leaf listed
      rcases List.mem_append.mp listed with within | after
      · apply childrenIh _ leaf within
        intro sibling node least most same
        exact SkRects.Encloses.trans skia here (encloses sibling node least most same)
      · apply ih _ leaf after
        intro sibling node least
        exact siblings sibling node (by omega)

end Spans

/-! ## Counting -/

theorem countGenerations_several {genCount : Nat} (several : 1 < genCount) (totalNodeCount : Nat) :
    countGenerations genCount totalNodeCount =
      countGenerations (familyCount genCount) (totalNodeCount + familyCount genCount) := by
  rw [countGenerations, dif_pos several]

theorem countGenerations_single {genCount : Nat} (single : ¬1 < genCount) (totalNodeCount : Nat) :
    countGenerations genCount totalNodeCount = totalNodeCount := by
  rw [countGenerations, dif_neg single]

theorem le_countGenerations (genCount totalNodeCount : Nat) :
    totalNodeCount ≤ countGenerations genCount totalNodeCount := by
  induction genCount using Nat.strongRecOn generalizing totalNodeCount with
  | ind genCount ih =>
    by_cases several : 1 < genCount
    · have later := ih _ (familyCount_lt several).2 (totalNodeCount + familyCount genCount)
      rw [countGenerations_several several]
      omega
    · rw [countGenerations_single several]

/-- The ancestors of a generation are fewer than its nodes. -/
theorem countGenerations_lt (genCount totalNodeCount : Nat) (positive : 0 < genCount) :
    countGenerations genCount totalNodeCount < totalNodeCount + genCount := by
  induction genCount using Nat.strongRecOn generalizing totalNodeCount with
  | ind genCount ih =>
    by_cases several : 1 < genCount
    · obtain ⟨parents, fewer⟩ := familyCount_lt several
      have later := ih _ fewer (totalNodeCount + familyCount genCount) parents
      have half : familyCount genCount + familyCount genCount ≤ genCount := by
        unfold familyCount kMaxChildren
        omega
      rw [countGenerations_several several]
      omega
    · rw [countGenerations_single several]
      omega

/-! ## One generation -/

/-- The counter after some siblings: `D` is how far the parents begun are ahead of
their share, less than one parent. -/
structure Counted (genEnd genCount families distributed : Nat) (family : Family Rect) : Prop where
  parents : ∃ begun : Nat, family.parentIndex = genEnd + begun ∧
    family.D = (distributed * families : Nat) - (begun * genCount : Nat)
  ahead : -(genCount : Int) < family.D
  notBehind : family.D ≤ 0

/-- Between two siblings with no parent open: the parents so far have the siblings so
far as children. -/
structure Closed (skia : SkRects Rect) (before : List (Node Rect)) (leafCount genEnd sibling : Nat)
    (all : List Nat) (family : Family Rect) : Prop where
  length : family.nodes.length = before.length
  kept : ∀ index, index < genEnd → family.nodes[index]? = before[index]?
  spans : ∃ done rest, Spans skia family.nodes leafCount genEnd family.parentIndex done ∧
    Spans skia before leafCount sibling genEnd rest ∧ all = done ++ rest

/-- Between two siblings with the last parent open, which has had one at least. -/
structure Open (skia : SkRects Rect) (before : List (Node Rect)) (leafCount genEnd sibling : Nat)
    (all : List Nat) (family : Family Rect) : Prop where
  length : family.nodes.length = before.length
  kept : ∀ index, index < genEnd → family.nodes[index]? = before[index]?
  current : ∃ parent index bounds done inner rest, family.parent = some parent ∧
    family.parentIndex = parent + 1 ∧ genEnd ≤ parent ∧ index < sibling ∧
    family.nodes[parent]? = some ⟨bounds, .child index (sibling - index)⟩ ∧
    skia.isEmpty bounds = false ∧
    (∀ other node, index ≤ other → other < sibling → before[other]? = some node →
      skia.Encloses bounds node.bounds) ∧
    Spans skia family.nodes leafCount genEnd parent done ∧
    Spans skia before leafCount index sibling inner ∧
    Spans skia before leafCount sibling genEnd rest ∧ all = done ++ inner ++ rest

section Generation

variable {before : List (Node Rect)} {leafCount genEnd genCount families distributed sibling : Nat}
  {all : List Nat} {family : Family Rect}

/-- A parent that is due has its place. -/
theorem Counted.room (counted : Counted genEnd genCount families distributed family)
    (remains : distributed < genCount) (due : family.D + families > 0) :
    family.parentIndex < genEnd + families := by
  obtain ⟨begun, next, counter⟩ := counted.parents
  have share : (distributed + 1) * families ≤ genCount * families :=
    Nat.mul_le_mul_right families remains
  rw [Nat.succ_mul] at share
  have less : begun * genCount < families * genCount := by
    rw [Nat.mul_comm families]
    omega
  have fewer := Nat.lt_of_mul_lt_mul_right less
  omega

/-- With all siblings distributed every parent has begun and the counter is back at 0. -/
theorem Counted.complete (counted : Counted genEnd genCount families genCount family) :
    family.parentIndex = genEnd + families ∧ family.D = 0 := by
  obtain ⟨begun, next, counter⟩ := counted.parents
  have ahead := counted.ahead
  have notBehind := counted.notBehind
  rw [Nat.mul_comm genCount families] at counter
  have same : begun = families := by
    rcases Nat.lt_trichotomy begun families with fewer | same | more
    · have share := Nat.mul_le_mul_right genCount (Nat.succ_le_of_lt fewer)
      rw [Nat.succ_mul] at share
      omega
    · exact same
    · have share := Nat.mul_le_mul_right genCount (Nat.succ_le_of_lt more)
      rw [Nat.succ_mul] at share
      omega
  subst same
  omega

/-- The open parent is complete as it stands. -/
theorem Open.closed (opened : Open skia before leafCount genEnd sibling all family)
    (internal : leafCount ≤ genEnd) (inside : sibling ≤ genEnd) :
    Closed skia before leafCount genEnd sibling all family where
  length := opened.length
  kept := opened.kept
  spans := by
    obtain ⟨parent, index, bounds, done, inner, rest, -, next, after, started, found, filled, encloses,
      finished, children, others, same⟩ := opened.current
    have whole : index + (sibling - index) = sibling := by omega
    refine ⟨done ++ inner, rest, ?_, others, same⟩
    rw [next]
    apply finished.append
    rw [← List.append_nil inner]
    refine .parent (by omega) found filled (by omega) ?_ ?_ (.nil _)
    · intro other node least most same
      rw [opened.kept other (by omega)] at same
      exact encloses other node least (by omega) same
    · rw [whole]
      apply children.congr
      intro other below
      exact opened.kept other (by omega)

theorem joinSibling_of_found {parent index count : Nat} {bounds : Rect} {node : Node Rect}
    (current : family.parent = some parent)
    (found : family.nodes[parent]? = some ⟨bounds, .child index count⟩)
    (foundSibling : family.nodes[sibling]? = some node) :
    joinSibling skia sibling family = some { family with
      nodes := family.nodes.set parent ⟨skia.join bounds node.bounds, .child index (count + 1)⟩ } := by
  simp [joinSibling, current, found, foundSibling]

/-- A sibling becomes the first child of a new parent. -/
theorem Closed.open (closed : Closed skia before leafCount genEnd sibling all family)
    (counted : Counted genEnd genCount families distributed family)
    (remains : distributed < genCount) (inside : sibling < genEnd)
    (length : genEnd + families ≤ before.length) (due : family.D + families > 0) :
    ∃ moved next, nextParent skia genCount families sibling family = some moved ∧
      joinSibling skia sibling moved = some next ∧
      next.D = family.D + families - genCount ∧ next.parentIndex = family.parentIndex + 1 ∧
      Open skia before leafCount genEnd (sibling + 1) all next := by
  obtain ⟨done, rest, finished, others, same⟩ := closed.spans
  obtain ⟨own, rest, first, later, rfl⟩ := others.uncons inside
  obtain ⟨node, found, filled⟩ := first.found (Nat.lt_succ_self _)
  have after := finished.le
  have room := counted.room remains due
  have bounded : family.parentIndex < family.nodes.length := by
    rw [closed.length]
    omega
  have encloses := (skia.encloses_join skia.empty filled).1
  have placed : (family.nodes.set family.parentIndex ⟨skia.empty, .child sibling 0⟩)[
      family.parentIndex]? = some ⟨skia.empty, .child sibling 0⟩ := by simp [bounded]
  have foundAfter : (family.nodes.set family.parentIndex ⟨skia.empty, .child sibling 0⟩)[sibling]? =
      some node := by
    rw [List.getElem?_set_ne (by omega), closed.kept sibling inside, found]
  have moves : nextParent skia genCount families sibling family = some {
      nodes := family.nodes.set family.parentIndex ⟨skia.empty, .child sibling 0⟩
      D := family.D + families - genCount
      parentIndex := family.parentIndex + 1
      parent := some family.parentIndex } := by
    rw [nextParent, if_pos due, if_pos bounded]
  refine ⟨_, _, moves, joinSibling_of_found rfl placed foundAfter, rfl, rfl, ?_⟩
  refine ⟨?_, ?_, family.parentIndex, sibling, _, done, own, rest, rfl, rfl, after,
    Nat.lt_succ_self _, ?_, encloses.2.1, ?_, ?_, first, later, ?_⟩
  · simp [closed.length]
  · intro index below
    simp only [List.getElem?_set_ne (by omega : family.parentIndex ≠ index)]
    exact closed.kept index below
  · simp [bounded]
  · intro other child least most same
    obtain rfl : other = sibling := by omega
    rw [found] at same
    cases same
    exact encloses
  · apply finished.congr
    intro index below
    simp only [List.getElem?_set_ne (by omega : family.parentIndex ≠ index)]
  · rw [same, List.append_assoc]

/-- A sibling becomes one more child of the open parent. -/
theorem Open.extend (opened : Open skia before leafCount genEnd sibling all family)
    (inside : sibling < genEnd) (due : ¬family.D + families > 0) :
    ∃ moved next, nextParent skia genCount families sibling family = some moved ∧
      joinSibling skia sibling moved = some next ∧
      next.D = family.D + families ∧ next.parentIndex = family.parentIndex ∧
      Open skia before leafCount genEnd (sibling + 1) all next := by
  obtain ⟨parent, index, bounds, done, inner, rest, current, next, after, started, found, filled,
    encloses, finished, children, others, same⟩ := opened.current
  obtain ⟨own, rest, first, later, rfl⟩ := others.uncons inside
  obtain ⟨node, foundNode, filledNode⟩ := first.found (Nat.lt_succ_self _)
  have bounded : parent < family.nodes.length := (List.getElem?_eq_some_iff.mp found).1
  obtain ⟨enclosesNew, enclosesOld⟩ := skia.encloses_join bounds filledNode
  have foundSibling : family.nodes[sibling]? = some node :=
    (opened.kept sibling inside).trans foundNode
  have count : sibling - index + 1 = sibling + 1 - index := by omega
  refine ⟨{ family with D := family.D + families }, _, ?_,
    joinSibling_of_found current found foundSibling, rfl, rfl, ?_⟩
  · rw [nextParent, if_neg due]
  · refine ⟨?_, ?_, parent, index, _, done, inner ++ own, rest, current, next, after, by omega, ?_,
      enclosesNew.2.1, ?_, ?_, children.append first, later, ?_⟩
    · simp [opened.length]
    · intro other below
      simp only [List.getElem?_set_ne (by omega : parent ≠ other)]
      exact opened.kept other below
    · simp [bounded, count]
    · intro other child least most same
      by_cases last : other = sibling
      · subst last
        rw [foundNode] at same
        cases same
        exact enclosesNew
      · exact enclosesOld _ (encloses other child least (by omega) same)
    · apply finished.congr
      intro other below
      simp only [List.getElem?_set_ne (by omega : parent ≠ other)]
    · rw [same]
      simp

/-- One sibling: counted, and child of an open parent. -/
theorem addSibling_spec (closed : Closed skia before leafCount genEnd sibling all family)
    (counted : Counted genEnd genCount families distributed family)
    (started : family.D + families > 0 ∨ Open skia before leafCount genEnd sibling all family)
    (fewer : families ≤ genCount) (remains : distributed < genCount) (inside : sibling < genEnd)
    (length : genEnd + families ≤ before.length) :
    ∃ moved next, nextParent skia genCount families sibling family = some moved ∧
      joinSibling skia sibling moved = some next ∧
      Counted genEnd genCount families (distributed + 1) next ∧
      Open skia before leafCount genEnd (sibling + 1) all next := by
  obtain ⟨begun, place, counter⟩ := counted.parents
  have ahead := counted.ahead
  have notBehind := counted.notBehind
  by_cases due : family.D + families > 0
  · obtain ⟨moved, next, moves, joins, D, parentIndex, opened⟩ :=
      closed.open counted remains inside length due
    refine ⟨moved, next, moves, joins, ⟨⟨begun + 1, by omega, ?_⟩, by omega, by omega⟩, opened⟩
    rw [D, counter, Nat.succ_mul, Nat.succ_mul]
    omega
  · obtain ⟨moved, next, moves, joins, D, parentIndex, opened⟩ :=
      (started.resolve_left due).extend inside due
    refine ⟨moved, next, moves, joins, ⟨⟨begun, by omega, ?_⟩, by omega, by omega⟩, opened⟩
    rw [D, counter, Nat.succ_mul]
    omega

theorem addSiblings_spec (remaining : Nat)
    (closed : Closed skia before leafCount genEnd sibling all family)
    (counted : Counted genEnd genCount families distributed family)
    (started : family.D + families > 0 ∨ Open skia before leafCount genEnd sibling all family)
    (fewer : families ≤ genCount) (remains : distributed + remaining = genCount)
    (inside : sibling + remaining = genEnd) (internal : leafCount ≤ genEnd)
    (length : genEnd + families ≤ before.length) :
    ∃ final, addSiblings skia genCount families remaining sibling family = some final ∧
      Counted genEnd genCount families genCount final ∧
      Closed skia before leafCount genEnd genEnd all final ∧
      (0 < remaining → Open skia before leafCount genEnd genEnd all final) := by
  induction remaining generalizing sibling distributed family with
  | zero =>
    obtain rfl : distributed = genCount := remains
    obtain rfl : sibling = genEnd := inside
    exact ⟨family, rfl, counted, closed, fun more => absurd more (Nat.lt_irrefl 0)⟩
  | succ remaining ih =>
    obtain ⟨moved, next, moves, joins, countedNext, opened⟩ :=
      addSibling_spec closed counted started fewer (by omega) (by omega) length
    obtain ⟨final, adds, countedFinal, closedFinal, openFinal⟩ :=
      ih (opened.closed internal (by omega)) countedNext (.inr opened) (by omega) (by omega)
    refine ⟨final, ?_, countedFinal, closedFinal, fun _ => ?_⟩
    · rw [addSiblings, moves, Option.bind_eq_bind, Option.bind_some, joins, Option.bind_some]
      exact adds
    · cases remaining with
      | zero =>
        obtain rfl : sibling + 1 = genEnd := inside
        cases adds
        exact opened
      | succ more => exact openFinal (Nat.succ_pos more)

end Generation

/-! ## All generations -/

/-- The last of these nodes has all nodes from some index on as its children. -/
def LastParent (nodes : List (Node Rect)) (stop : Nat) (last : Nat) : Prop :=
  ∃ index bounds, index < stop ∧ nodes[last]? = some ⟨bounds, .child index (stop - index)⟩

/-- The parents of a generation span what it spans, and fill their place exactly. -/
theorem generation_spec {nodes : List (Node Rect)} {leafCount genStart genCount : Nat}
    {all : List Nat} (several : 1 < genCount)
    (spans : Spans skia nodes leafCount genStart (genStart + genCount) all)
    (internal : leafCount ≤ genStart + genCount)
    (length : genStart + genCount + familyCount genCount ≤ nodes.length) :
    ∃ family, addSiblings skia genCount (familyCount genCount) genCount genStart
        { nodes, parentIndex := genStart + genCount } = some family ∧
      family.D = 0 ∧ family.nodes.length = nodes.length ∧
      (∀ index, index < genStart + genCount → family.nodes[index]? = nodes[index]?) ∧
      Spans skia family.nodes leafCount (genStart + genCount)
        (genStart + genCount + familyCount genCount) all ∧
      LastParent family.nodes (genStart + genCount)
        (genStart + genCount + familyCount genCount - 1) := by
  obtain ⟨parents, fewer⟩ := familyCount_lt several
  have closed : Closed skia nodes leafCount (genStart + genCount) genStart all
      { nodes, parentIndex := genStart + genCount } :=
    ⟨rfl, fun _ _ => rfl, [], all, .nil _, spans, rfl⟩
  have counted : Counted (genStart + genCount) genCount (familyCount genCount) 0
      ({ nodes, parentIndex := genStart + genCount } : Family Rect) :=
    ⟨⟨0, rfl, by simp⟩, by simp; omega, Int.le_refl 0⟩
  have due : (0 : Int) + familyCount genCount > 0 := by omega
  obtain ⟨family, adds, countedAll, closedAll, opened⟩ := addSiblings_spec genCount closed counted
    (.inl due) fewer.le (Nat.zero_add genCount) rfl internal length
  obtain ⟨place, counter⟩ := countedAll.complete
  obtain ⟨done, rest, finished, nothing, same⟩ := closedAll.spans
  refine ⟨family, adds, counter, closedAll.length, closedAll.kept, ?_, ?_⟩
  · cases nothing with
    | nil =>
      rw [same, List.append_nil, ← place]
      exact finished
    | leaf _ _ _ others =>
      have past := others.le
      omega
    | parent _ _ _ _ _ _ others =>
      have past := others.le
      omega
  · obtain ⟨parent, index, bounds, -, -, -, -, next, -, started, found, -⟩ :=
      (opened (by omega)).current
    refine ⟨index, bounds, started, ?_⟩
    rw [← place, next]
    exact found

/-- All generations: the last node spans the leaves, which stay in place. -/
theorem buildGenerations_spec {nodes : List (Node Rect)} {leafCount : Nat} {all : List Nat}
    (genStart genCount : Nat) (positive : 0 < genCount)
    (spans : Spans skia nodes leafCount genStart (genStart + genCount) all)
    (internal : leafCount ≤ genStart + genCount)
    (length : nodes.length = countGenerations genCount (genStart + genCount)) :
    ∃ final, buildGenerations skia genStart genCount nodes = some final ∧
      final.length = nodes.length ∧
      (∀ index, index < genStart + genCount → final[index]? = nodes[index]?) ∧
      Spans skia final leafCount (nodes.length - 1) nodes.length all ∧
      (1 < genCount → LastParent final (nodes.length - 1) (nodes.length - 1)) := by
  induction genCount using Nat.strongRecOn generalizing genStart nodes with
  | ind genCount ih =>
    by_cases several : 1 < genCount
    · obtain ⟨parents, fewer⟩ := familyCount_lt several
      rw [countGenerations_several several] at length
      have room := le_countGenerations (familyCount genCount)
        (genStart + genCount + familyCount genCount)
      obtain ⟨family, adds, -, sameLength, kept, spansNext, last⟩ :=
        generation_spec several spans internal (by omega)
      obtain ⟨final, builds, finalLength, finalKept, finalSpans, finalLast⟩ :=
        ih _ fewer (genStart + genCount) parents spansNext (by omega) (sameLength.trans length)
      rw [sameLength] at finalLength finalSpans finalLast
      refine ⟨final, ?_, finalLength, ?_, finalSpans, fun _ => ?_⟩
      · rw [buildGenerations, dif_pos several]
        simp only [adds]
        exact builds
      · intro index below
        rw [finalKept index (by omega), kept index below]
      · by_cases more : 1 < familyCount genCount
        · exact finalLast more
        · obtain ⟨index, bounds, below, found⟩ := last
          rw [countGenerations_single more] at length
          have top : nodes.length - 1 = genStart + genCount := by omega
          rw [buildGenerations, dif_neg more] at builds
          cases builds
          refine ⟨index, bounds, top ▸ below, ?_⟩
          rw [← length] at found
          rw [found, top]
    · obtain rfl : genCount = 1 := by omega
      rw [countGenerations_single several] at length
      refine ⟨nodes, ?_, rfl, fun _ _ => rfl, ?_, fun more => absurd more several⟩
      · rw [buildGenerations, dif_neg several]
      · rw [length, Nat.add_sub_cancel]
        exact spans

end FlutterEngine.DisplayList.DlRTree
