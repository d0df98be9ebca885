import Mathlib.Data.List.Perm.Basic
import FlutterEngine.Accessibility.AccessibilityBridge

/-!
# The order of the updates

`GetSubTreeList` walks the tree of the pending child lists, as far as its nodes are in the map.
So a list has every pending child of its nodes after them, and concatenated in reverse the
lists have every pending node before its pending children, whichever nodes they start from.
-/

namespace FlutterEngine.Accessibility

open FlutterEngine.Std

variable {next : Int → List Int} {forest : Forest Int} {pending : List SemanticsNode} {fuel : Nat}

/-- Of a forest no label comes after one of its successors. -/
theorem pairwise_labels (follows : forest.Follows next) (nodup : forest.labels.Nodup) :
    forest.labels.Pairwise fun earlier later => earlier ∉ next later := by
  induction forest with
  | empty => exact List.Pairwise.nil
  | cons root children siblings below beside =>
    obtain ⟨top, rest⟩ := List.nodup_cons.mp nodup
    obtain ⟨inside, outside, apart⟩ := List.nodup_append.mp rest
    obtain ⟨-, down, along⟩ := follows
    rw [Forest.labels_cons, List.pairwise_cons, List.pairwise_append]
    refine ⟨fun later member successor => ?_, below down inside, beside along outside, ?_⟩
    · obtain here | there := List.mem_append.mp member
      · exact top (List.mem_append_left _ (down.successors here successor))
      · exact top (List.mem_append_right _ (along.successors there successor))
    · intro earlier here later there successor
      exact apart earlier here earlier (along.successors there successor) rfl

/-- An id that is in the map. -/
def isPending (pending : List SemanticsNode) (id : Int) : Bool :=
  pending.any fun node => node.id == id

/-- The updates of a list of ids. -/
structure Collects (pending nodes : List SemanticsNode) (ids : List Int) : Prop where
  ids : nodes.map SemanticsNode.id = ids
  subset : nodes ⊆ pending

/-- The updates whose ids are not in a list. -/
def without (pending : List SemanticsNode) (ids : List Int) : List SemanticsNode :=
  pending.filter fun node => node.id ∉ ids

variable {id : Int} {ids : List Int}

theorem isPending_iff : isPending pending id = true ↔ ∃ node ∈ pending, node.id = id := by
  simp [isPending]

theorem findUpdate_eq_none (missing : isPending pending id = false) :
    findUpdate pending id = none := by
  rw [findUpdate, List.find?_eq_none]
  intro node member same
  have found : isPending pending id = true := List.any_eq_true.mpr ⟨node, member, same⟩
  rw [missing] at found
  cases found

theorem findUpdate_eq_some (found : isPending pending id = true) :
    ∃ node ∈ pending, node.id = id ∧ findUpdate pending id = some node := by
  cases looked : findUpdate pending id with
  | none =>
    obtain ⟨node, member, same⟩ := isPending_iff.mp found
    exact absurd (beq_iff_eq.mpr same) (List.find?_eq_none.mp looked node member)
  | some node =>
    unfold findUpdate at looked
    have same : node.id = id := by simpa using List.find?_some looked
    exact ⟨node, List.mem_of_find?_eq_some looked, same, rfl⟩

theorem isPending_without (kept : id ∉ ids) :
    isPending (without pending ids) id = isPending pending id := by
  rw [Bool.eq_iff_iff, isPending_iff, isPending_iff]
  constructor
  · rintro ⟨node, member, same⟩
    exact ⟨node, (List.mem_filter.mp member).1, same⟩
  · rintro ⟨node, member, same⟩
    exact ⟨node, List.mem_filter.mpr ⟨member, decide_eq_true (same ▸ kept)⟩, same⟩

theorem eraseUpdate_without (pending : List SemanticsNode) (ids : List Int) (id : Int) :
    eraseUpdate (without pending ids) id = without pending (id :: ids) := by
  unfold eraseUpdate without
  rw [List.filter_filter]
  refine List.filter_congr fun node _ => ?_
  simp [not_or]

theorem without_without (pending : List SemanticsNode) (first second : List Int) :
    without (without pending first) second = without pending (first ++ second) := by
  unfold without
  rw [List.filter_filter]
  refine List.filter_congr fun node _ => ?_
  simp [not_or, Bool.and_comm]

theorem keep_isPending_without (kept : ∀ id ∈ forest.labels, id ∉ ids) :
    forest.keep (isPending (without pending ids)) = forest.keep (isPending pending) := by
  induction forest with
  | empty => rfl
  | cons root children siblings below beside =>
    simp only [Forest.labels_cons, List.mem_cons, List.mem_append] at kept
    simp only [Forest.keep, isPending_without (kept root (.inl rfl)),
      below fun id member => kept id (.inr (.inl member)),
      beside fun id member => kept id (.inr (.inr member))]

/-- The loop of `GetSubTreeList` over the children. -/
def visitChildren (fuel : Nat) (children : List Int)
    (state : List SemanticsNode × List SemanticsNode) :
    Option (List SemanticsNode × List SemanticsNode) :=
  children.foldlM
    (fun state child =>
      match findUpdate state.1 child with
      | none => some state
      | some node =>
        (getSubTreeList fuel node state).map fun state => (eraseUpdate state.1 child, state.2))
    state

theorem getSubTreeList_succ (fuel : Nat) (target : SemanticsNode)
    (pending result : List SemanticsNode) :
    getSubTreeList (fuel + 1) target (pending, result) =
      visitChildren fuel target.childrenInTraversalOrder (pending, result ++ [target]) :=
  rfl

/-- The children's lists are the pending part of the forest of the children. -/
theorem visitChildren_spec (enough : forest.height < fuel) (nodup : forest.labels.Nodup)
    (follows : forest.Follows next)
    (children : ∀ node ∈ pending, node.childrenInTraversalOrder = next node.id)
    (result : List SemanticsNode) :
    ∃ nodes, visitChildren fuel forest.roots (pending, result) =
        some (without pending (forest.keep (isPending pending)).labels, result ++ nodes) ∧
      Collects pending nodes (forest.keep (isPending pending)).labels := by
  induction forest generalizing fuel pending result with
  | empty =>
    refine ⟨[], ?_, rfl, List.nil_subset _⟩
    simp [visitChildren, without, Forest.keep]
  | cons root childForest siblings below beside =>
    obtain ⟨top, rest⟩ := List.nodup_cons.mp nodup
    obtain ⟨inside, outside, apart⟩ := List.nodup_append.mp rest
    obtain ⟨here, down, along⟩ := follows
    obtain ⟨deep, wide⟩ := max_lt_iff.mp enough
    obtain ⟨fuel, rfl⟩ := Nat.exists_eq_succ_of_ne_zero (Nat.ne_zero_of_lt enough)
    unfold visitChildren
    rw [Forest.roots_cons, List.foldlM_cons]
    cases found : isPending pending root with
    | false =>
      obtain ⟨nodes, visits, collects⟩ := beside wide outside along children result
      have skipped : (Forest.cons root childForest siblings).keep (isPending pending) =
          siblings.keep (isPending pending) := by simp [Forest.keep, found]
      rw [skipped, findUpdate_eq_none found]
      exact ⟨nodes, visits, collects⟩
    | true =>
      obtain ⟨node, member, rfl, looked⟩ := findUpdate_eq_some found
      obtain ⟨nodes, visits, collects⟩ :=
        below (Nat.succ_lt_succ_iff.mp deep) inside down children (result ++ [node])
      let kept := (childForest.keep (isPending pending)).labels
      have notBeside : ∀ id ∈ siblings.labels, id ∉ node.id :: kept := by
        intro id among gone
        obtain same | early := List.mem_cons.mp gone
        · exact top (List.mem_append_right _ (same ▸ among))
        · exact apart id ((Forest.labels_keep_sublist _ _).subset early) id among rfl
      obtain ⟨later, visitsLater, collectsLater⟩ := beside wide outside along
        (fun other (member : other ∈ without pending (node.id :: kept)) =>
          children other (List.mem_filter.mp member).1)
        (result ++ [node] ++ nodes)
      rw [keep_isPending_without notBeside, without_without] at visitsLater
      rw [keep_isPending_without notBeside] at collectsLater
      have labels : ((Forest.cons node.id childForest siblings).keep (isPending pending)).labels =
          node.id :: kept ++ (siblings.keep (isPending pending)).labels := by
        simp [Forest.keep, found, kept]
      refine ⟨node :: nodes ++ later, ?_, ?_, ?_⟩
      · rw [looked, labels]
        change ((getSubTreeList (fuel + 1) node (pending, result)).map fun state =>
          (eraseUpdate state.1 node.id, state.2)) >>= visitChildren (fuel + 1) siblings.roots = _
        rw [getSubTreeList_succ, children node member, here, visits, Option.map_some,
          eraseUpdate_without]
        change visitChildren (fuel + 1) siblings.roots _ = _
        rw [visitsLater]
        simp
      · rw [labels, List.map_append, List.map_cons, collects.ids, collectsLater.ids]
      · refine List.append_subset.mpr ⟨List.cons_subset.mpr ⟨member, collects.subset⟩, ?_⟩
        exact List.Subset.trans collectsLater.subset List.filter_sublist.subset

/-- What the list of a target has: no node after one of its children, and the pending children
of all its nodes. -/
structure IsSubTreeList (next : Int → List Int) (pending nodes : List SemanticsNode)
    (ids : List Int) : Prop where
  collects : Collects pending nodes ids
  nodup : ids.Nodup
  pairwise : ids.Pairwise fun earlier later => earlier ∉ next later
  closed : ∀ id ∈ ids, ∀ child ∈ next id, isPending pending child = true → child ∈ ids

/-- The list of a target is the target and the pending part of the forest below it. -/
theorem getSubTreeList_spec (enough : forest.height < fuel) (nodup : forest.labels.Nodup)
    (follows : forest.Follows next)
    (children : ∀ node ∈ pending, node.childrenInTraversalOrder = next node.id)
    {target : SemanticsNode} (member : target ∈ pending) (inside : target.id ∈ forest.labels) :
    ∃ nodes ids, getSubTreeList fuel target (pending, []) =
        some (without pending ids, target :: nodes) ∧
      IsSubTreeList next pending (target :: nodes) (target.id :: ids) := by
  obtain ⟨fuel, rfl⟩ := Nat.exists_eq_succ_of_ne_zero (Nat.ne_zero_of_lt enough)
  have below := follows.childForest target.id
  have nodupBelow := Forest.nodup_childForest nodup target.id
  have roots := follows.roots_childForest inside
  have deep : (forest.childForest target.id).height < fuel :=
    Nat.lt_of_succ_le ((Forest.height_childForest inside).trans (Nat.le_of_lt_succ enough))
  obtain ⟨nodes, visits, collects⟩ := visitChildren_spec deep nodupBelow below children [target]
  let kept := (forest.childForest target.id).keep (isPending pending)
  have sublist : kept.labels.Sublist (forest.childForest target.id).labels :=
    Forest.labels_keep_sublist ..
  have tree : (Forest.cons target.id (forest.childForest target.id) .empty).Follows next :=
    ⟨roots, below, trivial⟩
  have nodupTree : (target.id :: (forest.childForest target.id).labels).Nodup :=
    List.nodup_cons.mpr ⟨Forest.not_mem_childForest nodup target.id, nodupBelow⟩
  refine ⟨nodes, kept.labels, ?_, ⟨⟨?_, ?_⟩, ?_, ?_, ?_⟩⟩
  · rw [getSubTreeList_succ, children target member, roots]
    exact visits
  · rw [List.map_cons, collects.ids]
  · exact List.cons_subset.mpr ⟨member, collects.subset⟩
  · exact (sublist.cons_cons target.id).nodup nodupTree
  · have pairs := pairwise_labels tree (by simpa using nodupTree)
    rw [Forest.labels_cons, Forest.labels_empty, List.append_nil] at pairs
    exact pairs.sublist (sublist.cons_cons target.id)
  · intro id among child successor found
    refine List.mem_cons_of_mem _ ?_
    obtain rfl | among := List.mem_cons.mp among
    · refine kept.roots_subset ?_
      rw [Forest.roots_keep, ← roots]
      exact List.mem_filter.mpr ⟨successor, found⟩
    · exact (below.keep (isPending pending)).successors among
        (List.mem_filter.mpr ⟨successor, found⟩)

/-- The updates with some ids and those without are all. -/
theorem append_without_perm (distinct : (pending.map SemanticsNode.id).Nodup)
    {nodes : List SemanticsNode} (collects : Collects pending nodes ids)
    (nodup : ids.Nodup) : (without pending ids ++ nodes).Perm pending := by
  have collected : nodes.Perm (pending.filter fun node => node.id ∈ ids) := by
    refine (List.perm_ext_iff_of_nodup ?_ ?_).mpr fun node => ?_
    · exact List.Nodup.of_map SemanticsNode.id (collects.ids ▸ nodup)
    · exact (List.Nodup.of_map SemanticsNode.id distinct).filter _
    · rw [List.mem_filter, decide_eq_true_eq, ← collects.ids]
      refine ⟨fun member => ⟨collects.subset member, List.mem_map_of_mem member⟩, ?_⟩
      rintro ⟨member, among⟩
      obtain ⟨other, inside, same⟩ := List.mem_map.mp among
      rwa [← List.inj_on_of_nodup_map distinct (collects.subset inside) member same]
  refine (List.perm_append_comm.trans (collected.append_right _)).trans ?_
  have complement : without pending ids = pending.filter fun node => !decide (node.id ∈ ids) := by
    unfold without
    exact List.filter_congr fun node _ => decide_not
  rw [complement]
  exact List.filter_append_perm _ pending

/-- The lists have every update once, and concatenated in reverse none after one of its
children. -/
theorem subTreeLists_spec (enough : forest.height + pending.length < fuel)
    (nodup : forest.labels.Nodup) (follows : forest.Follows next)
    (children : ∀ node ∈ pending, node.childrenInTraversalOrder = next node.id)
    (inside : ∀ node ∈ pending, node.id ∈ forest.labels)
    (distinct : (pending.map SemanticsNode.id).Nodup) :
    ∃ results, subTreeLists fuel pending = some results ∧ results.reverse.flatten.Perm pending ∧
      results.reverse.flatten.Pairwise fun earlier later =>
        earlier.id ∉ later.childrenInTraversalOrder := by
  induction fuel generalizing pending with
  | zero => exact absurd enough (Nat.not_lt_zero _)
  | succ fuel ih =>
    cases pending with
    | nil => exact ⟨[], rfl, .nil, .nil⟩
    | cons target rest =>
      have member : target ∈ target :: rest := List.mem_cons_self
      obtain ⟨nodes, ids, collected, list⟩ := getSubTreeList_spec
        (Nat.lt_of_le_of_lt (Nat.le_add_right ..) enough) nodup follows children member
        (inside target member)
      let remaining := without (target :: rest) (target.id :: ids)
      have subset : remaining ⊆ target :: rest := List.filter_sublist.subset
      have fewer : remaining.length ≤ rest.length := by
        have gone : decide (target.id ∉ target.id :: ids) = false := by simp
        unfold remaining without
        rw [List.filter_cons, gone]
        exact List.length_filter_le ..
      obtain ⟨results, found, perm, pairwise⟩ := ih
        (show forest.height + remaining.length < fuel by
          simp only [List.length_cons] at enough; omega)
        (fun node member => children node (subset member))
        (fun node member => inside node (subset member))
        (distinct.sublist (List.filter_sublist.map _))
      refine ⟨(target :: nodes) :: results, ?_, ?_, ?_⟩
      · rw [subTreeLists, collected]
        dsimp only
        rw [eraseUpdate_without, found]
        rfl
      · rw [List.reverse_cons, List.flatten_append, List.flatten_singleton]
        exact (perm.append_right _).trans
          (append_without_perm distinct list.collects list.nodup)
      · rw [List.reverse_cons, List.flatten_append, List.flatten_singleton,
          List.pairwise_append]
        refine ⟨pairwise, ?_, fun earlier before later after successor => ?_⟩
        · have pairs := list.pairwise
          rw [← list.collects.ids, List.pairwise_map] at pairs
          refine pairs.imp_of_mem fun {earlier later} _ among apart => ?_
          rwa [children later (list.collects.subset among)]
        · have left := perm.mem_iff.mp before
          obtain ⟨still, apart⟩ := List.mem_filter.mp left
          rw [children later (list.collects.subset after)] at successor
          have pending : isPending (target :: rest) earlier.id = true :=
            isPending_iff.mpr ⟨earlier, still, rfl⟩
          refine of_decide_eq_true apart (list.closed later.id ?_ earlier.id successor pending)
          rw [← list.collects.ids]
          exact List.mem_map_of_mem after

end FlutterEngine.Accessibility
