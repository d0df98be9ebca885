import FlutterEngine.Ohos.SemanticsStore

/-!
# Removing nodes

`RemoveNode` deletes the node of a key unless the node was only named as a
child, and forgets it as the accessibility focus. The key -1 is not removed
here: it is looked up as the root.
-/

namespace FlutterEngine.Ohos

open FlutterEngine.Std

namespace SemanticsTree

variable {tree before after : SemanticsTree} {id other : Int} {ref : NodeRef}

/-- A pointer to a node about to be deleted becomes null. -/
def forget (pointer : Option NodeRef) (ref : NodeRef) : Option NodeRef :=
  if pointer = some ref then none else pointer

/-- The tree without one of its nodes. -/
def without (tree : SemanticsTree) (id : Int) (ref : NodeRef) : SemanticsTree :=
  { tree with
    heap := Function.update tree.heap ref none
    allSemanticsNodes := tree.allSemanticsNodes.erase id
    focusedNode := forget tree.focusedNode ref
    needRequestFocusedNode := forget tree.needRequestFocusedNode ref }

theorem findNodeById_of_lookup (stored : Stored tree) (redirected : id ≠ -1)
    (found : tree.allSemanticsNodes.lookup id = some ref) :
    tree.findNodeById id = .ok (if (tree.nodeOf id).id ≠ id then none else some ref) := by
  unfold findNodeById
  rw [if_neg redirected]
  simp only [found, stored.deref_of_lookup found, Fault.ok_bind, Fault.pure_eq]

theorem findNodeById_of_absent (redirected : id ≠ -1)
    (absent : tree.allSemanticsNodes.lookup id = none) : tree.findNodeById id = .ok none := by
  unfold findNodeById
  rw [if_neg redirected]
  simp only [absent]

theorem removeNode_of_lookup (stored : Stored tree) (redirected : id ≠ -1)
    (found : tree.allSemanticsNodes.lookup id = some ref) (named : (tree.nodeOf id).id = id) :
    tree.removeNode id = .ok (tree.without id ref) := by
  have here := stored.heap_of_lookup found
  rw [removeNode, findNodeById_of_lookup stored redirected found, if_neg (not_not.mpr named)]
  by_cases focused : tree.focusedNode = some ref
  · simp [clearIfFocused, clearAccessibilityFocusNode, focused, setFocused, deref, here, write,
      deleteNode, without, forget]
  · simp [clearIfFocused, focused, deleteNode, without, forget]

theorem removeNode_of_absent (stored : Stored tree) (redirected : id ≠ -1)
    (absent : tree.allSemanticsNodes.lookup id = none ∨ (tree.nodeOf id).id ≠ id) :
    tree.removeNode id = .ok tree := by
  cases found : tree.allSemanticsNodes.lookup id with
  | none =>
    rw [removeNode, findNodeById_of_absent redirected found]
    rfl
  | some ref =>
    have unnamed : (tree.nodeOf id).id ≠ id := by simpa [found] using absent
    rw [removeNode, findNodeById_of_lookup stored redirected found, if_pos unnamed]
    rfl

theorem lookup_without : (tree.without id ref).allSemanticsNodes.lookup other =
    if other = id then none else tree.allSemanticsNodes.lookup other := by
  by_cases equal : other = id
  · subst equal
    simp [without]
  · simp [without, AList.lookup_erase_ne equal, equal]

variable {otherRef : NodeRef} {ids : List Int} {last : SemanticsTree}

theorem isLive_without :
    (tree.without id ref).IsLive otherRef ↔ otherRef ≠ ref ∧ tree.IsLive otherRef := by
  by_cases equal : otherRef = ref
  · simp [isLive_iff, without, equal]
  · simp [isLive_iff, without, equal]

theorem Stored.nodeOf_without (stored : Stored tree)
    (found : tree.allSemanticsNodes.lookup id = some ref) :
    (tree.without id ref).nodeOf other = if other = id then {} else tree.nodeOf other := by
  rw [nodeOf, lookup_without]
  by_cases equal : other = id
  · simp [equal]
  · rw [if_neg equal, if_neg equal]
    cases there : tree.allSemanticsNodes.lookup other with
    | none => simp [nodeOf, there]
    | some otherRef =>
      have different : otherRef ≠ ref := by
        rintro rfl
        exact equal (stored.injective there found)
      simp [nodeOf, there, without, different]

theorem Stored.without (stored : Stored tree)
    (found : tree.allSemanticsNodes.lookup id = some ref) : Stored (tree.without id ref) where
  live := by
    intro other otherRef there
    rw [lookup_without] at there
    split at there
    · cases there
    · rename_i different
      rw [isLive_without]
      refine ⟨?_, stored.live there⟩
      rintro rfl
      exact different (stored.injective there found)
  injective := by
    intro one two otherRef first second
    rw [lookup_without] at first second
    split at first <;> split at second
    · cases first
    · cases first
    · cases second
    · exact stored.injective first second
  owned := by
    intro otherRef live
    rw [isLive_without] at live
    obtain ⟨other, there⟩ := stored.owned live.2
    refine ⟨other, ?_⟩
    rw [lookup_without, if_neg]
    · exact there
    · rintro rfl
      exact live.1 (Option.some.inj (there.symm.trans found))
  bound := by
    intro otherRef live
    exact stored.bound (isLive_without.mp live).2
  described := by
    intro other exist
    rw [stored.nodeOf_without found] at exist ⊢
    split at exist
    · cases exist
    · rename_i different
      rw [if_neg different]
      exact stored.described exist
  placeholder := by
    intro other missing
    rw [stored.nodeOf_without found] at missing ⊢
    split
    · exact SemanticsNodeExtend.isPlaceholder_default
    · rename_i different
      rw [if_neg different] at missing
      exact stored.placeholder missing

/-- The id is one of those to remove, and its node is found by it. -/
def IsRemoved (tree : SemanticsTree) (ids : List Int) (id : Int) : Prop :=
  id ∈ ids ∧ (tree.nodeOf id).id = id

/-- What the removal of nodes leaves. -/
structure Removed (ids : List Int) (before after : SemanticsTree) : Prop where
  stored : Stored after
  rest : after = { before with
    heap := after.heap
    allSemanticsNodes := after.allSemanticsNodes
    focusedNode := after.focusedNode
    needRequestFocusedNode := after.needRequestFocusedNode }
  gone : ∀ id, IsRemoved before ids id → after.allSemanticsNodes.lookup id = none
  kept : ∀ id, ¬ IsRemoved before ids id →
    after.allSemanticsNodes.lookup id = before.allSemanticsNodes.lookup id ∧
      after.nodeOf id = before.nodeOf id
  focused : ∀ ref ∈ after.focusedNode,
    ref ∈ before.focusedNode ∧ (before.IsLive ref → after.IsLive ref)
  requested : ∀ ref ∈ after.needRequestFocusedNode,
    ref ∈ before.needRequestFocusedNode ∧ (before.IsLive ref → after.IsLive ref)

theorem mem_forget {pointer : Option NodeRef}
    (member : otherRef ∈ forget pointer ref) : otherRef ∈ pointer ∧ otherRef ≠ ref := by
  unfold forget at member
  split at member
  · cases member
  · rename_i different
    refine ⟨member, ?_⟩
    rintro rfl
    exact different member

theorem Removed.refl (stored : Stored tree) : Removed [] tree tree where
  stored := stored
  rest := rfl
  gone := by simp [IsRemoved]
  kept := fun _ _ => ⟨rfl, rfl⟩
  focused := fun _ member => ⟨member, id⟩
  requested := fun _ member => ⟨member, id⟩

theorem Removed.cons_of_lookup (stored : Stored tree)
    (found : tree.allSemanticsNodes.lookup id = some ref)
    (rest : Removed ids (tree.without id ref) last) (named : (tree.nodeOf id).id = id) :
    Removed (id :: ids) tree last where
  stored := rest.stored
  rest := by
    rw [rest.rest]
    rfl
  gone := by
    intro other removed
    by_cases again : IsRemoved (tree.without id ref) ids other
    · exact rest.gone other again
    · rw [(rest.kept other again).1, lookup_without]
      split
      · rfl
      · rename_i different
        exfalso
        refine again ⟨(List.mem_cons.mp removed.1).resolve_left different, ?_⟩
        rw [stored.nodeOf_without found, if_neg different]
        exact removed.2
  kept := by
    intro other remains
    have different : other ≠ id := by
      rintro rfl
      exact remains ⟨List.mem_cons_self, named⟩
    have nodes : (tree.without id ref).nodeOf other = tree.nodeOf other := by
      rw [stored.nodeOf_without found, if_neg different]
    have still : ¬ IsRemoved (tree.without id ref) ids other := by
      rintro ⟨member, otherNamed⟩
      exact remains ⟨List.mem_cons_of_mem _ member, by rwa [nodes] at otherNamed⟩
    obtain ⟨lookup, node⟩ := rest.kept other still
    rw [lookup, node, nodes, lookup_without, if_neg different]
    exact ⟨rfl, rfl⟩
  focused := by
    intro pointer member
    obtain ⟨earlier, live⟩ := rest.focused pointer member
    obtain ⟨first, different⟩ := mem_forget earlier
    exact ⟨first, fun alive => live (isLive_without.mpr ⟨different, alive⟩)⟩
  requested := by
    intro pointer member
    obtain ⟨earlier, live⟩ := rest.requested pointer member
    obtain ⟨first, different⟩ := mem_forget earlier
    exact ⟨first, fun alive => live (isLive_without.mpr ⟨different, alive⟩)⟩

theorem Removed.cons_of_absent (rest : Removed ids tree last)
    (absent : tree.allSemanticsNodes.lookup id = none ∨ (tree.nodeOf id).id ≠ id) :
    Removed (id :: ids) tree last where
  stored := rest.stored
  rest := rest.rest
  gone := by
    intro other removed
    by_cases again : IsRemoved tree ids other
    · exact rest.gone other again
    · rw [(rest.kept other again).1]
      rcases List.mem_cons.mp removed.1 with rfl | member
      · exact absent.resolve_right (not_not.mpr removed.2)
      · exact absurd ⟨member, removed.2⟩ again
  kept := by
    intro other remains
    exact rest.kept other fun removed => remains ⟨List.mem_cons_of_mem _ removed.1, removed.2⟩
  focused := rest.focused
  requested := rest.requested

theorem removeNodes_spec : ∀ {ids : List Int} {tree : SemanticsTree}, Stored tree → -1 ∉ ids →
    ∃ after, removeNodes ids tree = .ok after ∧ Removed ids tree after := by
  intro ids
  induction ids with
  | nil =>
    intro tree stored _
    exact ⟨tree, rfl, .refl stored⟩
  | cons id ids ih =>
    intro tree stored redirected
    rw [List.mem_cons, not_or] at redirected
    have different : id ≠ -1 := Ne.symm redirected.1
    by_cases present : tree.allSemanticsNodes.lookup id ≠ none ∧ (tree.nodeOf id).id = id
    · obtain ⟨ref, found⟩ := Option.ne_none_iff_exists'.mp present.1
      obtain ⟨after, ran, rest⟩ := ih (stored.without found) redirected.2
      refine ⟨after, ?_, rest.cons_of_lookup stored found present.2⟩
      simp only [removeNodes, removeNode_of_lookup stored different found present.2, Fault.ok_bind,
        ran]
    · have absent : tree.allSemanticsNodes.lookup id = none ∨ (tree.nodeOf id).id ≠ id := by
        rwa [not_and_or, not_not] at present
      obtain ⟨after, ran, rest⟩ := ih stored redirected.2
      refine ⟨after, ?_, rest.cons_of_absent absent⟩
      simp only [removeNodes, removeNode_of_absent stored different absent, Fault.ok_bind, ran]

/-! ## Moving the focus -/

/-- Only the requested focus changes, and only to a node that was read. -/
structure Refocused (before after : SemanticsTree) : Prop where
  rest : after = { before with
    needRequestFocusedNode := after.needRequestFocusedNode
    focusRequestHasSend := after.focusRequestHasSend
    needFindFocusNodeAgain := after.needFindFocusNodeAgain }
  requested : ∀ ref ∈ after.needRequestFocusedNode,
    ref ∈ before.needRequestFocusedNode ∨ before.IsLive ref

theorem Refocused.refl (tree : SemanticsTree) : Refocused tree tree :=
  ⟨rfl, fun _ member => .inl member⟩

theorem isLive_of_deref {node : SemanticsNodeExtend} (read : tree.deref ref = .ok node) :
    tree.IsLive ref := by
  unfold deref at read
  split at read
  · cases read
  · rename_i found
    exact isLive_iff.mpr ⟨_, found⟩

theorem requestFocus_refocused {found : Option NodeRef}
    (done : tree.requestFocus found = .ok after) : Refocused tree after := by
  cases found with
  | none =>
    cases done
    exact .refl tree
  | some ref =>
    obtain ⟨node, read, done⟩ := Fault.bind_eq_ok done
    split at done
    · cases done
      exact ⟨rfl, fun _ member => .inl member⟩
    · cases done
      refine ⟨rfl, ?_⟩
      rintro _ ⟨⟩
      exact .inr (isLive_of_deref read)

theorem updateNextFocusWhenDisappear_refocused {asserts : Bool}
    (done : tree.updateNextFocusWhenDisappear asserts ids = .ok after) : Refocused tree after := by
  obtain ⟨disappear, -, done⟩ := Fault.bind_eq_ok done
  obtain ⟨needUpdate, -, done⟩ := Fault.bind_eq_ok done
  split at done
  · obtain ⟨found, -, done⟩ := Fault.bind_eq_ok done
    exact requestFocus_refocused done
  · cases done
    exact .refl tree

end SemanticsTree

end FlutterEngine.Ohos
