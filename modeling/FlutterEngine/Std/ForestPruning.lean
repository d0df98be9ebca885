import FlutterEngine.Std.Forest

/-!
# Pruned forests

What is below a label of a forest, and what is left of a forest when trees are cut off.
-/

namespace FlutterEngine.Std

universe u

namespace Forest

variable {α : Type u} {next : α → List α} {forest : Forest α} {label : α}

theorem labels_keep_sublist (passes : α → Bool) (forest : Forest α) :
    (forest.keep passes).labels.Sublist forest.labels := by
  induction forest with
  | empty => exact List.Sublist.refl _
  | cons root children siblings below beside =>
    unfold keep
    split
    · exact (below.append beside).cons_cons root
    · exact (beside.trans (List.sublist_append_right ..)).cons root

theorem keep_keep (first second : α → Bool) (forest : Forest α) :
    (forest.keep first).keep second = forest.keep fun label => first label && second label := by
  induction forest with
  | empty => rfl
  | cons root children siblings below beside =>
    cases here : first root <;> cases there : second root <;>
      simp [keep, here, there, below, beside]

theorem keep_of_forall {passes : α → Bool} (all : ∀ label ∈ forest.labels, passes label = true) :
    forest.keep passes = forest := by
  induction forest with
  | empty => rfl
  | cons root children siblings below beside =>
    simp only [labels_cons, List.mem_cons, List.mem_append] at all
    have left := below fun label member => all label (.inr (.inl member))
    have right := beside fun label member => all label (.inr (.inr member))
    rw [keep, if_pos (all root (.inl rfl)), left, right]

theorem nodup_roots (nodup : forest.labels.Nodup) : forest.roots.Nodup := by
  induction forest with
  | empty => exact nodup
  | cons root children siblings below beside =>
    obtain ⟨top, rest⟩ := List.nodup_cons.mp nodup
    refine List.nodup_cons.mpr ⟨fun member => ?_, beside (List.nodup_append.mp rest).2.1⟩
    exact top (List.mem_append_right _ (siblings.roots_subset member))

/-- The roots are successors of no label. -/
theorem Follows.roots_not_successors (follows : forest.Follows next) (nodup : forest.labels.Nodup)
    {root : α} (top : root ∈ forest.roots) (member : label ∈ forest.labels) : root ∉ next label := by
  induction forest with
  | empty => cases member
  | cons first children siblings below beside =>
    obtain ⟨here, down, along⟩ := follows
    obtain ⟨fresh, rest⟩ := List.nodup_cons.mp nodup
    obtain ⟨inside, outside, apart⟩ := List.nodup_append.mp rest
    have successors : next label ⊆ children.labels ∨ label ∈ siblings.labels := by
      rw [labels_cons, List.mem_cons, List.mem_append] at member
      obtain rfl | among | among := member
      · exact .inl (here ▸ children.roots_subset)
      · exact .inl (down.successors among)
      · exact .inr among
    intro successor
    obtain rfl | top := List.mem_cons.mp top
    · obtain among | among := successors
      · exact fresh (List.mem_append_left _ (among successor))
      · exact fresh (List.mem_append_right _ (along.successors among successor))
    · obtain among | among := successors
      · exact apart root (among successor) root (siblings.roots_subset top) rfl
      · exact beside along outside top among successor

/-- Every label that is no root is a successor. -/
theorem Follows.exists_predecessor (follows : forest.Follows next) (member : label ∈ forest.labels)
    (below : label ∉ forest.roots) : ∃ parent ∈ forest.labels, label ∈ next parent := by
  induction forest with
  | empty => cases member
  | cons root children siblings inside outside =>
    obtain ⟨here, down, along⟩ := follows
    simp only [roots_cons, List.mem_cons, not_or] at below
    simp only [labels_cons, List.mem_cons, List.mem_append] at member ⊢
    obtain same | among | among := member
    · exact absurd same below.1
    · by_cases top : label ∈ children.roots
      · exact ⟨root, .inl rfl, here ▸ top⟩
      · obtain ⟨parent, found, successor⟩ := inside down among top
        exact ⟨parent, .inr (.inl found), successor⟩
    · obtain ⟨parent, found, successor⟩ := outside along among below.2
      exact ⟨parent, .inr (.inr found), successor⟩

theorem passes_of_mem_keep {passes : α → Bool} (member : label ∈ (forest.keep passes).labels) :
    passes label = true := by
  induction forest with
  | empty => cases member
  | cons root children siblings below beside =>
    unfold keep at member
    split at member
    · next here =>
        rw [labels_cons, List.mem_cons, List.mem_append] at member
        obtain rfl | inside | beyond := member
        · exact here
        · exact below inside
        · exact beside beyond
    · exact beside member

theorem height_keep (passes : α → Bool) (forest : Forest α) :
    (forest.keep passes).height ≤ forest.height := by
  induction forest with
  | empty => exact le_rfl
  | cons root children siblings below beside =>
    unfold keep
    split
    · exact max_le_max (Nat.succ_le_succ below) beside
    · exact beside.trans (Nat.le_max_right ..)

variable [DecidableEq α]

/-- The forest below a label. -/
def childForest (label : α) : Forest α → Forest α
  | empty => empty
  | cons root children siblings =>
    if root = label then children
    else if label ∈ children.labels then children.childForest label
    else siblings.childForest label

theorem childForest_cons (label root : α) (children siblings : Forest α) :
    (cons root children siblings).childForest label =
      if root = label then children
      else if label ∈ children.labels then children.childForest label
      else siblings.childForest label := rfl

/-- The label and those below it. -/
def subtree (forest : Forest α) (label : α) : List α := label :: (forest.childForest label).labels

theorem labels_childForest_subset (label : α) (forest : Forest α) :
    (forest.childForest label).labels ⊆ forest.labels := by
  induction forest with
  | empty => exact List.Subset.refl _
  | cons root children siblings below beside =>
    rw [childForest_cons]
    rw [labels_cons]
    intro other member
    split at member
    · exact List.mem_cons_of_mem _ (List.mem_append_left _ member)
    · split at member
      · exact List.mem_cons_of_mem _ (List.mem_append_left _ (below member))
      · exact List.mem_cons_of_mem _ (List.mem_append_right _ (beside member))

theorem Follows.childForest (follows : forest.Follows next) (label : α) :
    (forest.childForest label).Follows next := by
  induction forest with
  | empty => trivial
  | cons root children siblings below beside =>
    obtain ⟨-, down, along⟩ := follows
    rw [childForest_cons]
    split
    · exact down
    · split
      · exact below down
      · exact beside along

theorem Follows.roots_childForest (follows : forest.Follows next) (member : label ∈ forest.labels) :
    next label = (forest.childForest label).roots := by
  induction forest with
  | empty => cases member
  | cons root children siblings below beside =>
    obtain ⟨here, down, along⟩ := follows
    rw [childForest_cons]
    split
    · next same => exact same ▸ here
    · next other =>
        split
        · next inside => exact below down inside
        · next outside =>
            rw [labels_cons, List.mem_cons, List.mem_append] at member
            obtain same | inside | beyond := member
            · exact absurd same.symm other
            · exact absurd inside outside
            · exact beside along beyond

theorem nodup_childForest (nodup : forest.labels.Nodup) (label : α) :
    (forest.childForest label).labels.Nodup := by
  induction forest with
  | empty => exact nodup
  | cons root children siblings below beside =>
    obtain ⟨-, rest⟩ := List.nodup_cons.mp nodup
    obtain ⟨inside, outside, -⟩ := List.nodup_append.mp rest
    rw [childForest_cons]
    split
    · exact inside
    · split
      · exact below inside
      · exact beside outside

theorem not_mem_childForest (nodup : forest.labels.Nodup) (label : α) :
    label ∉ (forest.childForest label).labels := by
  induction forest with
  | empty => exact List.not_mem_nil
  | cons root children siblings below beside =>
    obtain ⟨top, rest⟩ := List.nodup_cons.mp nodup
    obtain ⟨inside, outside, -⟩ := List.nodup_append.mp rest
    rw [childForest_cons]
    split
    · next same => exact fun member => top (same ▸ List.mem_append_left _ member)
    · split
      · exact below inside
      · exact beside outside

theorem subtree_subset (member : label ∈ forest.labels) : forest.subtree label ⊆ forest.labels :=
  List.cons_subset.mpr ⟨member, labels_childForest_subset label forest⟩

theorem height_childForest (member : label ∈ forest.labels) :
    (forest.childForest label).height + 1 ≤ forest.height := by
  induction forest with
  | empty => cases member
  | cons root children siblings below beside =>
    rw [childForest_cons]
    split
    · exact Nat.le_max_left ..
    · next other =>
        split
        · next inside =>
            exact (below inside).trans ((Nat.le_succ _).trans (Nat.le_max_left ..))
        · next outside =>
            rw [labels_cons, List.mem_cons, List.mem_append] at member
            obtain same | inside | beyond := member
            · exact absurd same.symm other
            · exact absurd inside outside
            · exact (beside beyond).trans (Nat.le_max_right ..)

section Cons

variable {root : α} {children siblings : Forest α}

theorem subtree_cons_self :
    (cons root children siblings).subtree root = root :: children.labels := by
  simp [subtree, childForest_cons]

theorem subtree_cons_children (other : root ≠ label) (inside : label ∈ children.labels) :
    (cons root children siblings).subtree label = children.subtree label := by
  simp [subtree, childForest_cons, other, inside]

theorem subtree_cons_siblings (other : root ≠ label) (outside : label ∉ children.labels) :
    (cons root children siblings).subtree label = siblings.subtree label := by
  simp [subtree, childForest_cons, other, outside]

/-- A cut of a forest whose labels are distinct is at its first root, below it, or beside it. -/
theorem forall_cuts_cons (nodup : (cons root children siblings).labels.Nodup)
    (passes : α → Bool) :
    (∀ cut ∈ (cons root children siblings).labels, passes cut = false →
        label ∉ (cons root children siblings).subtree cut) ↔
      (passes root = false → label ∉ root :: children.labels) ∧
        (∀ cut ∈ children.labels, passes cut = false → label ∉ children.subtree cut) ∧
          ∀ cut ∈ siblings.labels, passes cut = false → label ∉ siblings.subtree cut := by
  obtain ⟨top, rest⟩ := List.nodup_cons.mp nodup
  obtain ⟨-, -, apart⟩ := List.nodup_append.mp rest
  have below : ∀ cut ∈ children.labels, root ≠ cut := fun cut member same =>
    top (same ▸ List.mem_append_left _ member)
  have beside : ∀ cut ∈ siblings.labels, root ≠ cut ∧ cut ∉ children.labels := fun cut member =>
    ⟨fun same => top (same ▸ List.mem_append_right _ member),
      fun inside => apart cut inside cut member rfl⟩
  constructor
  · intro uncut
    refine ⟨fun cuts => ?_, fun cut member cuts => ?_, fun cut member cuts => ?_⟩
    · have here := uncut root List.mem_cons_self cuts
      rwa [subtree_cons_self] at here
    · have here := uncut cut (List.mem_cons_of_mem _ (List.mem_append_left _ member)) cuts
      rwa [subtree_cons_children (below cut member) member] at here
    · have here := uncut cut (List.mem_cons_of_mem _ (List.mem_append_right _ member)) cuts
      rwa [subtree_cons_siblings (beside cut member).1 (beside cut member).2] at here
  · intro ⟨atRoot, inside, outside⟩ cut member cuts
    rw [labels_cons, List.mem_cons, List.mem_append] at member
    obtain rfl | member | member := member
    · rw [subtree_cons_self]
      exact atRoot cuts
    · rw [subtree_cons_children (below cut member) member]
      exact inside cut member cuts
    · rw [subtree_cons_siblings (beside cut member).1 (beside cut member).2]
      exact outside cut member cuts

end Cons

/-- What is left are the labels below no tree that was cut off. -/
theorem mem_labels_keep (nodup : forest.labels.Nodup) (passes : α → Bool) :
    label ∈ (forest.keep passes).labels ↔
      label ∈ forest.labels ∧
        ∀ cut ∈ forest.labels, passes cut = false → label ∉ forest.subtree cut := by
  induction forest with
  | empty => simp [keep]
  | cons root children siblings below beside =>
    rw [forall_cuts_cons nodup]
    obtain ⟨top, rest⟩ := List.nodup_cons.mp nodup
    obtain ⟨inside, outside, apart⟩ := List.nodup_append.mp rest
    have left := below inside
    have right := beside outside
    have uncut : ∀ {forest : Forest α}, label ∉ forest.labels →
        ∀ cut ∈ forest.labels, passes cut = false → label ∉ forest.subtree cut :=
      fun missing cut member _ among => missing (subtree_subset member among)
    rw [keep]
    cases kept : passes root with
    | false =>
      simp only [Bool.false_eq_true, if_false, right, labels_cons, List.mem_cons,
        List.mem_append, true_imp_iff, not_or]
      constructor
      · rintro ⟨member, cuts⟩
        have apartHere : label ∉ children.labels :=
          fun among => apart label among label member rfl
        refine ⟨.inr (.inr member), ⟨?_, apartHere⟩, uncut apartHere, cuts⟩
        exact fun same => top (same ▸ List.mem_append_right _ member)
      · rintro ⟨member, ⟨notRoot, notBelow⟩, -, cuts⟩
        exact ⟨(member.resolve_left notRoot).resolve_left notBelow, cuts⟩
    | true =>
      simp only [if_true, labels_cons, List.mem_cons, List.mem_append, left, right,
        Bool.true_eq_false, false_imp_iff, true_and]
      constructor
      · rintro (rfl | ⟨member, cuts⟩ | ⟨member, cuts⟩)
        · refine ⟨.inl rfl, uncut fun among => ?_, uncut fun among => ?_⟩
          · exact top (List.mem_append_left _ among)
          · exact top (List.mem_append_right _ among)
        · refine ⟨.inr (.inl member), cuts, uncut fun among => ?_⟩
          exact apart label member label among rfl
        · refine ⟨.inr (.inr member), uncut fun among => ?_, cuts⟩
          exact apart label among label member rfl
      · rintro ⟨(rfl | member | member), cutsBelow, cutsBeside⟩
        · exact .inl rfl
        · exact .inr (.inl ⟨member, cutsBelow⟩)
        · exact .inr (.inr ⟨member, cutsBeside⟩)

end Forest

end FlutterEngine.Std
