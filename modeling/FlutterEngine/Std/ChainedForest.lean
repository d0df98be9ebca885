import FlutterEngine.Std.Forest

/-!
# Forests with links back and along

Besides the list of its children, a node of a linked tree names its parent, the
sibling before it and the sibling after it. In the order of the depth-first walk
the links to children and to the sibling after lead forwards, the other two lead
backwards, so following one kind of them comes to an end.
-/

namespace FlutterEngine.Std

universe u

/-- The neighbours that a node names, if it has them. -/
structure Links (α : Type u) where
  parent : Option α
  previous : Option α
  next : Option α
deriving DecidableEq, Repr

namespace Forest

variable {α : Type u} {links : α → Links α} {above before : Option α}
  {root label first second : α} {children siblings forest : Forest α}

/-- The links lead to the parent and to the siblings beside. The roots have the
parent `above`, and the first of them comes after `before`. -/
def Chained (links : α → Links α) : (above before : Option α) → Forest α → Prop
  | _, _, empty => True
  | above, before, cons root children siblings =>
    links root = { parent := above, previous := before, next := siblings.roots.head? } ∧
      children.Chained links (some root) none ∧ siblings.Chained links above (some root)

/-- Only the links of the labels matter. -/
theorem Chained.congr {other : α → Links α} (chained : forest.Chained links above before)
    (same : ∀ label ∈ forest.labels, other label = links label) :
    forest.Chained other above before := by
  induction forest generalizing above before with
  | empty => trivial
  | cons root children siblings below beside =>
    obtain ⟨here, down, along⟩ := chained
    simp only [labels_cons, List.mem_cons, List.mem_append] at same
    refine ⟨(same root (.inl rfl)).trans here, below down ?_, beside along ?_⟩
    · exact fun label member => same label (.inr (.inl member))
    · exact fun label member => same label (.inr (.inr member))

/-! ## The order of the walk -/

/-- The walk meets the first label before the second. -/
def Precedes (forest : Forest α) (first second : α) : Prop :=
  [first, second].Sublist forest.labels

theorem Precedes.left_mem (order : forest.Precedes first second) : first ∈ forest.labels :=
  order.subset (by simp)

theorem Precedes.right_mem (order : forest.Precedes first second) : second ∈ forest.labels :=
  order.subset (by simp)

theorem precedes_root (member : label ∈ children.labels ++ siblings.labels) :
    (cons root children siblings).Precedes root label :=
  List.Sublist.cons_cons root (List.singleton_sublist.mpr member)

theorem Precedes.below (order : children.Precedes first second) (root : α)
    (siblings : Forest α) : (cons root children siblings).Precedes first second :=
  (order.trans (List.sublist_append_left _ _)).cons root

theorem Precedes.beside (order : siblings.Precedes first second) (root : α)
    (children : Forest α) : (cons root children siblings).Precedes first second :=
  (order.trans (List.sublist_append_right _ _)).cons root

section Position

variable [DecidableEq α]

/-- How many labels the walk meets before this one. -/
def position (forest : Forest α) (label : α) : Nat := forest.labels.idxOf label

/-- How many labels the walk meets from this one on. -/
def remaining (forest : Forest α) (label : α) : Nat :=
  forest.labels.length - forest.position label

theorem position_le (forest : Forest α) (label : α) :
    forest.position label ≤ forest.labels.length := List.idxOf_le_length

theorem remaining_le (forest : Forest α) (label : α) :
    forest.remaining label ≤ forest.labels.length := Nat.sub_le _ _

theorem Precedes.position_lt (order : forest.Precedes first second)
    (nodup : forest.labels.Nodup) : forest.position first < forest.position second := by
  unfold Precedes at order
  unfold position
  generalize forest.labels = labels at order nodup ⊢
  induction labels with
  | nil => cases order
  | cons label labels ih =>
    obtain ⟨fresh, nodup⟩ := List.nodup_cons.mp nodup
    cases order with
    | cons _ later =>
      have different : ∀ other ∈ [first, second], other ≠ label := by
        rintro other member rfl
        exact fresh (later.subset member)
      rw [List.idxOf_cons_ne _ (different first (by simp)).symm,
        List.idxOf_cons_ne _ (different second (by simp)).symm]
      exact Nat.succ_lt_succ (ih later nodup)
    | cons_cons _ later =>
      have different : second ≠ first := by
        rintro rfl
        exact fresh (later.subset (by simp))
      rw [List.idxOf_cons_self, List.idxOf_cons_ne _ different.symm]
      exact Nat.succ_pos _

theorem Precedes.remaining_lt (order : forest.Precedes first second)
    (nodup : forest.labels.Nodup) : forest.remaining second < forest.remaining first := by
  have further := order.position_lt nodup
  have inside := List.idxOf_lt_length_of_mem order.right_mem
  unfold remaining position at *
  omega

/-- Nothing remains where the walk never comes. -/
theorem remaining_lt_of_notMem (member : first ∈ forest.labels) (outside : second ∉ forest.labels) :
    forest.remaining second < forest.remaining first := by
  have absent := List.idxOf_eq_length outside
  have inside := List.idxOf_lt_length_of_mem member
  unfold remaining position
  omega

end Position

/-- A child is met after its parent. -/
theorem Follows.precedes {next : α → List α} (follows : forest.Follows next)
    (member : label ∈ forest.labels) : ∀ child ∈ next label, forest.Precedes label child := by
  induction forest with
  | empty => simp at member
  | cons root children siblings below beside =>
    obtain ⟨here, down, along⟩ := follows
    rw [labels_cons, List.mem_cons, List.mem_append] at member
    intro child among
    rcases member with rfl | member | member
    · rw [here] at among
      exact precedes_root (List.mem_append_left _ (children.roots_subset among))
    · exact (below down member child among).below root siblings
    · exact (beside along member child among).beside root children

/-- The sibling after a label is met later, the one before it and its parent are met earlier unless
they lie outside. -/
theorem Chained.precedes (chained : forest.Chained links above before)
    (member : label ∈ forest.labels) :
    (∀ other ∈ (links label).next, forest.Precedes label other) ∧
      (∀ other ∈ (links label).previous, other ∈ before ∨ forest.Precedes other label) ∧
      ∀ other ∈ (links label).parent, other ∈ above ∨ forest.Precedes other label := by
  induction forest generalizing above before with
  | empty => simp at member
  | cons root children siblings below beside =>
    obtain ⟨here, down, along⟩ := chained
    rw [labels_cons, List.mem_cons, List.mem_append] at member
    rcases member with rfl | member | member
    · rw [here]
      refine ⟨fun other linked => ?_, fun _ linked => .inl linked, fun _ linked => .inl linked⟩
      have among := siblings.roots_subset (List.mem_of_mem_head? linked)
      exact precedes_root (List.mem_append_right _ among)
    · obtain ⟨next, previous, parent⟩ := below down member
      refine ⟨fun other linked => (next other linked).below root siblings,
        fun other linked => ?_, fun other linked => ?_⟩
      · have order := (previous other linked).resolve_left (by simp)
        exact .inr (order.below root siblings)
      · rcases parent other linked with same | order
        · obtain rfl := Option.some.inj same
          exact .inr (precedes_root (List.mem_append_left _ member))
        · exact .inr (order.below root siblings)
    · obtain ⟨next, previous, parent⟩ := beside along member
      refine ⟨fun other linked => (next other linked).beside root children,
        fun other linked => ?_, fun other linked => ?_⟩
      · rcases previous other linked with same | order
        · obtain rfl := Option.some.inj same
          exact .inr (precedes_root (List.mem_append_right _ member))
        · exact .inr (order.beside root children)
      · exact (parent other linked).imp_right fun order => order.beside root children

end Forest

end FlutterEngine.Std
