import Mathlib.Algebra.Order.Ring.Int
import Mathlib.Data.List.Nodup

/-!
# Ordered forests and the graphs they unfold

A graph given by its successor lists is a tree below some roots when a forest
with these roots follows the lists and names every label once. The recursion
of a `Forest` is the depth-first walk: first the children, then the siblings.
-/

namespace FlutterEngine.Std

universe u v

/-- The trees below a list of roots, first child and next sibling. -/
inductive Forest (α : Type u) where
  | empty
  | cons (root : α) (children siblings : Forest α)
deriving DecidableEq, Repr

namespace Forest

variable {α : Type u} {β : Type v}

def roots : Forest α → List α
  | empty => []
  | cons root _ siblings => root :: siblings.roots

/-- Every label, each before its children and those before its siblings. -/
def labels : Forest α → List α
  | empty => []
  | cons root children siblings => root :: (children.labels ++ siblings.labels)

/-- The labels on the longest path down. -/
def height : Forest α → Nat
  | empty => 0
  | cons _ children siblings => max (children.height + 1) siblings.height

def map (f : α → β) : Forest α → Forest β
  | empty => empty
  | cons root children siblings => cons (f root) (children.map f) (siblings.map f)

/-- The forest without the trees below labels that do not pass. -/
def keep (passes : α → Bool) : Forest α → Forest α
  | empty => empty
  | cons root children siblings =>
    if passes root then cons root (children.keep passes) (siblings.keep passes)
    else siblings.keep passes

/-- The children of every label are its successors. -/
def Follows (next : α → List α) : Forest α → Prop
  | empty => True
  | cons root children siblings =>
    next root = children.roots ∧ children.Follows next ∧ siblings.Follows next

instance decidableFollows [DecidableEq α] (next : α → List α) :
    (forest : Forest α) → Decidable (forest.Follows next)
  | empty => inferInstanceAs (Decidable True)
  | cons root children siblings =>
    have : Decidable (children.Follows next) := decidableFollows next children
    have : Decidable (siblings.Follows next) := decidableFollows next siblings
    inferInstanceAs
      (Decidable (next root = children.roots ∧ children.Follows next ∧ siblings.Follows next))

@[simp] theorem roots_empty : (empty : Forest α).roots = [] := rfl

@[simp] theorem roots_cons (root : α) (children siblings : Forest α) :
    (cons root children siblings).roots = root :: siblings.roots := rfl

@[simp] theorem labels_empty : (empty : Forest α).labels = [] := rfl

@[simp] theorem labels_cons (root : α) (children siblings : Forest α) :
    (cons root children siblings).labels = root :: (children.labels ++ siblings.labels) := rfl

@[simp] theorem roots_map (f : α → β) (forest : Forest α) :
    (forest.map f).roots = forest.roots.map f := by
  induction forest with
  | empty => rfl
  | cons root children siblings _ ih => simp [map, ih]

@[simp] theorem labels_map (f : α → β) (forest : Forest α) :
    (forest.map f).labels = forest.labels.map f := by
  induction forest with
  | empty => rfl
  | cons root children siblings below beside => simp [map, below, beside]

@[simp] theorem roots_keep (passes : α → Bool) (forest : Forest α) :
    (forest.keep passes).roots = forest.roots.filter passes := by
  induction forest with
  | empty => rfl
  | cons root children siblings _ ih =>
    cases here : passes root <;> simp [keep, here, ih]

theorem roots_subset (forest : Forest α) : forest.roots ⊆ forest.labels := by
  induction forest with
  | empty => simp
  | cons root children siblings _ ih =>
    intro label member
    rcases List.mem_cons.mp member with rfl | later
    · simp
    · simp [ih later]

theorem height_le (forest : Forest α) : forest.height ≤ forest.labels.length := by
  induction forest with
  | empty => simp [height]
  | cons root children siblings below beside =>
    simp only [height, labels_cons, List.length_cons, List.length_append]
    omega

variable {next : α → List α} {forest : Forest α}

section

variable (follows : forest.Follows next)

include follows

/-- A label's successors are labels as well. -/
theorem Follows.successors {label : α}
    (member : label ∈ forest.labels) : next label ⊆ forest.labels := by
  induction forest with
  | empty => simp at member
  | cons root children siblings below beside =>
    obtain ⟨here, down, along⟩ := follows
    rw [labels_cons, List.mem_cons, List.mem_append] at member
    rcases member with rfl | member | member
    · rw [here]
      intro child among
      simp [children.roots_subset among]
    · intro child among
      simp [below down member among]
    · intro child among
      simp [beside along member among]

/-- What holds of the roots and passes on to successors holds of every label. -/
theorem Follows.forall_labels {P : α → Prop} (roots : ∀ label ∈ forest.roots, P label)
    (passes : ∀ label, P label → ∀ child ∈ next label, P child) :
    ∀ label ∈ forest.labels, P label := by
  induction forest with
  | empty => simp
  | cons root children siblings below beside =>
    obtain ⟨here, down, along⟩ := follows
    have first := roots root (by simp)
    intro label member
    rw [labels_cons, List.mem_cons, List.mem_append] at member
    rcases member with rfl | member | member
    · exact first
    · exact below down (here ▸ passes root first) label member
    · exact beside along (fun other among => roots other (by simp [among])) label member

/-- Only the successors of the labels matter. -/
theorem Follows.congr {other : α → List α}
    (same : ∀ label ∈ forest.labels, other label = next label) : forest.Follows other := by
  induction forest with
  | empty => trivial
  | cons root children siblings below beside =>
    obtain ⟨here, down, along⟩ := follows
    simp only [labels_cons, List.mem_cons, List.mem_append] at same
    refine ⟨(same root (.inl rfl)).trans here, below down ?_, beside along ?_⟩
    · exact fun label member => same label (.inr (.inl member))
    · exact fun label member => same label (.inr (.inr member))

theorem Follows.map {other : β → List β} {f : α → β}
    (carries : ∀ label ∈ forest.labels, other (f label) = (next label).map f) :
    (forest.map f).Follows other := by
  induction forest with
  | empty => trivial
  | cons root children siblings below beside =>
    obtain ⟨here, down, along⟩ := follows
    simp only [labels_cons, List.mem_cons, List.mem_append] at carries
    refine ⟨?_, below down ?_, beside along ?_⟩
    · rw [carries root (.inl rfl), here, roots_map]
    · exact fun label member => carries label (.inr (.inl member))
    · exact fun label member => carries label (.inr (.inr member))

theorem Follows.keep (passes : α → Bool) :
    (forest.keep passes).Follows fun label => (next label).filter passes := by
  induction forest with
  | empty => trivial
  | cons root children siblings below beside =>
    obtain ⟨here, down, along⟩ := follows
    cases kept : passes root with
    | false => simpa [Forest.keep, kept] using beside along
    | true =>
      simp only [Forest.keep, kept, if_true]
      exact ⟨by simp [here], below down, beside along⟩

/-- Where a label that does not pass has no successors, only it is left out. -/
theorem Follows.labels_keep {passes : α → Bool}
    (leaves : ∀ label ∈ forest.labels, passes label = false → next label = []) :
    (forest.keep passes).labels = forest.labels.filter passes := by
  induction forest with
  | empty => rfl
  | cons root children siblings below beside =>
    obtain ⟨here, down, along⟩ := follows
    simp only [labels_cons, List.mem_cons, List.mem_append] at leaves
    have left := below down fun label member => leaves label (.inr (.inl member))
    have right := beside along fun label member => leaves label (.inr (.inr member))
    cases kept : passes root with
    | true => simp [Forest.keep, kept, left, right]
    | false =>
      have childless : children = empty := by
        rw [leaves root (.inl rfl) kept] at here
        cases children with
        | empty => rfl
        | cons => simp at here
      simp [Forest.keep, kept, right, childless]

end

/-- The successor lists and the roots determine the forest. -/
theorem Follows.unique {first second : Forest α} (left : first.Follows next)
    (right : second.Follows next) (same : first.roots = second.roots) : first = second := by
  induction first generalizing second with
  | empty =>
    cases second with
    | empty => rfl
    | cons => simp at same
  | cons root children siblings below beside =>
    cases second with
    | empty => simp at same
    | cons other otherChildren otherSiblings =>
      obtain ⟨rfl, rest⟩ := List.cons.inj same
      obtain ⟨here, down, along⟩ := left
      obtain ⟨otherHere, otherDown, otherAlong⟩ := right
      rw [below down otherDown (here.symm.trans otherHere), beside along otherAlong rest]

end Forest

end FlutterEngine.Std
