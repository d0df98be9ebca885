import Mathlib.Data.List.Basic
import Mathlib.Algebra.Order.Ring.Int

/-!
# Nested brackets that say where they are closed

A sequence in which some elements open a bracket, naming the index of the element that
closes it, and some elements close the innermost open bracket.
-/

namespace FlutterEngine.Std

universe u

/-- What an element does to the nesting. -/
inductive Bracket where
  | opens (closeIndex : Int)
  | closes
  | plain
deriving DecidableEq, Repr

/-- An open bracket: its index and where it says that it is closed. -/
structure OpenBracket where
  position : Nat
  closeIndex : Int
deriving DecidableEq, Repr

namespace Bracket

variable {α : Type u} (kind : α → Bracket)

/-- The open brackets, the innermost first, after the element at this index; none when
it closes no bracket or one that names another index. -/
def nestStep (index : Nat) (opened : List OpenBracket) : Bracket → Option (List OpenBracket)
  | opens closeIndex => some (⟨index, closeIndex⟩ :: opened)
  | closes =>
    match opened with
    | [] => none
    | bracket :: opened => if bracket.closeIndex = index then some opened else none
  | plain => some opened

/-- The open brackets after the elements from this index on. -/
def nest (index : Nat) (opened : List OpenBracket) : List α → Option (List OpenBracket)
  | [] => some opened
  | element :: elements =>
    (nestStep index opened (kind element)).bind fun opened => nest (index + 1) opened elements

/-- Every bracket is closed where it says. -/
def Nested (elements : List α) : Prop := nest kind 0 [] elements = some []

instance (elements : List α) : Decidable (Nested kind elements) :=
  inferInstanceAs (Decidable (nest kind 0 [] elements = some []))

theorem nestStep_closes {index : Nat} {opened after : List OpenBracket}
    (steps : nestStep index opened closes = some after) :
    ∃ bracket, opened = bracket :: after ∧ bracket.closeIndex = index := by
  cases opened with
  | nil => cases steps
  | cons bracket opened =>
    simp only [nestStep, Option.ite_none_right_eq_some, Option.some.injEq] at steps
    exact ⟨bracket, by rw [steps.2], steps.1⟩

/-- Brackets that are all closed in the end are closed there, the inner before the outer. -/
theorem closed_of_nest {index : Nat} {opened : List OpenBracket} {elements : List α}
    (nested : nest kind index opened elements = some []) :
    opened.Pairwise (fun inner outer => inner.closeIndex < outer.closeIndex) ∧
      ∀ bracket ∈ opened,
        index ≤ bracket.closeIndex ∧ bracket.closeIndex < index + elements.length := by
  induction elements generalizing index opened with
  | nil =>
    cases nested
    exact ⟨.nil, by simp⟩
  | cons element elements ih =>
    obtain ⟨after, steps, nested⟩ := Option.bind_eq_some_iff.mp nested
    obtain ⟨sorted, within⟩ := ih nested
    simp only [List.length_cons, Nat.cast_add, Nat.cast_one] at within ⊢
    cases bracket : kind element with
    | opens closeIndex =>
      rw [bracket] at steps
      cases steps
      refine ⟨(List.pairwise_cons.mp sorted).2, fun outer member => ?_⟩
      have bounds := within outer (List.mem_cons_of_mem _ member)
      omega
    | closes =>
      rw [bracket] at steps
      obtain ⟨closed, rfl, closeIndex⟩ := nestStep_closes steps
      constructor
      · refine List.pairwise_cons.mpr ⟨fun outer member => ?_, sorted⟩
        have bounds := within outer member
        omega
      · intro inner member
        rcases List.mem_cons.mp member with rfl | member
        · omega
        · have bounds := within inner member
          omega
    | plain =>
      rw [bracket] at steps
      cases steps
      refine ⟨sorted, fun inner member => ?_⟩
      have bounds := within inner member
      omega

end Bracket

end FlutterEngine.Std
