import Mathlib.Data.List.Forall2

/-!
# Cuttings

A list whose items have each been cut into pieces, with the pieces left in order.
-/

namespace FlutterEngine.Std

universe u v

variable {Whole : Type u} {Piece : Type v}

/-- The pieces are those of the wholes, one group after the other. -/
def IsCutting (cuts : Whole → List Piece → Prop) (wholes : List Whole) (pieces : List Piece) :
    Prop :=
  ∃ groups, pieces = groups.flatten ∧ List.Forall₂ cuts wholes groups

variable {cuts : Whole → List Piece → Prop} {whole other : Whole} {wholes : List Whole}
  {piece : Piece} {pieces group before after new : List Piece}

namespace IsCutting

theorem nil : IsCutting cuts [] [] :=
  ⟨[], rfl, .nil⟩

theorem cons (cut : cuts whole group) (rest : IsCutting cuts wholes pieces) :
    IsCutting cuts (whole :: wholes) (group ++ pieces) := by
  obtain ⟨groups, rfl, all⟩ := rest
  exact ⟨group :: groups, List.flatten_cons.symm, .cons cut all⟩

theorem of_cons (cutting : IsCutting cuts (whole :: wholes) pieces) :
    ∃ group rest, pieces = group ++ rest ∧ cuts whole group ∧ IsCutting cuts wholes rest := by
  obtain ⟨groups, rfl, all⟩ := cutting
  cases all with
  | @cons _ group _ groups cut all =>
    exact ⟨group, groups.flatten, List.flatten_cons, cut, groups, rfl, all⟩

/-- The first whole gets one more piece. -/
theorem consPiece (cutting : IsCutting cuts (whole :: wholes) pieces)
    (grows : ∀ group, cuts whole group → cuts other (piece :: group)) :
    IsCutting cuts (other :: wholes) (piece :: pieces) := by
  obtain ⟨group, rest, rfl, cut, all⟩ := of_cons cutting
  exact cons (grows group cut) all

/-- A piece is replaced, and with it the group it is of. -/
theorem replace (cutting : IsCutting cuts wholes (before ++ piece :: after))
    (replaces : ∀ whole ∈ wholes, ∀ left right, cuts whole (left ++ piece :: right) →
      cuts whole (left ++ new ++ right)) :
    IsCutting cuts wholes (before ++ new ++ after) := by
  induction wholes generalizing before with
  | nil =>
    obtain ⟨groups, same, all⟩ := cutting
    cases all
    exact absurd same (by simp)
  | cons whole wholes ih =>
    have later := fun other mem => replaces other (List.mem_cons_of_mem whole mem)
    obtain ⟨group, rest, same, cut, all⟩ := of_cons cutting
    rcases List.append_eq_append_iff.mp same with ⟨left, rfl, tail⟩ | ⟨middle, rfl, tail⟩
    · cases left with
      | nil =>
        rw [List.nil_append] at tail
        subst tail
        have shorter : IsCutting cuts wholes ([] ++ new ++ after) := ih all later
        rw [List.append_nil] at cut
        rw [List.append_assoc]
        exact cons cut shorter
      | cons first left =>
        obtain ⟨rfl, rfl⟩ := List.cons.inj (tail.trans List.cons_append)
        have cut := replaces whole List.mem_cons_self before left cut
        have together := cons cut all
        rwa [List.append_assoc] at together
    · rw [tail] at all
      have shorter := ih all later
      rw [List.append_assoc, List.append_assoc, ← List.append_assoc middle]
      exact cons cut shorter

end IsCutting

end FlutterEngine.Std
