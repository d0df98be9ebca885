import Mathlib.LinearAlgebra.Matrix.Notation

/-!
# Transforms of the plane among those of space

Homogeneous 3x3 matrices as the 4x4 matrices that leave the third coordinate alone.
-/

namespace FlutterEngine.Std

universe u

namespace Homogeneous

local instance neZeroThree : NeZero 3 := ⟨by decide⟩
local instance neZeroFour : NeZero 4 := ⟨by decide⟩

variable {K : Type u} [CommRing K]

/-- The transform of the plane, with the third coordinate left alone. -/
def embed (plane : Matrix (Fin 3) (Fin 3) K) : Matrix (Fin 4) (Fin 4) K :=
  !![plane 0 0, plane 0 1, 0, plane 0 2;
     plane 1 0, plane 1 1, 0, plane 1 2;
     0, 0, 1, 0;
     plane 2 0, plane 2 1, 0, plane 2 2]

/-- The transform without its third row and column. -/
def project (space : Matrix (Fin 4) (Fin 4) K) : Matrix (Fin 3) (Fin 3) K :=
  !![space 0 0, space 0 1, space 0 3;
     space 1 0, space 1 1, space 1 3;
     space 3 0, space 3 1, space 3 3]

/-- The third row and column are those of the identity. -/
structure IsFlat (space : Matrix (Fin 4) (Fin 4) K) : Prop where
  row : space 2 = ![0, 0, 1, 0]
  column : ∀ row ≠ 2, space row 2 = 0

theorem project_embed (plane : Matrix (Fin 3) (Fin 3) K) : project (embed plane) = plane := by
  ext row column
  fin_cases row <;> fin_cases column <;> rfl

theorem embed_project {space : Matrix (Fin 4) (Fin 4) K} (flat : IsFlat space) :
    embed (project space) = space := by
  have row := fun column => congrFun flat.row column
  have first := flat.column 0 (by decide)
  have second := flat.column 1 (by decide)
  have last := flat.column 3 (by decide)
  ext i j
  fin_cases i <;> fin_cases j <;> simp [embed, project, row, first, second, last]

theorem embed_one : embed (1 : Matrix (Fin 3) (Fin 3) K) = 1 := by
  ext row column
  fin_cases row <;> fin_cases column <;> simp [embed]

/-! ## Concatenation -/

/-- The coordinates of the plane in space. -/
def place : Fin 3 → Fin 4 := ![0, 1, 3]

/-- A coordinate of space is the third one or one of the plane. -/
theorem place_cases (index : Fin 4) : index = 2 ∨ ∃ coordinate, index = place coordinate := by
  revert index
  decide

theorem embed_place (plane : Matrix (Fin 3) (Fin 3) K) (row column : Fin 3) :
    embed plane (place row) (place column) = plane row column := by
  fin_cases row <;> fin_cases column <;> rfl

theorem embed_row (plane : Matrix (Fin 3) (Fin 3) K) (column : Fin 3) :
    embed plane 2 (place column) = 0 := by
  fin_cases column <;> rfl

theorem embed_column (plane : Matrix (Fin 3) (Fin 3) K) (row : Fin 3) :
    embed plane (place row) 2 = 0 := by
  fin_cases row <;> rfl

theorem embed_third (plane : Matrix (Fin 3) (Fin 3) K) : embed plane 2 2 = 1 :=
  rfl

theorem sum_place (term : Fin 4 → K) :
    ∑ index, term index = ∑ coordinate, term (place coordinate) + term 2 := by
  rw [Fin.sum_univ_four, Fin.sum_univ_three]
  exact add_right_comm (term 0 + term 1) (term 2) (term 3)

/-- Concatenating transforms of the plane is concatenating them in space. -/
theorem embed_mul (first second : Matrix (Fin 3) (Fin 3) K) :
    embed (first * second) = embed first * embed second := by
  ext row column
  rw [Matrix.mul_apply, sum_place]
  obtain rfl | ⟨row, rfl⟩ := place_cases row
  · obtain rfl | ⟨column, rfl⟩ := place_cases column
    · simp only [embed_row, embed_column, embed_third, mul_zero, Finset.sum_const_zero, zero_add,
        mul_one]
    · simp only [embed_row, embed_third, mul_zero, zero_mul, Finset.sum_const_zero, add_zero]
  · obtain rfl | ⟨column, rfl⟩ := place_cases column
    · simp only [embed_column, embed_third, mul_zero, zero_mul, Finset.sum_const_zero, add_zero]
    · simp only [embed_row, embed_column, embed_place, mul_zero, add_zero, Matrix.mul_apply]

end Homogeneous

end FlutterEngine.Std
