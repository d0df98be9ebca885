import Mathlib.Logic.Basic

/-!
# Computations that may throw

A computation that is followed by another returns when both do.
-/

namespace FlutterEngine.Std.Exceptions

universe u v

variable {Error : Type u} {α β : Type v} {first : Except Error α} {next : α → Except Error β}
  {result : β}

theorem bind_eq_ok_iff :
    (first >>= next) = .ok result ↔ ∃ value, first = .ok value ∧ next value = .ok result := by
  cases first with
  | error thrown => exact ⟨nofun, fun ⟨_, same, _⟩ => nomatch same⟩
  | ok value =>
    constructor
    · exact fun returns => ⟨value, rfl, returns⟩
    · rintro ⟨other, same, returns⟩
      obtain rfl := Except.ok.inj same
      exact returns

theorem bind_of_eq_ok {value : α} (returns : first = .ok value) :
    (first >>= next) = next value := by
  rw [returns]
  rfl

theorem bind_eq_ok {value : α} (returns : first = .ok value) (last : next value = .ok result) :
    (first >>= next) = .ok result :=
  bind_eq_ok_iff.mpr ⟨value, returns, last⟩

/-- What holds of the value that is returned. -/
theorem exists_eq_ok_and_iff {value : α} {holds : α → Prop} (returns : first = .ok value) :
    (∃ other, first = .ok other ∧ holds other) ↔ holds value := by
  constructor
  · rintro ⟨other, same, held⟩
    obtain rfl := Except.ok.inj (returns.symm.trans same)
    exact held
  · exact fun held => ⟨value, returns, held⟩

end FlutterEngine.Std.Exceptions
