import Mathlib.Data.List.Basic
import Mathlib.Logic.Function.Iterate

/-!
# States that are saved and restored

A state with the states that were saved before it. A move acts on the current state, or enters a
state and saves the one before; leaving restores the last one saved. Moves whose first one enters
are undone by leaving as often as they enter, whatever they do in between.
-/

namespace FlutterEngine.Std

universe u

/-- `saved` has the states of the enclosing saves, the innermost first. -/
structure SavedStates (State : Type u) where
  current : State
  saved : List State := []
deriving DecidableEq, Repr

inductive Move (State : Type u) where
  | act (apply : State → State)
  | enter (apply : State → State)

variable {State : Type u}

namespace Move

def enters : Move State → Bool
  | .act _ => false
  | .enter _ => true

/-- No move acts before the first one that enters. -/
def Guarded : List (Move State) → Prop
  | [] => True
  | first :: _ => first.enters = true

end Move

namespace SavedStates

variable (states : SavedStates State)

def move : Move State → SavedStates State
  | .act apply => { states with current := apply states.current }
  | .enter apply => ⟨apply states.current, states.current :: states.saved⟩

def moves (list : List (Move State)) : SavedStates State := list.foldl move states

/-- Restore the last state saved, if there is one. -/
def leave : SavedStates State :=
  match states.saved with
  | [] => states
  | last :: saved => ⟨last, saved⟩

variable {states} {list : List (Move State)}

@[simp] theorem moves_cons (first : Move State) :
    states.moves (first :: list) = (states.move first).moves list := rfl

theorem moves_append (list other : List (Move State)) :
    states.moves (list ++ other) = (states.moves list).moves other :=
  List.foldl_append

theorem saved_length_moves :
    (states.moves list).saved.length = states.saved.length + list.countP Move.enters := by
  induction list generalizing states with
  | nil => rfl
  | cons first rest ih =>
    rw [moves_cons, ih]
    cases first with
    | act apply => rw [List.countP_cons_of_neg (by simp [Move.enters])]; rfl
    | enter apply =>
      rw [List.countP_cons_of_pos rfl]
      change states.saved.length + 1 + _ = _
      omega

/-- In a state that was entered, any moves are undone by leaving once more than they enter. -/
theorem leave_iterate_of_entered {entered : SavedStates State}
    (saved : entered.saved = states.current :: states.saved) :
    leave^[list.countP Move.enters + 1] (entered.moves list) = states := by
  induction list generalizing entered states with
  | nil =>
    change leave entered = states
    unfold leave
    rw [saved]
  | cons first rest ih =>
    rw [moves_cons]
    cases first with
    | act apply =>
      rw [List.countP_cons_of_neg (by simp [Move.enters])]
      exact ih saved
    | enter apply =>
      rw [List.countP_cons_of_pos rfl, Function.iterate_succ_apply']
      have inner : leave^[rest.countP Move.enters + 1]
          ((entered.move (.enter apply)).moves rest) = entered := ih rfl
      rw [inner]
      unfold leave
      rw [saved]

/-- Guarded moves are undone by leaving as often as they enter. -/
theorem leave_iterate_moves (guarded : Move.Guarded list) :
    leave^[list.countP Move.enters] (states.moves list) = states := by
  cases list with
  | nil => rfl
  | cons first rest =>
    cases first with
    | act apply => cases guarded
    | enter apply =>
      rw [List.countP_cons_of_pos rfl, moves_cons]
      exact leave_iterate_of_entered rfl

end SavedStates

end FlutterEngine.Std
