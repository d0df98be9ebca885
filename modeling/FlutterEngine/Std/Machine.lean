import Mathlib.Algebra.Order.Ring.Int

/-!
# Machines whose operations may abort

A `Machine` issues operations one at a time; an operation that aborts has no
successor. `Machine.Reachable` admits only the steps whose operation meets a
condition in the state it is issued in, so a condition on callers is part of
the run and not of the machine.
-/

namespace FlutterEngine.Std

universe u v

/-- An initial condition and a deterministic step which may abort. -/
structure Machine (State : Type u) (Op : Type v) where
  Initial : State → Prop
  step : State → Op → Option State

namespace Machine

variable {State : Type u} {Op : Type v} {machine : Machine State Op}
  {Cond : State → Op → Prop}

/-- States reached by steps that all meet `Cond`. -/
inductive Reachable (machine : Machine State Op) (Cond : State → Op → Prop) : State → Prop where
  | initial {state} (valid : machine.Initial state) : Reachable machine Cond state
  | step {state next} (op : Op) (prior : Reachable machine Cond state) (meets : Cond state op)
      (transition : machine.step state op = some next) : Reachable machine Cond next

/-- An invariant of the initial states that every admitted step keeps holds in
every reached state. -/
theorem Reachable.invariant (Inv : State → Prop)
    (initial : ∀ state, machine.Initial state → Inv state)
    (preserved : ∀ {state op next}, Inv state → Cond state op →
      machine.step state op = some next → Inv next)
    {state : State} (reached : machine.Reachable Cond state) : Inv state := by
  induction reached with
  | initial valid => exact initial _ valid
  | step op _ meets transition ih => exact preserved ih meets transition

/-- Issue a list of operations; `none` when one of them aborts. -/
def run (machine : Machine State Op) : State → List Op → Option State
  | state, [] => some state
  | state, op :: ops => (machine.step state op).bind fun next => machine.run next ops

/-- Every operation of the list meets `Cond` in the state it is issued in. -/
def Meets (machine : Machine State Op) (Cond : State → Op → Prop) : State → List Op → Prop
  | _, [] => True
  | state, op :: ops => Cond state op ∧
      ∀ next, machine.step state op = some next → machine.Meets Cond next ops

instance [∀ state op, Decidable (Cond state op)] :
    ∀ state ops, Decidable (machine.Meets Cond state ops)
  | _, [] => inferInstanceAs (Decidable True)
  | state, op :: ops =>
    match transition : machine.step state op with
    | none => decidable_of_iff (Cond state op) (by simp [Meets, transition])
    | some next =>
      have : Decidable (machine.Meets Cond next ops) := instDecidableMeets next ops
      decidable_of_iff (Cond state op ∧ machine.Meets Cond next ops)
        (by simp [Meets, transition])

theorem meets_of_forall (all : ∀ state op, Cond state op) (state : State) (ops : List Op) :
    machine.Meets Cond state ops := by
  induction ops generalizing state with
  | nil => trivial
  | cons op ops ih => exact ⟨all state op, fun next _ => ih next⟩

/-- A list of admitted operations ends in a reached state. -/
theorem Reachable.of_run {state final : State} {ops : List Op}
    (reached : machine.Reachable Cond state) (meets : machine.Meets Cond state ops)
    (runs : machine.run state ops = some final) : machine.Reachable Cond final := by
  induction ops generalizing state with
  | nil =>
    cases runs
    exact reached
  | cons op ops ih =>
    obtain ⟨next, transition, rest⟩ := Option.bind_eq_some_iff.mp runs
    exact ih (.step op reached meets.1 transition) (meets.2 next transition) rest

/-- A list of admitted operations shows a reached state that passes a check. -/
theorem Reachable.exists_of_run {state : State} (reached : machine.Reachable Cond state)
    (ops : List Op) (check : State → Bool) (meets : machine.Meets Cond state ops)
    (passes : (machine.run state ops).any check = true) :
    ∃ final, machine.Reachable Cond final ∧ check final = true := by
  cases runs : machine.run state ops with
  | none => simp [runs] at passes
  | some final => exact ⟨final, reached.of_run meets runs, by simpa [runs] using passes⟩

end Machine

end FlutterEngine.Std
