import FlutterEngine.Std.Machine

/-!
# Guards that are exact

A step that keeps what is at stake exactly when its guard holds. When it does not, the stake is
lost, and no later step brings it back; so a whole run keeps the stake exactly when every step
of it meets its guard.
-/

namespace FlutterEngine.Std

universe u v w

/-- What is kept, and what it is to have lost it. -/
structure Stake (State : Type u) where
  Kept : State → Prop
  Lost : State → Prop
  exclusive : ∀ {state}, Kept state → ¬ Lost state

/-- The stake of a part of the state. -/
def Stake.comap {State : Type u} {Part : Type v} (part : State → Part) (stake : Stake Part) :
    Stake State where
  Kept state := stake.Kept (part state)
  Lost state := stake.Lost (part state)
  exclusive := stake.exclusive

/-- A step from one state to the next. -/
structure ExactGuard {State : Type u} {Next : Type v} (before : Stake State) (after : Stake Next)
    (state : State) (guard : Prop) (next : Next) : Prop where
  keeps : before.Kept state → guard → after.Kept next
  loses : before.Kept state → ¬ guard → after.Lost next
  stays : before.Lost state → after.Lost next

/-- Every operation of the list meets its guard in the state it is issued in. -/
def MeetsGuards {State : Type u} {Op : Type v} (guard : State → Op → Prop)
    (step : State → Op → State) : State → List Op → Prop
  | _, [] => True
  | state, op :: ops => guard state op ∧ MeetsGuards guard step (step state op) ops

namespace ExactGuard

variable {State : Type u} {Next : Type v} {Final : Type w} {before : Stake State}
  {between : Stake Next} {after : Stake Final} {state : State} {next : Next} {final : Final}
  {guard later : Prop}

theorem kept_iff (step : ExactGuard before between state guard next) (kept : before.Kept state) :
    between.Kept next ↔ guard := by
  constructor
  · intro still
    by_contra unmet
    exact between.exclusive still (step.loses kept unmet)
  · exact step.keeps kept

theorem refl (state : State) : ExactGuard before before state True state :=
  ⟨fun kept _ => kept, fun _ unmet => absurd trivial unmet, id⟩

theorem trans (first : ExactGuard before between state guard next)
    (second : ExactGuard between after next later final) :
    ExactGuard before after state (guard ∧ later) final := by
  refine ⟨fun kept meets => second.keeps (first.keeps kept meets.1) meets.2, ?_,
    fun lost => second.stays (first.stays lost)⟩
  intro kept unmet
  by_cases meets : guard
  · exact second.loses (first.keeps kept meets) fun meetsLater => unmet ⟨meets, meetsLater⟩
  · exact second.stays (first.loses kept meets)

theorem congr (step : ExactGuard before between state guard next) (same : guard ↔ later) :
    ExactGuard before between state later next :=
  propext same ▸ step

variable {Op : Type w} {guards : State → Op → Prop} {step : State → Op → State}

/-- A run keeps the stake exactly when it meets its guards. -/
theorem foldl
    (each : ∀ state op, ExactGuard before before state (guards state op) (step state op))
    (state : State) (ops : List Op) :
    ExactGuard before before state (MeetsGuards guards step state ops) (ops.foldl step state) := by
  induction ops generalizing state with
  | nil => exact refl state
  | cons op ops ih => exact (each state op).trans (ih (step state op))

/-- A run of a machine keeps the stake exactly when it meets its guards. -/
theorem run {machine : Machine State Op}
    (each : ∀ {state op next}, machine.step state op = some next →
      ExactGuard before before state (guards state op) next)
    {state final : State} {ops : List Op} (runs : machine.run state ops = some final) :
    ExactGuard before before state (machine.Meets guards state ops) final := by
  induction ops generalizing state with
  | nil =>
    cases runs
    exact refl _
  | cons op ops ih =>
    obtain ⟨next, transition, rest⟩ := Option.bind_eq_some_iff.mp runs
    refine ((each transition).trans (ih rest)).congr (and_congr_right fun _ => ?_)
    constructor
    · intro meets other same
      rwa [← Option.some_inj.mp (transition.symm.trans same)]
    · exact fun meets => meets next transition

end ExactGuard

end FlutterEngine.Std
