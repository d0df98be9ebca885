import Mathlib.Data.Option.Basic

/-!
# What effects ensure

An effect reads and changes a state, and may not complete. `Ensures` is a triple of a condition
before, an effect and a condition after; the rules follow how effects are built.
-/

namespace FlutterEngine.Std

universe u

variable {σ α β : Type u}

/-- From a state where `before` holds, a completed run ends with a result and in a state where
`after` holds. -/
def Ensures (before : σ → Prop) (effect : StateT σ Option α) (after : α → σ → Prop) : Prop :=
  ∀ state result next, before state → effect.run state = some (result, next) → after result next

/-- A completed run keeps the invariant. -/
abbrev Keeps (Inv : σ → Prop) (effect : StateT σ Option α) : Prop :=
  Ensures Inv effect fun _ => Inv

/-- The effect, when it is decided. -/
def performIf (decision : Prop) [Decidable decision] (effect : StateT σ Option PUnit) :
    StateT σ Option PUnit :=
  if decision then effect else pure ⟨⟩

namespace Ensures

variable {before between : σ → Prop} {after : α → σ → Prop} {last : β → σ → Prop}
  {effect : StateT σ Option α} {rest : α → StateT σ Option β}

theorem pure {result : α} (holds : ∀ state, before state → after result state) :
    Ensures before (Pure.pure result) after := by
  intro state _ _ start runs
  cases runs
  exact holds state start

theorem bind (first : Ensures before effect after)
    (second : ∀ result, Ensures (after result) (rest result) last) :
    Ensures before (effect >>= rest) last := by
  intro state final next start runs
  rw [StateT.run_bind] at runs
  obtain ⟨⟨result, between⟩, runs, continues⟩ := Option.bind_eq_some_iff.mp runs
  exact second result between final next (first state result between start runs) continues

/-- What follows a read may depend on all that holds of the state that was read. -/
theorem get_bind {rest : σ → StateT σ Option β}
    (reads : ∀ state, before state → Ensures (fun now => now = state) (rest state) last) :
    Ensures before (MonadState.get >>= rest) last := by
  intro state final next start runs
  exact reads state start state final next rfl runs

/-- What follows a read may use what held before it, of the state that was read. -/
theorem read {rest : σ → StateT σ Option β}
    (reads : ∀ state, before state → Ensures before (rest state) last) :
    Ensures before (MonadState.get >>= rest) last :=
  get_bind fun state start _ final next same runs =>
    reads state start _ final next (same ▸ start) runs

theorem modify {change : σ → σ} {after : PUnit → σ → Prop}
    (holds : ∀ state, before state → after ⟨⟩ (change state)) :
    Ensures before (modify change) after := by
  intro state _ _ start runs
  cases runs
  exact holds state start

theorem ite {decision : Prop} [Decidable decision] {yes no : StateT σ Option α}
    (holds : decision → Ensures before yes after) (fails : ¬decision → Ensures before no after) :
    Ensures before (if decision then yes else no) after := by
  by_cases decided : decision
  · rw [if_pos decided]
    exact holds decided
  · rw [if_neg decided]
    exact fails decided

theorem performIf {decision : Prop} [Decidable decision] {effect : StateT σ Option PUnit}
    {after : PUnit → σ → Prop} (holds : decision → Ensures before effect after)
    (fails : ¬decision → ∀ state, before state → after ⟨⟩ state) :
    Ensures before (performIf decision effect) after :=
  .ite holds fun decided => .pure (fails decided)

theorem failure : Ensures before (failure : StateT σ Option α) after := by
  intro state _ _ _ runs
  cases runs

/-- What is known before, whatever the state, may be used. -/
theorem assume {known : Prop} (ensures : known → Ensures before effect after) :
    Ensures (fun state => before state ∧ known) effect after :=
  fun state result next ⟨start, known⟩ => ensures known state result next start

/-- The condition before may be stronger and the one after weaker. -/
theorem mono {weaker : α → σ → Prop} (ensures : Ensures between effect after)
    (stronger : ∀ state, before state → between state)
    (weakens : ∀ result state, after result state → weaker result state) :
    Ensures before effect weaker := fun state result next start runs =>
  weakens result next (ensures state result next (stronger state start) runs)

end Ensures

end FlutterEngine.Std
