import Mathlib.Data.List.Basic

/-!
# Traces

What holds of every event of a trace and the events before it, and the last event of a
kind before the end of a trace.
-/

namespace FlutterEngine.Std

universe u

namespace Trace

variable {Event : Type u} {holds : List Event → Event → Prop} {trace : List Event}

/-- Every event of the trace, given those before it. -/
def Each (holds : List Event → Event → Prop) (trace : List Event) : Prop :=
  ∀ before event after, trace = before ++ event :: after → holds before event

theorem each_nil : Each holds [] := by
  intro before event after split
  exact absurd split (by simp)

theorem Each.concat (each : Each holds trace) {last : Event} (ends : holds trace last) :
    Each holds (trace ++ [last]) := by
  intro before event after split
  obtain rfl | ⟨rest, final, rfl⟩ := List.eq_nil_or_concat after
  · obtain ⟨rfl, same⟩ := List.append_inj' split rfl
    rwa [List.singleton_inj.mp same] at ends
  · rw [List.concat_eq_append, ← List.cons_append, ← List.append_assoc] at split
    exact each before event rest (List.append_inj' split rfl).1

/-- The last event of the trace that passes. -/
def last (passes : Event → Bool) (trace : List Event) : Option Event :=
  (trace.filter passes).getLast?

variable {passes : Event → Bool} {event : Event}

theorem last_concat_pass (pass : passes event = true) :
    last passes (trace ++ [event]) = some event := by
  simp [last, List.filter_append, pass]

theorem last_concat_skip (skip : passes event = false) :
    last passes (trace ++ [event]) = last passes trace := by
  simp [last, List.filter_append, skip]

theorem mem_of_last
    (found : last passes trace = some event) : event ∈ trace ∧ passes event = true :=
  List.mem_filter.mp (List.mem_of_getLast? found)

/-- A run over the events of a trace that pass. -/
theorem foldlM_concat_pass {State : Type u} {step : State → Event → Option State}
    {start state next : State} (pass : passes event = true)
    (run : (trace.filter passes).foldlM step start = some state)
    (moves : step state event = some next) :
    ((trace ++ [event]).filter passes).foldlM step start = some next := by
  simp [List.filter_append, pass, run, moves]

theorem filter_concat_skip (skip : passes event = false) :
    (trace ++ [event]).filter passes = trace.filter passes := by
  simp [List.filter_append, skip]

end Trace

end FlutterEngine.Std
