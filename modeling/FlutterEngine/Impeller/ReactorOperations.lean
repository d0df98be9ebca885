import FlutterEngine.Impeller.ReactorGLES
import FlutterEngine.Std.FrameLock

/-!
# The operations of the reactor

Whatever the interleaving, the operations that were started, those that the holder of
`ops_execution_mutex_` has taken and those that wait are, in this order, the operations that were
added. That no thread waits for itself needs more: `FlushOps` lets go of the other locks in case
the operations enqueue more operations, but not of this one, and an operation that adds another on
a thread that can react locks it again.
-/

namespace FlutterEngine.Impeller

open FlutterEngine.Std

namespace ReactorFrame

/-- The operations that the frame has taken and not started. -/
def rest : ReactorFrame → List Nat
  | .running rest | .executing _ rest _ => rest
  | .asking | .looping | .locking | .consolidating | .flushing => []

def executes : ReactorFrame → Bool
  | .executing .. => true
  | _ => false

theorem rest_of_not_locks {frame : ReactorFrame} (outside : frame.locks = false) :
    frame.rest = [] := by
  cases frame with
  | asking | looping | locking => rfl
  | consolidating | flushing | running | executing => simp [locks] at outside

/-- A stack that is not in the lock has taken no operations. -/
theorem flatMap_rest_eq_nil {stack : List ReactorFrame} (outside : stack.countP locks = 0) :
    stack.flatMap rest = [] := by
  rw [List.flatMap_eq_nil_iff]
  intro frame member
  refine rest_of_not_locks ?_
  have unlocked := List.countP_eq_zero.mp outside frame member
  simpa using unlocked

end ReactorFrame

namespace ReactorGLES

variable {Thread : Type} [DecidableEq Thread] {reactor next : ReactorGLES Thread}
  {thread : Thread} {op : ReactorStep} {frame : ReactorFrame} {stack below : List ReactorFrame}

/-- The operations that the holder of `ops_execution_mutex_` has taken and not started. -/
def remaining (reactor : ReactorGLES Thread) : List Nat :=
  match reactor.executor with
  | none => []
  | some thread => (reactor.frames thread).flatMap ReactorFrame.rest

/-- One thread at a time is in `ReactOnce`, and the operations pass from the queue to it in the
order in which they were added. -/
structure Serialized (reactor : ReactorGLES Thread) : Prop where
  held : Held ReactorFrame.locks reactor.executor reactor.frames
  nested : ∀ thread, ∀ frame ∈ (reactor.frames thread).tail, frame.executes = true
  inOrder : reactor.started ++ reactor.remaining ++ reactor.ops = List.range reactor.added

omit [DecidableEq Thread] in
theorem remaining_of_none (free : reactor.executor = none) : reactor.remaining = [] := by
  simp only [remaining, free]

omit [DecidableEq Thread] in
theorem remaining_of_some (holds : reactor.executor = some thread) :
    reactor.remaining = (reactor.frames thread).flatMap ReactorFrame.rest := by
  simp only [remaining, holds]

@[simp] theorem setStack_frames :
    (reactor.setStack thread stack).frames = Function.update reactor.frames thread stack := rfl

/-- A stack that takes the same operations takes the place of a thread's stack. -/
theorem remaining_setStack
    (same : stack.flatMap ReactorFrame.rest = (reactor.frames thread).flatMap ReactorFrame.rest) :
    (reactor.setStack thread stack).remaining = reactor.remaining := by
  cases holder : reactor.executor with
  | none => rw [remaining_of_none holder, remaining_of_none (by exact holder)]
  | some other =>
    rw [remaining_of_some holder, remaining_of_some (by exact holder), setStack_frames]
    by_cases this : other = thread
    · subst this
      rw [Function.update_self, same]
    · rw [Function.update_of_ne this]

/-- The holder's stack is the one that counts. -/
theorem remaining_setStack_of_some (holds : reactor.executor = some thread) :
    (reactor.setStack thread stack).remaining = stack.flatMap ReactorFrame.rest := by
  have after : (reactor.setStack thread stack).executor = some thread := holds
  rw [remaining_of_some after, setStack_frames, Function.update_self]

/-! ## Preservation -/

namespace Serialized

section

variable (inv : reactor.Serialized)

include inv

theorem nested_update (tail : ∀ frame ∈ stack.tail, frame.executes = true) (other : Thread) :
    ∀ frame ∈ (Function.update reactor.frames thread stack other).tail, frame.executes = true := by
  by_cases this : other = thread
  · subst this
    rwa [Function.update_self]
  · rw [Function.update_of_ne this]
    exact inv.nested other

theorem setStack
    (locks : stack.countP ReactorFrame.locks = (reactor.frames thread).countP ReactorFrame.locks)
    (tail : ∀ frame ∈ stack.tail, frame.executes = true)
    (rest : stack.flatMap ReactorFrame.rest =
      (reactor.frames thread).flatMap ReactorFrame.rest) :
    (reactor.setStack thread stack).Serialized where
  held := inv.held.replace locks
  nested := inv.nested_update tail
  inOrder := by
    rw [remaining_setStack rest]
    exact inv.inOrder

/-- Where a thread makes calls, all of its frames execute operations. -/
theorem executes_of_mayCall (may : reactor.mayCall thread = true) :
    ∀ frame ∈ reactor.frames thread, frame.executes = true := by
  have nested := inv.nested thread
  unfold mayCall at may
  split at may
  · next shape =>
      rw [shape]
      exact fun _ member => absurd member List.not_mem_nil
  · next shape =>
      rw [shape] at nested ⊢
      exact List.forall_mem_cons.mpr ⟨rfl, nested⟩
  · exact absurd may Bool.false_ne_true

theorem push_asking (may : reactor.mayCall thread = true) :
    (reactor.push thread .asking).Serialized :=
  inv.setStack (List.countP_cons_of_neg (by simp [ReactorFrame.locks]))
    (inv.executes_of_mayCall may) (by rw [List.flatMap_cons]; rfl)

theorem addOperation (may : reactor.mayCall thread = true)
    (null : Bool) : (reactor.addOperation thread null).Serialized := by
  unfold ReactorGLES.addOperation
  split
  · exact inv
  · have queued : Serialized
        { reactor with ops := reactor.ops ++ [reactor.added], added := reactor.added + 1 } :=
      { held := inv.held
        nested := inv.nested
        inOrder := by
          change reactor.started ++ reactor.remaining ++ (reactor.ops ++ [reactor.added]) = _
          rw [← List.append_assoc, inv.inOrder, List.range_succ] }
    exact queued.push_asking may

theorem createHandle (type : HandleType) (canReact : Bool) :
    (reactor.createHandle type canReact).Serialized := by
  unfold ReactorGLES.createHandle
  split
  · exact inv
  · dsimp only
    split <;> exact ⟨inv.held, inv.nested, inv.inOrder⟩

theorem getGLHandle (handle : HandleGLES) :
    (reactor.getGLHandle thread handle).Serialized := by
  unfold ReactorGLES.getGLHandle
  split
  · exact inv
  · next name _ =>
      have returned : Serialized { reactor with gl := reactor.gl.record (.returned name) } :=
        ⟨inv.held, inv.nested, inv.inOrder⟩
      dsimp only
      split
      · next shape =>
          have nested := inv.nested thread
          rw [shape] at nested
          refine returned.setStack ?_ nested ?_
          · change _ = (reactor.frames thread).countP _
            rw [shape]
            rfl
          · change _ = (reactor.frames thread).flatMap _
            rw [shape]
            rfl
      · exact returned

theorem setDebugLabel (handle : HandleGLES) (label : String) :
    (reactor.setDebugLabel handle label).Serialized := by
  unfold ReactorGLES.setDebugLabel
  split
  · exact inv
  · exact ⟨inv.held, inv.nested, inv.inOrder⟩

theorem call (may : reactor.mayCall thread = true)
    (called : reactor.call thread op = some next) : next.Serialized := by
  cases op with
  | addOperation null =>
    obtain rfl := Option.some.inj called
    exact inv.addOperation may null
  | react =>
    obtain rfl := Option.some.inj called
    exact inv.push_asking may
  | createHandle type canReact =>
    obtain rfl := Option.some.inj called
    exact inv.createHandle type canReact
  | collectHandle handle =>
    obtain rfl := Option.some.inj called
    exact ⟨inv.held, inv.nested, inv.inOrder⟩
  | getGLHandle handle =>
    obtain rfl := Option.some.inj called
    exact inv.getGLHandle handle
  | setDebugLabel handle label =>
    obtain rfl := Option.some.inj called
    exact inv.setDebugLabel handle label
  | canReactOnCurrentThread | hasPendingOperations | lockExecution | consolidateHandles | swapOps
  | startOperation | finishOperation | unlockExecution => cases called

theorem executes_below (shape : reactor.frames thread = frame :: below) :
    ∀ frame ∈ below, frame.executes = true := by
  have nested := inv.nested thread
  rwa [shape] at nested

/-- The innermost frame changes, and takes the same operations. -/
theorem setTop (shape : reactor.frames thread = frame :: below)
    {top : ReactorFrame} (locks : top.locks = frame.locks) (rest : top.rest = frame.rest) :
    (reactor.setStack thread (top :: below)).Serialized := by
  refine inv.setStack ?_ (inv.executes_below shape) ?_
  · rw [shape, List.countP_cons, List.countP_cons, locks]
  · rw [shape, List.flatMap_cons, List.flatMap_cons, rest]

/-- A frame outside of the lock ends. -/
theorem pop (shape : reactor.frames thread = frame :: below)
    (outside : frame.locks = false) : (reactor.setStack thread below).Serialized := by
  refine inv.setStack ?_ (fun _ member => inv.executes_below shape _ (List.mem_of_mem_tail member))
    ?_
  · rw [shape, List.countP_cons_of_neg (by simp [outside])]
  · rw [shape, List.flatMap_cons, ReactorFrame.rest_of_not_locks outside, List.nil_append]

/-- In a frame that locks, the thread has locked `ops_execution_mutex_`, and the frames below it
have taken no operations. -/
theorem remaining_of_top
    (shape : reactor.frames thread = frame :: below) (inLock : frame.locks = true) :
    reactor.executor = some thread ∧ reactor.remaining = frame.rest := by
  have holds := inv.held.holder_of_mem (shape ▸ List.mem_cons_self) inLock
  refine ⟨holds, ?_⟩
  rw [remaining_of_some holds, shape, List.flatMap_cons,
    ReactorFrame.flatMap_rest_eq_nil (inv.held.below_of_top shape inLock), List.append_nil]

/-- A thread with no operations left unlocks `ops_execution_mutex_`. -/
theorem unlock (shape : reactor.frames thread = frame :: below)
    (inLock : frame.locks = true) (done : frame.rest = [])
    (locks : stack.countP ReactorFrame.locks = 0)
    (tail : ∀ frame ∈ stack.tail, frame.executes = true) :
    ({ reactor with executor := none }.setStack thread stack).Serialized := by
  obtain ⟨holds, left⟩ := inv.remaining_of_top shape inLock
  have held := inv.held
  rw [holds] at held
  have inOrder := inv.inOrder
  rw [left, done] at inOrder
  exact ⟨held.release locks, inv.nested_update tail, inOrder⟩

/-- A thread locks `ops_execution_mutex_`. -/
theorem lock (free : reactor.executor = none) (shape : reactor.frames thread = .locking :: below) :
    ({ reactor with executor := some thread }.setStack thread
      (.consolidating :: below)).Serialized := by
  have held := inv.held
  rw [free] at held
  have outside : below.countP ReactorFrame.locks = 0 := by
    have counted := held thread
    rwa [shape, List.countP_cons_of_neg (by simp [ReactorFrame.locks]), if_neg nofun] at counted
  have inOrder := inv.inOrder
  rw [remaining_of_none free] at inOrder
  refine ⟨held.acquire ?_, inv.nested_update (inv.executes_below shape), ?_⟩
  · rw [List.countP_cons_of_pos rfl, outside]
  · rw [remaining_setStack_of_some rfl, List.flatMap_cons,
      ReactorFrame.flatMap_rest_eq_nil outside, List.append_nil]
    exact inOrder

/-- `ReactOnce` takes operations of the queue, or starts one that it has taken. -/
theorem progress (shape : reactor.frames thread = frame :: below)
    (inLock : frame.locks = true) {top : ReactorFrame} {started ops : List Nat}
    (locks : top.locks = true)
    (same : started ++ top.rest ++ ops = reactor.started ++ frame.rest ++ reactor.ops) :
    ({ reactor with started := started, ops := ops }.setStack thread
      (top :: below)).Serialized := by
  obtain ⟨holds, left⟩ := inv.remaining_of_top shape inLock
  have same_locks : (top :: below).countP ReactorFrame.locks =
      (reactor.frames thread).countP ReactorFrame.locks := by
    rw [shape, List.countP_cons_of_pos locks, List.countP_cons_of_pos inLock]
  refine ⟨inv.held.replace same_locks, inv.nested_update (inv.executes_below shape), ?_⟩
  have outside := ReactorFrame.flatMap_rest_eq_nil (inv.held.below_of_top shape inLock)
  have holdsAfter : { reactor with started := started, ops := ops }.executor = some thread := holds
  rw [remaining_setStack_of_some holdsAfter, List.flatMap_cons, outside, List.append_nil]
  change started ++ top.rest ++ ops = List.range reactor.added
  rw [same, ← left, inv.inOrder]

theorem consolidateHandles (labels : List HandleGLES) :
    (reactor.consolidateHandles labels).2.Serialized :=
  ⟨inv.held, inv.nested, inv.inOrder⟩

theorem reaction (shape : reactor.frames thread = frame :: below)
    (reacted : reactor.reaction thread below frame op = some next) : next.Serialized := by
  have tail : ∀ frame ∈ below.tail, frame.executes = true :=
    fun _ member => inv.executes_below shape _ (List.mem_of_mem_tail member)
  unfold ReactorGLES.reaction at reacted
  split at reacted
  -- asking
  · obtain rfl := Option.some.inj reacted
    split
    · exact inv.setTop shape rfl rfl
    · exact inv.pop shape rfl
  -- looping
  · obtain rfl := Option.some.inj reacted
    split
    · exact inv.pop shape rfl
    · exact inv.setTop shape rfl rfl
  -- locking
  · split at reacted
    · cases reacted
    · next free =>
        obtain rfl := Option.some.inj reacted
        exact inv.lock free shape
  -- consolidating
  · next labels =>
      have outside := inv.held.below_of_top shape rfl
      split at reacted
      · obtain rfl := Option.some.inj reacted
        exact inv.unlock shape rfl rfl outside tail
      · dsimp only at reacted
        split at reacted
        · obtain rfl := Option.some.inj reacted
          exact (inv.consolidateHandles labels).setTop shape rfl rfl
        · obtain rfl := Option.some.inj reacted
          exact (inv.consolidateHandles labels).unlock shape rfl rfl outside tail
  -- flushing
  · obtain rfl := Option.some.inj reacted
    exact inv.progress shape rfl rfl (by simp [ReactorFrame.rest])
  -- running, an operation
  · obtain rfl := Option.some.inj reacted
    exact inv.progress shape rfl rfl (by simp [ReactorFrame.rest])
  -- executing
  · obtain rfl := Option.some.inj reacted
    exact inv.setTop shape rfl rfl
  -- running, at the end
  · obtain rfl := Option.some.inj reacted
    refine inv.unlock shape rfl rfl ?_ (inv.executes_below shape)
    rw [List.countP_cons_of_neg (by simp [ReactorFrame.locks])]
    exact inv.held.below_of_top shape rfl
  · cases reacted

theorem step {threadStep : Thread × ReactorStep}
    (transition : reactor.step threadStep = some next) : next.Serialized := by
  rcases step_cases transition with ⟨may, called⟩ | ⟨frame, below, shape, reacted⟩
  · exact inv.call may called
  · exact inv.reaction shape reacted

end

theorem initial (valid : machine.Initial reactor) : reactor.Serialized := by
  obtain ⟨isValid, canSetDebugLabels, rfl⟩ := valid
  exact ⟨Held.empty, fun _ _ member => absurd member List.not_mem_nil, rfl⟩

end Serialized

/-! ## Threads that wait -/

/-- No thread is about to lock `ops_execution_mutex_` while it has locked it. -/
def WaitsForOthers (reactor : ReactorGLES Thread) : Prop :=
  ∀ thread, (reactor.frames thread).head? = some .locking → reactor.executor ≠ some thread

/-- A reaction that an executed operation starts finds no operation. -/
def ReactsOutside (reactor : ReactorGLES Thread) (threadStep : Thread × ReactorStep) : Prop :=
  threadStep.2 = .hasPendingOperations → reactor.executor = some threadStep.1 → reactor.ops = []

namespace WaitsForOthers

/-- A thread's stack changes, and the thread does not lock `ops_execution_mutex_`. -/
theorem setStack (inv : reactor.WaitsForOthers)
    (waits : stack.head? = some .locking → reactor.executor ≠ some thread) :
    (reactor.setStack thread stack).WaitsForOthers := by
  intro other locking
  by_cases this : other = thread
  · subst this
    rw [setStack_frames, Function.update_self] at locking
    exact waits locking
  · rw [setStack_frames, Function.update_of_ne this] at locking
    exact inv other locking

omit [DecidableEq Thread] in
/-- Nothing is locked, and nothing waits for itself. -/
theorem of_free (free : reactor.executor = none) : reactor.WaitsForOthers := by
  intro other _ holds
  rw [free] at holds
  cases holds

omit [DecidableEq Thread] in
/-- A thread that locks `ops_execution_mutex_` goes on in another frame. -/
theorem of_lock (holds : reactor.executor = some thread)
    (top : (reactor.frames thread).head? ≠ some .locking) : reactor.WaitsForOthers := by
  intro other locking same
  obtain rfl : thread = other := Option.some.inj (holds.symm.trans same)
  exact top locking

theorem call (inv : reactor.WaitsForOthers) (called : reactor.call thread op = some next) :
    next.WaitsForOthers := by
  cases op with
  | addOperation null =>
    obtain rfl := Option.some.inj called
    unfold ReactorGLES.addOperation
    split
    · exact inv
    · have queued : WaitsForOthers
          { reactor with ops := reactor.ops ++ [reactor.added], added := reactor.added + 1 } :=
        inv
      exact queued.setStack nofun
  | react =>
    obtain rfl := Option.some.inj called
    exact inv.setStack nofun
  | createHandle type canReact =>
    obtain rfl := Option.some.inj called
    unfold ReactorGLES.createHandle
    split
    · exact inv
    · dsimp only
      split <;> exact inv
  | collectHandle handle =>
    obtain rfl := Option.some.inj called
    exact inv
  | getGLHandle handle =>
    obtain rfl := Option.some.inj called
    unfold ReactorGLES.getGLHandle
    split
    · exact inv
    · next name _ =>
        have returned : WaitsForOthers
            { reactor with gl := reactor.gl.record (.returned name) } := inv
        dsimp only
        split
        · exact returned.setStack nofun
        · exact returned
  | setDebugLabel handle label =>
    obtain rfl := Option.some.inj called
    unfold ReactorGLES.setDebugLabel
    split <;> exact inv
  | canReactOnCurrentThread | hasPendingOperations | lockExecution | consolidateHandles | swapOps
  | startOperation | finishOperation | unlockExecution => cases called

theorem reaction (inv : reactor.WaitsForOthers) (serialized : reactor.Serialized)
    (meets : reactor.ReactsOutside (thread, op))
    (shape : reactor.frames thread = frame :: below)
    (reacted : reactor.reaction thread below frame op = some next) : next.WaitsForOthers := by
  -- below a frame there are operations, and none of them locks
  have executes := serialized.executes_below shape
  have outside : below.head? ≠ some .locking := by
    intro locking
    exact absurd (executes _ (List.mem_of_mem_head? locking)) Bool.false_ne_true
  unfold ReactorGLES.reaction at reacted
  split at reacted
  · obtain rfl := Option.some.inj reacted
    refine inv.setStack ?_
    split
    · exact nofun
    · exact fun locking => absurd locking outside
  · obtain rfl := Option.some.inj reacted
    refine inv.setStack ?_
    split
    · exact fun locking => absurd locking outside
    · next pending =>
        intro _ holds
        rw [meets rfl holds] at pending
        exact pending rfl
  · split at reacted
    · cases reacted
    · obtain rfl := Option.some.inj reacted
      refine of_lock (show _ = some thread from rfl) ?_
      rw [setStack_frames, Function.update_self]
      exact nofun
  · next labels =>
    split at reacted
    · obtain rfl := Option.some.inj reacted
      exact of_free rfl
    · dsimp only at reacted
      split at reacted
      · obtain rfl := Option.some.inj reacted
        have consolidated : (reactor.consolidateHandles labels).2.WaitsForOthers := inv
        exact consolidated.setStack nofun
      · obtain rfl := Option.some.inj reacted
        exact of_free rfl
  · obtain rfl := Option.some.inj reacted
    have swapped : WaitsForOthers { reactor with ops := [] } := inv
    exact swapped.setStack nofun
  · next operation rest =>
      obtain rfl := Option.some.inj reacted
      have started : WaitsForOthers
          { reactor with started := reactor.started ++ [operation] } := inv
      exact started.setStack nofun
  · obtain rfl := Option.some.inj reacted
    exact inv.setStack nofun
  · obtain rfl := Option.some.inj reacted
    exact of_free rfl
  · cases reacted

end WaitsForOthers

/-! ## Runs -/

/-- Operations are started in the order in which they were added, each at most once, and no thread
locks `ops_execution_mutex_` twice. -/
structure ExecutesInOrder (reactor : ReactorGLES Thread) : Prop where
  once : reactor.started.Nodup
  inOrder : reactor.started <+: List.range reactor.added
  waitsForOthers : reactor.WaitsForOthers

/-- In any interleaving, with any nesting of calls, the reactor starts operations in order. -/
theorem reachable_serialized {Cond : ReactorGLES Thread → Thread × ReactorStep → Prop}
    (reached : machine.Reachable Cond reactor) : reactor.Serialized :=
  reached.invariant Serialized (fun _ valid => .initial valid) fun inv _ transition =>
    inv.step transition

theorem Serialized.startedInOrder (inv : reactor.Serialized) :
    reactor.started <+: List.range reactor.added :=
  ⟨reactor.remaining ++ reactor.ops, by rw [← List.append_assoc, inv.inOrder]⟩

/-- In a run in which no executed operation starts a reaction that finds an operation, every
operation is executed in order, and no thread waits for itself. -/
theorem reachable_executesInOrder (reached : machine.Reachable ReactsOutside reactor) :
    reactor.ExecutesInOrder := by
  have started := (reachable_serialized reached).startedInOrder
  refine ⟨List.Sublist.nodup started.sublist List.nodup_range, started, ?_⟩
  induction reached with
  | initial valid =>
    obtain ⟨_, _, rfl⟩ := valid
    exact .of_free rfl
  | step threadStep prior meets transition ih =>
    have serialized := reachable_serialized prior
    have waits := ih serialized.startedInOrder
    rcases step_cases transition with ⟨_, called⟩ | ⟨frame, below, shape, reacted⟩
    · exact waits.call called
    · exact waits.reaction serialized meets shape reacted

/-- In any interleaving, whatever operations call, each operation has been started, is taken by the
thread in the lock or is queued, in the order of the calls that added them. -/
theorem reachable_conservesOperations (reached : machine.Reachable (fun _ _ => True) reactor) :
    reactor.started ++ reactor.remaining ++ reactor.ops = List.range reactor.added :=
  (reachable_serialized reached).inOrder

section Samples

instance (reactor : ReactorGLES Thread) (threadStep : Thread × ReactorStep) :
    Decidable (reactor.ReactsOutside threadStep) :=
  inferInstanceAs (Decidable (_ → _ → _))

def opened : ReactorGLES Nat := { isValid := true, canSetDebugLabels := true }

theorem reachable_conservesOperations_added :
    ∃ reactor : ReactorGLES Nat, reactor.ops = [0] ∧
      reactor.started ++ reactor.remaining ++ reactor.ops = List.range reactor.added := by
  have start : machine.Reachable (fun _ _ => True) opened := .initial ⟨true, true, rfl⟩
  obtain ⟨reactor, reached, queued⟩ := start.exists_of_run [(0, .addOperation false)]
    (fun reactor => reactor.ops = [0]) (by decide) (by decide)
  exact ⟨reactor, of_decide_eq_true queued, reachable_conservesOperations reached⟩

/-- An operation of a thread adds another where the thread cannot react, and a third operation is
added by a thread that waits for the first. -/
theorem reachable_executesInOrder_added :
    ∃ reactor : ReactorGLES Nat, machine.Reachable ReactsOutside reactor ∧
      reactor.started = [0, 1, 2] ∧ reactor.ExecutesInOrder := by
  have start : machine.Reachable ReactsOutside opened := .initial ⟨true, true, rfl⟩
  obtain ⟨reactor, reached, started⟩ := start.exists_of_run
    [(0, .addOperation false), (0, .canReactOnCurrentThread true), (0, .hasPendingOperations),
      (0, .lockExecution), (0, .consolidateHandles []), (0, .swapOps), (0, .startOperation),
      (0, .addOperation false), (1, .addOperation false), (1, .canReactOnCurrentThread true),
      (1, .hasPendingOperations), (0, .canReactOnCurrentThread false), (0, .finishOperation),
      (0, .unlockExecution), (1, .lockExecution), (1, .consolidateHandles []), (1, .swapOps),
      (1, .startOperation), (1, .finishOperation), (1, .startOperation)]
    (fun reactor => reactor.started = [0, 1, 2]) (by decide) (by decide)
  exact ⟨reactor, reached, of_decide_eq_true started, reachable_executesInOrder reached⟩

/-- An operation adds another where its thread can react, and the thread waits for itself. -/
theorem not_executesInOrder_of_nested :
    ¬∀ reactor : ReactorGLES Nat, machine.Reachable (fun _ _ => True) reactor →
      reactor.ExecutesInOrder := by
  intro executes
  have start : machine.Reachable (fun _ _ => True) opened := .initial ⟨true, true, rfl⟩
  obtain ⟨reactor, reached, checked⟩ := start.exists_of_run
    [(0, .addOperation false), (0, .canReactOnCurrentThread true), (0, .hasPendingOperations),
      (0, .lockExecution), (0, .consolidateHandles []), (0, .swapOps), (0, .startOperation),
      (0, .addOperation false), (0, .canReactOnCurrentThread true), (0, .hasPendingOperations)]
    (fun reactor => (reactor.frames 0).head? = some .locking ∧ reactor.executor = some 0)
    (by decide) (by decide)
  obtain ⟨locking, holds⟩ := of_decide_eq_true checked
  exact (executes reactor reached).waitsForOthers 0 locking holds

end Samples

end ReactorGLES

end FlutterEngine.Impeller
