import FlutterEngine.Std.Machine

/-!
# The pipeline

`Pipeline` of `pipeline.h`, one atomic step at a time: tries and signals of the semaphores,
and sections under the queue mutex. A producer continuation is an object that is moved,
completed and destroyed; no two threads use one object at a time. The counter of frames in
flight and the trace identifiers only feed traces and are left out.
-/

namespace FlutterEngine.Shell

open FlutterEngine.Std

/-- `PipelineProduceResult`. -/
structure PipelineProduceResult where
  success : Bool := false
  isFirstItem : Bool := false

/-- `PipelineConsumeResult`. -/
inductive PipelineConsumeResult where
  | noneAvailable
  | done
  | moreAvailable

/-- What a continuation is bound to. -/
inductive Continuation where
  | producerCommit
  | producerCommitIfEmpty

/-- The semaphore that a commit signals. -/
inductive Semaphore where
  | empty
  | available

/-- A `ProducerContinuation`. -/
inductive ProducerContinuation where
  /-- Without a continuation. -/
  | vacant
  | holding (continuation : Continuation)
  /-- In a commit, between its queue section and its signal. -/
  | committing (signals : Semaphore) (result : PipelineProduceResult) (destroyed : Bool)
  | destroyed

/-- Where the consumer is in `Consume`. -/
inductive Consumer (R : Type) where
  | idle
  /-- `available_.TryWait` has succeeded. -/
  | waited
  | popped (resource : Option R) (itemsCount : Nat)
  /-- The consumer has been called. -/
  | called (itemsCount : Nat)

/-- The last five fields record what has been done: the resources in the order of their
commits, those that the consumer was called with, how many calls of `Consume` have signalled
`empty_`, and what `Complete` and `Consume` have returned. -/
structure Pipeline (R : Type) where
  empty : Nat
  available : Nat := 0
  queue : List (Option R) := []
  continuations : List ProducerContinuation := []
  consumer : Consumer R := .idle
  committed : List (Option R) := []
  consumed : List (Option R) := []
  finished : Nat := 0
  produceResults : List PipelineProduceResult := []
  consumeResults : List PipelineConsumeResult := []

/-- A slot is reserved until a commit puts an item in the queue or gives the slot back. -/
def ProducerContinuation.reserves : ProducerContinuation → Bool
  | .holding _ => true
  | .committing .empty _ _ => true
  | _ => false

/-- The item is queued and `available_` not yet signalled. -/
def ProducerContinuation.queued : ProducerContinuation → Bool
  | .committing .available _ _ => true
  | _ => false

namespace Consumer

variable {R : Type} (consumer : Consumer R)

/-- The resource that is popped and not yet consumed. -/
def inHand : List (Option R) :=
  match consumer with
  | .popped resource _ => [resource]
  | _ => []

/-- One before an item is popped. -/
def waiting : Nat :=
  match consumer with
  | .waited => 1
  | _ => 0

/-- One between the call of the consumer and the signal of `empty_`. -/
def calling : Nat :=
  match consumer with
  | .called _ => 1
  | _ => 0

end Consumer

namespace Pipeline

variable {R : Type} (pipeline : Pipeline R)

/-! ## Producing -/

/-- A new object. -/
def construct (content : ProducerContinuation) : Pipeline R :=
  { pipeline with continuations := pipeline.continuations ++ [content] }

def setContinuation (index : Nat) (content : ProducerContinuation) : Pipeline R :=
  { pipeline with continuations := pipeline.continuations.set index content }

/-- `Produce` or `ProduceIfEmpty`, with the object that it returns. -/
def produce (continuation : Continuation) : Pipeline R :=
  if pipeline.empty = 0 then pipeline.construct .vacant
  else construct { pipeline with empty := pipeline.empty - 1 } (.holding continuation)

/-- The object moves: what it holds, or holds not, and what is left of it. -/
def movable (index : Nat) : Option ProducerContinuation :=
  match pipeline.continuations[index]? with
  | some .vacant => some .vacant
  | some (.holding continuation) => some (.holding continuation)
  | _ => none

/-- The move constructor. -/
def moveConstruct (other : Nat) : Option (Pipeline R) :=
  (pipeline.movable other).map fun content =>
    (pipeline.setContinuation other .vacant).construct content

/-- The move assignment, which swaps. -/
def moveAssign (index other : Nat) : Option (Pipeline R) :=
  (pipeline.movable index).bind fun content =>
    (pipeline.movable other).map fun otherContent =>
      (pipeline.setContinuation index otherContent).setContinuation other content

/-- The resource goes to the queue; its commit signals `available_` next. -/
def push (index : Nat) (resource : Option R) (isFirstItem destroyed : Bool) : Pipeline R :=
  setContinuation
    { pipeline with
      queue := pipeline.queue ++ [resource]
      committed := pipeline.committed ++ [resource] }
    index (.committing .available ⟨true, isFirstItem⟩ destroyed)

/-- The queue section of `Complete`, or of the destructor with no resource. The queue mutex is
released here also before the signal of a commit that bails. -/
def commit (index : Nat) (resource : Option R) (destroyed : Bool) : Option (Pipeline R) :=
  match pipeline.continuations[index]? with
  | some .vacant => some (if destroyed then pipeline.setContinuation index .destroyed else
      { pipeline with produceResults := pipeline.produceResults ++ [{}] })
  | some (.holding .producerCommit) =>
    some (pipeline.push index resource pipeline.queue.isEmpty destroyed)
  | some (.holding .producerCommitIfEmpty) =>
    some (if !pipeline.queue.isEmpty then
      pipeline.setContinuation index (.committing .empty ⟨false, false⟩ destroyed)
    else pipeline.push index resource true destroyed)
  | _ => none

/-- What is left of the object after its commit, and the result of a completion. -/
def leaveCommit (index : Nat) (result : PipelineProduceResult) (destroyed : Bool) : Pipeline R :=
  if destroyed then pipeline.setContinuation index .destroyed
  else setContinuation { pipeline with produceResults := pipeline.produceResults ++ [result] }
    index .vacant

/-- The signal of a commit. -/
def signal (index : Nat) : Option (Pipeline R) :=
  match pipeline.continuations[index]? with
  | some (.committing .available result destroyed) =>
    some (leaveCommit { pipeline with available := pipeline.available + 1 } index result destroyed)
  | some (.committing .empty result destroyed) =>
    some (leaveCommit { pipeline with empty := pipeline.empty + 1 } index result destroyed)
  | _ => none

/-! ## Consuming -/

/-- `Consume` up to its `TryWait`; without a consumer to call there is nothing to do. -/
def consume (callable : Bool) : Option (Pipeline R) :=
  match pipeline.consumer with
  | .idle => some (
      if !callable || pipeline.available == 0 then
        { pipeline with consumeResults := pipeline.consumeResults ++ [.noneAvailable] }
      else { pipeline with available := pipeline.available - 1, consumer := .waited })
  | _ => none

/-- The queue section of `Consume`; the front of an empty queue is undefined. -/
def pop : Option (Pipeline R) :=
  match pipeline.consumer, pipeline.queue with
  | .waited, resource :: queue =>
    some { pipeline with queue, consumer := .popped resource queue.length }
  | _, _ => none

def callConsumer : Option (Pipeline R) :=
  match pipeline.consumer with
  | .popped resource itemsCount =>
    some { pipeline with
      consumed := pipeline.consumed ++ [resource]
      consumer := .called itemsCount }
  | _ => none

/-- The signal of `empty_` at the end of `Consume`. -/
def finish : Option (Pipeline R) :=
  match pipeline.consumer with
  | .called itemsCount =>
    some { pipeline with
      empty := pipeline.empty + 1
      finished := pipeline.finished + 1
      consumer := .idle
      consumeResults := pipeline.consumeResults ++
        [if 0 < itemsCount then .moreAvailable else .done] }
  | _ => none

/-! ## Runs -/

/-- The atomic steps of the producers and of the consumer. -/
inductive Op (R : Type) where
  | produce (continuation : Continuation)
  | moveConstruct (other : Nat)
  | moveAssign (index other : Nat)
  | complete (index : Nat) (resource : Option R)
  | destroy (index : Nat)
  | signal (index : Nat)
  | consume (callable : Bool)
  | pop
  | callConsumer
  | finish

def step : Op R → Option (Pipeline R)
  | .produce continuation => some (pipeline.produce continuation)
  | .moveConstruct other => pipeline.moveConstruct other
  | .moveAssign index other => pipeline.moveAssign index other
  | .complete index resource => pipeline.commit index resource false
  | .destroy index => pipeline.commit index none true
  | .signal index => pipeline.signal index
  | .consume callable => pipeline.consume callable
  | .pop => pipeline.pop
  | .callConsumer => pipeline.callConsumer
  | .finish => pipeline.finish

/-- A new pipeline of this depth. -/
def machine (depth : Nat) : Machine (Pipeline R) (Op R) where
  Initial pipeline := pipeline = { empty := depth }
  step := step

/-! ## Accounts -/

/-- Continuations that have a slot: what they commit is not queued yet. -/
def outstanding : Nat := pipeline.continuations.countP ProducerContinuation.reserves

/-- Commits whose item is queued and not yet signalled. -/
def unsignalled : Nat := pipeline.continuations.countP ProducerContinuation.queued

/-- The accounts of the slots, of the semaphores and of the resources. -/
structure Conserved (depth : Nat) : Prop where
  slots : pipeline.empty + pipeline.outstanding + pipeline.committed.length =
    depth + pipeline.finished
  signals : pipeline.queue.length =
    pipeline.available + pipeline.unsignalled + pipeline.consumer.waiting
  order : pipeline.consumed ++ pipeline.consumer.inHand ++ pipeline.queue = pipeline.committed
  calls : pipeline.finished + pipeline.consumer.calling = pipeline.consumed.length

variable {pipeline} {depth : Nat} {next : Pipeline R}

theorem conserved_initial : Conserved ({ empty := depth } : Pipeline R) depth :=
  ⟨rfl, rfl, rfl, rfl⟩

section Continuations

variable {index : Nat} {content old : ProducerContinuation}

theorem outstanding_construct :
    (pipeline.construct content).outstanding = pipeline.outstanding + content.reserves.toNat := by
  cases held : content.reserves <;> simp [outstanding, construct, List.countP_append, held]

theorem unsignalled_construct :
    (pipeline.construct content).unsignalled = pipeline.unsignalled + content.queued.toNat := by
  cases held : content.queued <;> simp [unsignalled, construct, List.countP_append, held]

theorem countP_set_add (passes : ProducerContinuation → Bool) {list : List ProducerContinuation}
    (found : list[index]? = some old) :
    (list.set index content).countP passes + (passes old).toNat =
      list.countP passes + (passes content).toNat := by
  obtain ⟨inside, rfl⟩ := List.getElem?_eq_some_iff.mp found
  have counted := List.boole_getElem_le_countP (p := passes) inside
  rw [List.countP_set inside]
  cases held : passes list[index] <;> cases passes content <;>
    simp only [held, Bool.toNat_true, Bool.toNat_false, if_true, if_false, Bool.false_eq_true]
      at counted ⊢ <;> omega

theorem outstanding_set (pipeline : Pipeline R) (content : ProducerContinuation)
    (found : pipeline.continuations[index]? = some old) :
    (pipeline.setContinuation index content).outstanding + old.reserves.toNat =
      pipeline.outstanding + content.reserves.toNat :=
  countP_set_add _ found

theorem unsignalled_set (pipeline : Pipeline R) (content : ProducerContinuation)
    (found : pipeline.continuations[index]? = some old) :
    (pipeline.setContinuation index content).unsignalled + old.queued.toNat =
      pipeline.unsignalled + content.queued.toNat :=
  countP_set_add _ found

theorem movable_eq (moves : pipeline.movable index = some content) :
    pipeline.continuations[index]? = some content ∧ content.queued = false := by
  unfold movable at moves
  split at moves
  next found =>
    cases moves
    exact ⟨found, rfl⟩
  next found =>
    cases moves
    exact ⟨found, rfl⟩
  next => contradiction

end Continuations

namespace Conserved

variable (conserved : Conserved pipeline depth)
include conserved

/-- Where only continuations change, and no slot and no commit is lost. -/
theorem of_continuations {continuations : List ProducerContinuation}
    (outstanding : continuations.countP ProducerContinuation.reserves = pipeline.outstanding)
    (unsignalled : continuations.countP ProducerContinuation.queued = pipeline.unsignalled)
    (results : List PipelineProduceResult) :
    Conserved { pipeline with continuations, produceResults := results } depth := by
  obtain ⟨slots, signals, order, calls⟩ := conserved
  refine ⟨?_, ?_, order, calls⟩
  · rw [Pipeline.outstanding, outstanding]
    exact slots
  · rw [Pipeline.unsignalled, unsignalled]
    exact signals

variable {index : Nat}

/-- Where an object changes that has a slot, or a queued item, before and after. -/
theorem of_set {content old : ProducerContinuation}
    (found : pipeline.continuations[index]? = some old) (reserves : content.reserves = old.reserves)
    (queued : content.queued = old.queued) :
    Conserved (pipeline.setContinuation index content) depth := by
  have outstanding := outstanding_set pipeline content found
  have unsignalled := unsignalled_set pipeline content found
  rw [reserves] at outstanding
  rw [queued] at unsignalled
  exact conserved.of_continuations (Nat.add_right_cancel outstanding)
    (Nat.add_right_cancel unsignalled) pipeline.produceResults

theorem produce (continuation : Continuation) : Conserved (pipeline.produce continuation) depth := by
  obtain ⟨slots, signals, order, calls⟩ := conserved
  unfold Pipeline.produce
  split
  · refine ⟨?_, ?_, order, calls⟩
    · rw [outstanding_construct]
      exact slots
    · rw [unsignalled_construct]
      exact signals
  next filled =>
    refine ⟨?_, ?_, order, calls⟩
    · rw [outstanding_construct]
      simp only [construct, outstanding, ProducerContinuation.reserves, Bool.toNat_true] at slots ⊢
      omega
    · rw [unsignalled_construct]
      exact signals

variable {other : Nat} {resource : Option R} {destroyed : Bool}

theorem moveConstruct (step : pipeline.moveConstruct other = some next) :
    Conserved next depth := by
  obtain ⟨content, moves, rfl⟩ := Option.map_eq_some_iff.mp step
  obtain ⟨found, -⟩ := movable_eq moves
  refine conserved.of_continuations (Eq.trans outstanding_construct ?_)
    (Eq.trans unsignalled_construct ?_) pipeline.produceResults
  · exact outstanding_set pipeline .vacant found
  · exact unsignalled_set pipeline .vacant found

theorem moveAssign (step : pipeline.moveAssign index other = some next) :
    Conserved next depth := by
  obtain ⟨content, moves, step⟩ := Option.bind_eq_some_iff.mp step
  obtain ⟨otherContent, otherMoves, rfl⟩ := Option.map_eq_some_iff.mp step
  obtain ⟨found, -⟩ := movable_eq moves
  obtain ⟨otherFound, -⟩ := movable_eq otherMoves
  -- The second object holds what it held, also when it is the first.
  have stillFound : (pipeline.setContinuation index otherContent).continuations[other]? =
      some otherContent := by
    simp only [setContinuation, List.getElem?_set]
    split
    · rw [if_pos (List.getElem?_eq_some_iff.mp found).1]
    · exact otherFound
  have outstanding := outstanding_set pipeline otherContent found
  have unsignalled := unsignalled_set pipeline otherContent found
  have outstandingOther := outstanding_set (pipeline.setContinuation index otherContent) content stillFound
  have unsignalledOther := unsignalled_set (pipeline.setContinuation index otherContent) content stillFound
  refine conserved.of_continuations (Eq.trans ?_ (rfl : pipeline.outstanding = _))
    (Eq.trans ?_ (rfl : pipeline.unsignalled = _)) pipeline.produceResults
  · have final : ((pipeline.setContinuation index otherContent).setContinuation other
        content).outstanding = pipeline.outstanding := by omega
    exact final
  · have final : ((pipeline.setContinuation index otherContent).setContinuation other
        content).unsignalled = pipeline.unsignalled := by omega
    exact final

/-- An item is queued for the slot of a continuation. -/
theorem push {continuation : Continuation} {isFirstItem : Bool}
    (found : pipeline.continuations[index]? = some (.holding continuation)) :
    Conserved (pipeline.push index resource isFirstItem destroyed) depth := by
  obtain ⟨slots, signals, order, calls⟩ := conserved
  have outstanding := outstanding_set pipeline
    (.committing .available ⟨true, isFirstItem⟩ destroyed) found
  have unsignalled := unsignalled_set pipeline
    (.committing .available ⟨true, isFirstItem⟩ destroyed) found
  simp only [ProducerContinuation.reserves, ProducerContinuation.queued, Bool.toNat_true,
    Bool.toNat_false, Pipeline.outstanding, Pipeline.unsignalled, setContinuation] at *
  refine ⟨?_, ?_, ?_, calls⟩
  · simp only [Pipeline.push, setContinuation, Pipeline.outstanding, List.length_append,
      List.length_singleton]
    omega
  · simp only [Pipeline.push, setContinuation, Pipeline.unsignalled, List.length_append,
      List.length_singleton]
    omega
  · simp only [Pipeline.push, setContinuation, ← order, List.append_assoc]

theorem commit
    (step : pipeline.commit index resource destroyed = some next) : Conserved next depth := by
  unfold Pipeline.commit at step
  split at step
  next found =>
    cases step
    split
    · exact conserved.of_set found rfl rfl
    · exact conserved.of_continuations rfl rfl _
  next found =>
    cases step
    exact conserved.push found
  next found =>
    cases step
    split
    · exact conserved.of_set found rfl rfl
    · exact conserved.push found
  next => contradiction

omit conserved in
/-- An object that is left has no slot and no queued item. -/
theorem leaveCommit_eq (pipeline : Pipeline R) (index : Nat) (result : PipelineProduceResult)
    (destroyed : Bool) :
    ∃ content produceResults, content.reserves = false ∧ content.queued = false ∧
      pipeline.leaveCommit index result destroyed =
        { pipeline.setContinuation index content with produceResults } := by
  cases destroyed with
  | false => exact ⟨.vacant, pipeline.produceResults ++ [result], rfl, rfl, rfl⟩
  | true => exact ⟨.destroyed, pipeline.produceResults, rfl, rfl, rfl⟩

/-- A commit that is left gives its slot back, or signals its item. -/
theorem leaveCommit {empty available : Nat} {old : ProducerContinuation}
    {result : PipelineProduceResult}
    (found : pipeline.continuations[index]? = some old)
    (returns : empty = pipeline.empty + old.reserves.toNat)
    (announces : available = pipeline.available + old.queued.toNat) :
    Conserved (Pipeline.leaveCommit { pipeline with empty, available } index result destroyed)
      depth := by
  obtain ⟨slots, signals, order, calls⟩ := conserved
  obtain ⟨content, produceResults, unreserved, unqueued, left⟩ :=
    leaveCommit_eq { pipeline with empty, available } index result destroyed
  have outstanding := outstanding_set pipeline content found
  have unsignalled := unsignalled_set pipeline content found
  rw [unreserved] at outstanding
  rw [unqueued] at unsignalled
  simp only [Bool.toNat_false, Pipeline.outstanding, Pipeline.unsignalled, setContinuation] at *
  rw [left]
  refine ⟨?_, ?_, order, calls⟩
  · simp only [Pipeline.outstanding]
    omega
  · simp only [Pipeline.unsignalled]
    omega

theorem signal (step : pipeline.signal index = some next) : Conserved next depth := by
  unfold Pipeline.signal at step
  split at step
  next found =>
    cases step
    exact conserved.leaveCommit found rfl rfl
  next found =>
    cases step
    exact conserved.leaveCommit found rfl rfl
  next => contradiction

theorem consume {callable : Bool} (step : pipeline.consume callable = some next) :
    Conserved next depth := by
  obtain ⟨slots, signals, order, calls⟩ := conserved
  unfold Pipeline.consume at step
  split at step
  next idle =>
    cases step
    rw [idle] at signals order calls
    split
    next => exact ⟨slots, by rw [idle]; exact signals, by rw [idle]; exact order, by
      rw [idle]; exact calls⟩
    next some =>
      have filled : pipeline.available ≠ 0 := by
        intro none
        simp [none] at some
      refine ⟨slots, ?_, order, calls⟩
      simp only [Consumer.waiting, Pipeline.unsignalled] at signals ⊢
      omega
  next => contradiction

/-- The item that was waited for is there. -/
theorem queue_ne_nil (waited : pipeline.consumer = .waited) : pipeline.queue ≠ [] := by
  intro empty
  have signals := conserved.signals
  rw [waited, empty] at signals
  simp only [Consumer.waiting, List.length_nil] at signals
  omega

theorem pop (step : pipeline.pop = some next) : Conserved next depth := by
  obtain ⟨slots, signals, order, calls⟩ := conserved
  unfold Pipeline.pop at step
  split at step
  next resource queue waited queued =>
    cases step
    rw [waited] at signals order calls
    rw [queued] at signals order
    refine ⟨slots, ?_, ?_, calls⟩
    · simp only [Consumer.waiting, List.length_cons, Pipeline.unsignalled] at signals ⊢
      omega
    · simpa only [Consumer.inHand, List.append_nil, List.append_assoc, List.singleton_append]
        using order
  next => contradiction

theorem callConsumer (step : pipeline.callConsumer = some next) : Conserved next depth := by
  obtain ⟨slots, signals, order, calls⟩ := conserved
  unfold Pipeline.callConsumer at step
  split at step
  next resource itemsCount popped =>
    cases step
    rw [popped] at signals order calls
    refine ⟨slots, signals, ?_, ?_⟩
    · simpa only [Consumer.inHand, List.append_nil] using order
    · simp only [Consumer.calling, List.length_append, List.length_singleton] at calls ⊢
      omega
  next => contradiction

theorem finish (step : pipeline.finish = some next) : Conserved next depth := by
  obtain ⟨slots, signals, order, calls⟩ := conserved
  unfold Pipeline.finish at step
  split at step
  next itemsCount called =>
    cases step
    rw [called] at signals order calls
    refine ⟨?_, signals, order, calls⟩
    simp only [Pipeline.outstanding] at slots ⊢
    omega
  next => contradiction

theorem step {op : Op R} (step : pipeline.step op = some next) : Conserved next depth := by
  cases op with
  | produce continuation =>
    cases step
    exact conserved.produce continuation
  | moveConstruct other => exact conserved.moveConstruct step
  | moveAssign index other => exact conserved.moveAssign step
  | complete index resource => exact conserved.commit step
  | destroy index => exact conserved.commit step
  | signal index => exact conserved.signal step
  | consume callable => exact conserved.consume step
  | pop => exact conserved.pop step
  | callConsumer => exact conserved.callConsumer step
  | finish => exact conserved.finish step

/-- What is finished has been committed, and what is queued is not finished. -/
theorem finished_le : pipeline.finished + pipeline.queue.length ≤ pipeline.committed.length := by
  have lengths := congrArg List.length conserved.order
  have calls := conserved.calls
  simp only [List.length_append] at lengths
  omega

end Conserved

/-- In every interleaving: the slots are conserved and the pipeline holds at most `depth` items,
what the consumer waited for is queued, and it consumes what is committed in that order. -/
theorem reachable_conserved (reached : (machine depth).Reachable (fun _ _ => True) pipeline) :
    pipeline.outstanding + pipeline.queue.length ≤ depth ∧
      pipeline.empty + pipeline.outstanding + (pipeline.committed.length - pipeline.finished) =
        depth ∧
      (pipeline.consumer = .waited → pipeline.queue ≠ []) ∧
      pipeline.consumed ++ pipeline.consumer.inHand ++ pipeline.queue = pipeline.committed := by
  have conserved : Conserved pipeline depth := by
    refine reached.invariant (Conserved · depth) ?_ ?_
    · rintro _ rfl
      exact conserved_initial
    · intro pipeline op next conserved _ step
      exact conserved.step step
  have slots := conserved.slots
  have finished := conserved.finished_le
  exact ⟨by omega, by omega, conserved.queue_ne_nil, conserved.order⟩

/-- A continuation that is dropped, a conditional one that is not needed, and one that is
completed. -/
theorem reachable_conserved_dropped : ∃ pipeline : Pipeline Nat,
    pipeline.consumed = [none] ∧ pipeline.queue = [some 5] ∧
      pipeline.outstanding + pipeline.queue.length ≤ 3 :=
  ⟨_, rfl, rfl, (reachable_conserved (.of_run (.initial rfl) (by decide) (rfl :
    (machine 3).run _ [.produce .producerCommit, .produce .producerCommitIfEmpty, .destroy 0,
      .signal 0, .complete 1 (some 7), .produce .producerCommit, .signal 1, .complete 2 (some 5),
      .consume true, .signal 2, .pop, .callConsumer, .finish] = some _))).1⟩

end Pipeline

end FlutterEngine.Shell
