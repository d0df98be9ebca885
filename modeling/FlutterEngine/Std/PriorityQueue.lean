import Mathlib.Data.List.Sort

/-!
# Priority queues

A priority queue is a list sorted by a total preorder, so its head is a least
element. Which of several equal elements is on top is not specified by the
queues this stands for; here it is the one pushed last.
-/

namespace FlutterEngine.Std

universe u

/-- A queue whose `top` is least for `le`. -/
structure PriorityQueue (α : Type u) (le : α → α → Prop) where
  toList : List α
  sorted : toList.Pairwise le

namespace PriorityQueue

variable {α : Type u} {le : α → α → Prop}

def empty : PriorityQueue α le := ⟨[], .nil⟩

@[simp] theorem toList_empty : (empty : PriorityQueue α le).toList = [] := rfl

def size (queue : PriorityQueue α le) : Nat := queue.toList.length

def isEmpty (queue : PriorityQueue α le) : Bool := queue.toList.isEmpty

def top? (queue : PriorityQueue α le) : Option α := queue.toList.head?

def pop (queue : PriorityQueue α le) : PriorityQueue α le :=
  ⟨queue.toList.tail, queue.sorted.tail⟩

section Push

variable [DecidableRel le] [Std.Total le] [IsTrans α le]

def push (item : α) (queue : PriorityQueue α le) : PriorityQueue α le :=
  ⟨queue.toList.orderedInsert le item, queue.sorted.orderedInsert item _⟩

/-- Pushing adds exactly the pushed element. -/
theorem push_perm (item : α) (queue : PriorityQueue α le) :
    (queue.push item).toList.Perm (item :: queue.toList) :=
  List.perm_orderedInsert le item queue.toList

@[simp] theorem mem_push {item other : α} {queue : PriorityQueue α le} :
    other ∈ (queue.push item).toList ↔ other = item ∨ other ∈ queue.toList := by
  rw [(push_perm item queue).mem_iff, List.mem_cons]

end Push

/-- The top is an element, least among all, and popping removes exactly it. -/
theorem top_spec {queue : PriorityQueue α le} {item : α} (refl : ∀ item, le item item)
    (top : queue.top? = some item) :
    queue.toList = item :: queue.pop.toList ∧ ∀ other ∈ queue.toList, le item other := by
  obtain ⟨items, sorted⟩ := queue
  cases items with
  | nil => cases top
  | cons head tail =>
    cases top
    refine ⟨rfl, fun other member => ?_⟩
    rcases List.mem_cons.mp member with rfl | later
    · exact refl _
    · exact (List.pairwise_cons.mp sorted).1 other later

theorem top_isSome {queue : PriorityQueue α le} (nonempty : queue.toList ≠ []) :
    ∃ item, queue.top? = some item := by
  obtain ⟨items, sorted⟩ := queue
  cases items with
  | nil => exact absurd rfl nonempty
  | cons head tail => exact ⟨head, rfl⟩

end PriorityQueue

end FlutterEngine.Std
