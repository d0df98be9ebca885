import Mathlib.Data.List.Count

/-!
# A lock that threads hold in a frame of their stacks

Threads keep stacks of frames, and some frames are those in which a lock is held. `Held` says that
the lock is not recursive and that its holder is known: the holder's stack has one such frame, and
no other stack has any.
-/

namespace FlutterEngine.Std

universe u v

variable {Thread : Type u} {Frame : Type v} [DecidableEq Thread] {locks : Frame → Bool}
  {holder : Option Thread} {frames : Thread → List Frame} {thread : Thread} {stack : List Frame}

/-- Only the holder's stack has frames that lock, and it has one. -/
def Held (locks : Frame → Bool) (holder : Option Thread) (frames : Thread → List Frame) : Prop :=
  ∀ thread, (frames thread).countP locks = if holder = some thread then 1 else 0

namespace Held

theorem empty : Held locks (none : Option Thread) fun _ => [] := by
  intro thread
  simp

/-- A stack with a frame that locks is the holder's. -/
theorem holder_of_mem (held : Held locks holder frames) {frame : Frame}
    (member : frame ∈ frames thread) (inLock : locks frame = true) : holder = some thread := by
  have counted : 0 < (frames thread).countP locks := List.countP_pos_iff.mpr ⟨frame, member, inLock⟩
  rw [held thread] at counted
  by_contra other
  simp [other] at counted

/-- With a frame on top that locks, no other frame locks. -/
theorem below_of_top (held : Held locks holder frames) {top : Frame} {below : List Frame}
    (shape : frames thread = top :: below) (inLock : locks top = true) :
    below.countP locks = 0 := by
  have holds := held.holder_of_mem (by rw [shape]; exact List.mem_cons_self)
    inLock
  have counted := held thread
  rw [shape, List.countP_cons_of_pos inLock, if_pos holds] at counted
  omega

/-- A stack changes by frames that do not lock. -/
theorem replace (held : Held locks holder frames)
    (same : stack.countP locks = (frames thread).countP locks) :
    Held locks holder (Function.update frames thread stack) := by
  intro other
  by_cases this : other = thread
  · subst this
    rw [Function.update_self, same, held]
  · rw [Function.update_of_ne this, held]

/-- The lock is free and a thread takes it. -/
theorem acquire (held : Held locks none frames) (one : stack.countP locks = 1) :
    Held locks (some thread) (Function.update frames thread stack) := by
  intro other
  by_cases this : other = thread
  · subst this
    rw [Function.update_self, one, if_pos rfl]
  · rw [Function.update_of_ne this, held other]
    simp [Ne.symm this]

/-- The holder leaves the frame that locks. -/
theorem release (held : Held locks (some thread) frames) (none_left : stack.countP locks = 0) :
    Held locks none (Function.update frames thread stack) := by
  intro other
  by_cases this : other = thread
  · subst this
    rw [Function.update_self, none_left, if_neg nofun]
  · rw [Function.update_of_ne this, held other]
    simp [Ne.symm this]

end Held

end FlutterEngine.Std
