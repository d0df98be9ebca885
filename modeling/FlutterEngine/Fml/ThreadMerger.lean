import Mathlib.Data.List.AList
import FlutterEngine.Fml.NextTask

/-!
# Merging the raster and platform threads

`SharedThreadMerger` of `shared_thread_merger.cc` and the calls of the
`RasterThreadMerger`s that share it, as in `raster_thread_merger.cc`. Each call
holds the merger's mutex, so each is one step; a failed `FML_CHECK` ends the
program and is `none`. The merge callback and the waiting condition variable are
left out.

Being merged is derived from the lease terms, while the task queues keep their own
merged state. The two always agree; what can fail is the check that a caller that
returns a lease has one left.
-/

namespace FlutterEngine.Fml

/-- The address that identifies a `RasterThreadMerger` among the callers. -/
abbrev RasterThreadMergerId := Nat

/-- The merger shared by several callers. -/
structure SharedThreadMerger (τ : Type) where
  owner : TaskQueueId
  subsumed : TaskQueueId
  taskQueues : MessageLoopTaskQueues τ
  leaseTermByCaller : AList (fun _ : RasterThreadMergerId => Nat) := ∅
  enabled : Bool := true

namespace SharedThreadMerger

variable {τ : Type} (merger : SharedThreadMerger τ)

def isAllLeaseTermsZero : Bool := merger.leaseTermByCaller.entries.all (·.2 = 0)

def isMerged : Bool := !merger.isAllLeaseTermsZero

/-- Write `lease_term_by_caller_[caller]`. -/
def setLeaseTerm (caller : RasterThreadMergerId) (leaseTerm : Nat) : SharedThreadMerger τ :=
  { merger with leaseTermByCaller := merger.leaseTermByCaller.insert caller leaseTerm }

def mergeWithLease (caller : RasterThreadMergerId) (leaseTerm : Nat) :
    Option (Bool × SharedThreadMerger τ) := do
  if merger.isMerged then return (true, merger)
  let (success, taskQueues) ← merger.taskQueues.merge merger.owner merger.subsumed
  -- Unable to merge the raster and platform threads.
  if !success then none
  return (success, { merger with taskQueues }.setLeaseTerm caller leaseTerm)

def unMergeNow : Option (Bool × SharedThreadMerger τ) := do
  -- All lease term records must be zero.
  if !merger.isAllLeaseTermsZero then none
  let (success, taskQueues) ← merger.taskQueues.unmerge merger.owner merger.subsumed
  -- Unable to un-merge the raster and platform threads.
  if !success then none
  return (success, { merger with taskQueues })

def unMergeNowIfLastOne (caller : RasterThreadMergerId) : Option (Bool × SharedThreadMerger τ) :=
  let merger := { merger with leaseTermByCaller := merger.leaseTermByCaller.erase caller }
  if merger.leaseTermByCaller.entries.isEmpty || merger.isAllLeaseTermsZero then merger.unMergeNow
  else some (true, merger)

/-- Whether the threads were un-merged now. -/
def decrementLease (caller : RasterThreadMergerId) : Option (Bool × SharedThreadMerger τ) := do
  let merger ← match merger.leaseTermByCaller.lookup caller with
    -- The caller does not exist: ignored.
    | none => some merger
    | some leaseTerm =>
      -- A lease term should always be positive when merged.
      if leaseTerm = 0 then none else some (merger.setLeaseTerm caller (leaseTerm - 1))
  if merger.isAllLeaseTermsZero then return (true, (← merger.unMergeNow).2)
  return (false, merger)

def extendLeaseTo (caller : RasterThreadMergerId) (leaseTerm : Nat) : SharedThreadMerger τ :=
  merger.setLeaseTerm caller leaseTerm

def setEnabled (enabled : Bool) : SharedThreadMerger τ := { merger with enabled }

end SharedThreadMerger

/-- What a `RasterThreadMerger` reports after a decrement. -/
inductive RasterThreadStatus where
  | remainsMerged
  | remainsUnmerged
  | unmergedNow
deriving DecidableEq, Repr

/-! ## The callers

A `RasterThreadMerger` has the queues of the merger it shares, so the caller's
address is all that tells one from another. -/

namespace RasterThreadMerger

variable {τ : Type} (shared : SharedThreadMerger τ)

def taskQueuesAreSame : Bool := shared.owner = shared.subsumed

def isMerged : Bool := taskQueuesAreSame shared || shared.isMerged

def mergeWithLease (caller : RasterThreadMergerId) (leaseTerm : Nat) :
    Option (SharedThreadMerger τ) :=
  if taskQueuesAreSame shared then some shared
  else if !shared.enabled then some shared
  else if isMerged shared then some shared
  else (shared.mergeWithLease caller leaseTerm).map (·.2)

def unMergeNowIfLastOne (caller : RasterThreadMergerId) : Option (SharedThreadMerger τ) :=
  if taskQueuesAreSame shared then some shared
  else if !shared.enabled then some shared
  else (shared.unMergeNowIfLastOne caller).map (·.2)

def extendLeaseTo (caller : RasterThreadMergerId) (leaseTerm : Nat) : SharedThreadMerger τ :=
  if taskQueuesAreSame shared then shared
  else if !shared.enabled then shared
  else shared.extendLeaseTo caller leaseTerm

def decrementLease (caller : RasterThreadMergerId) :
    Option (RasterThreadStatus × SharedThreadMerger τ) := do
  if taskQueuesAreSame shared then return (.remainsMerged, shared)
  if !isMerged shared then return (.remainsUnmerged, shared)
  if !shared.enabled then return (.remainsMerged, shared)
  let (unmergedAfterDecrement, shared) ← shared.decrementLease caller
  if unmergedAfterDecrement then return (.unmergedNow, shared)
  return (.remainsMerged, shared)

/-- The calls of the `RasterThreadMerger`s that share one merger. -/
inductive Op where
  | mergeWithLease (caller : RasterThreadMergerId) (leaseTerm : Nat)
  | extendLeaseTo (caller : RasterThreadMergerId) (leaseTerm : Nat)
  | decrementLease (caller : RasterThreadMergerId)
  | unMergeNowIfLastOne (caller : RasterThreadMergerId)
  | enable
  | disable
deriving DecidableEq, Repr

def call : Op → Option (SharedThreadMerger τ)
  | .mergeWithLease caller leaseTerm => mergeWithLease shared caller leaseTerm
  | .extendLeaseTo caller leaseTerm => some (extendLeaseTo shared caller leaseTerm)
  | .decrementLease caller => (decrementLease shared caller).map (·.2)
  | .unMergeNowIfLastOne caller => unMergeNowIfLastOne shared caller
  | .enable => some (shared.setEnabled true)
  | .disable => some (shared.setEnabled false)

end RasterThreadMerger

namespace MessageLoopTaskQueues

variable {τ : Type} {queues : MessageLoopTaskQueues τ} {owner subsumed : TaskQueueId}

/-- Two queues that may be merged. -/
structure Apart (queues : MessageLoopTaskQueues τ) (owner subsumed : TaskQueueId) : Prop where
  consistent : queues.Consistent
  distinct : owner ≠ subsumed
  liveOwner : queues.Live owner
  liveSubsumed : queues.Live subsumed
  ownerFree : (queues.entry owner).subsumedBy = none
  owning : (queues.entry subsumed).ownerOf = []
  subsumedFree : (queues.entry subsumed).subsumedBy = none

/-- Two queues of which the first owns the second. -/
structure Joined (queues : MessageLoopTaskQueues τ) (owner subsumed : TaskQueueId) : Prop where
  consistent : queues.Consistent
  ownerFree : (queues.entry owner).subsumedBy = none
  owned : subsumed ∈ (queues.entry owner).ownerOf

theorem Joined.owns (joined : queues.Joined owner subsumed) :
    queues.owns owner subsumed = some true := by
  have live := (joined.consistent.live_of_owned joined.owned).1
  simp [MessageLoopTaskQueues.owns, live_iff.mp live, joined.owned]

theorem Apart.not_owned (apart : queues.Apart owner subsumed) :
    subsumed ∉ (queues.entry owner).ownerOf := by
  rw [apart.consistent.linked, apart.subsumedFree]
  exact (Option.some_ne_none owner).symm

theorem Apart.not_owns (apart : queues.Apart owner subsumed) :
    queues.owns owner subsumed = some false := by
  simp [MessageLoopTaskQueues.owns, live_iff.mp apart.liveOwner, apart.not_owned]

/-- `Merge` succeeds on two queues that may be merged. -/
theorem Apart.merge (apart : queues.Apart owner subsumed) :
    ∃ next, queues.merge owner subsumed = some (true, next) ∧ next.Joined owner subsumed := by
  have linked := apart.consistent.mergeLinks apart.distinct apart.liveOwner apart.liveSubsumed
    apart.ownerFree apart.owning apart.subsumedFree
  have entries := entry_mergeLinks apart.distinct apart.liveOwner apart.liveSubsumed
  have live : (queues.mergeLinks owner subsumed).Live owner := by
    simpa [mergeLinks] using apart.liveOwner
  obtain ⟨next, wakes, -⟩ := linked.wakeIfPending_spec live
  have merges : queues.merge owner subsumed = some (true, next) := by
    rw [MessageLoopTaskQueues.merge, if_neg apart.distinct]
    simp only [live_iff.mp apart.liveOwner, live_iff.mp apart.liveSubsumed, apart.not_owned,
      apart.ownerFree, apart.owning, apart.subsumedFree, Option.bind_eq_bind, Option.bind_some,
      if_false, Option.isSome_none, List.isEmpty_nil, Bool.not_true, Bool.false_eq_true]
    change ((queues.mergeLinks owner subsumed).wakeIfPending owner).bind
      (fun next => some (true, next)) = _
    rw [wakes]
    rfl
  obtain ⟨-, -, kept⟩ := wakeIfPending_keeps wakes owner
  refine ⟨next, merges, linked.wakeIfPending wakes, ?_, ?_⟩
  · rw [kept, entries]
    simp [apart.distinct, apart.ownerFree]
  · rw [kept, entries]
    simp

/-- `Unmerge` succeeds on a queue and one it owns. -/
theorem Joined.unmerge (joined : queues.Joined owner subsumed) :
    ∃ next, queues.unmerge owner subsumed = some (true, next) ∧ next.Apart owner subsumed := by
  obtain ⟨distinct, unlinked⟩ := joined.consistent.unmergeLinks joined.ownerFree joined.owned
  obtain ⟨liveOwner, liveSubsumed⟩ := joined.consistent.live_of_owned joined.owned
  have link := (joined.consistent.linked owner subsumed).mp joined.owned
  have entries := entry_unmergeLinks distinct liveOwner liveSubsumed
  have live : (queues.unmergeLinks owner subsumed).Live owner := by
    simpa [unmergeLinks] using liveOwner
  obtain ⟨woken, wakes, -⟩ := unlinked.wakeIfPending_spec live
  have keeps := wakeIfPending_keeps wakes
  have wokenLive : woken.Live subsumed :=
    (keeps subsumed).1.mpr (by simpa [unmergeLinks] using liveSubsumed)
  obtain ⟨next, wakesAgain, -⟩ := (unlinked.wakeIfPending wakes).wakeIfPending_spec wokenLive
  have keepsAgain := wakeIfPending_keeps wakesAgain
  have unmerges : queues.unmerge owner subsumed = some (true, next) := by
    have owning : (queues.entry owner).ownerOf.isEmpty = false :=
      List.isEmpty_eq_false_iff_exists_mem.mpr ⟨subsumed, joined.owned⟩
    simp only [MessageLoopTaskQueues.unmerge, live_iff.mp liveOwner, live_iff.mp liveSubsumed,
      owning, joined.ownerFree, link, joined.owned, Option.bind_eq_bind, Option.bind_some,
      Option.isSome_none, Option.isNone_some, Bool.false_eq_true, if_false, not_true]
    change ((queues.unmergeLinks owner subsumed).wakeIfPending owner).bind
      (fun woken => (woken.wakeIfPending subsumed).bind fun next => some (true, next)) = _
    rw [wakes, Option.bind_some, wakesAgain]
    rfl
  refine ⟨next, unmerges, (unlinked.wakeIfPending wakes).wakeIfPending wakesAgain, distinct,
    ?_, ?_, ?_, ?_, ?_⟩
  · rw [(keepsAgain owner).1, (keeps owner).1]
    simpa [unmergeLinks] using liveOwner
  · rw [(keepsAgain subsumed).1, (keeps subsumed).1]
    simpa [unmergeLinks] using liveSubsumed
  · rw [(keepsAgain owner).2.2, (keeps owner).2.2, entries]
    simp [distinct, joined.ownerFree]
  · rw [(keepsAgain subsumed).2.2, (keeps subsumed).2.2, entries]
    simp [distinct.symm, joined.consistent.flat link]
  · rw [(keepsAgain subsumed).2.2, (keeps subsumed).2.2, entries]
    simp

end MessageLoopTaskQueues

namespace SharedThreadMerger

variable {τ : Type} {merger : SharedThreadMerger τ}

/-- The queues are merged exactly when some lease term is positive. -/
structure Synced (merger : SharedThreadMerger τ) : Prop where
  joined : merger.isMerged = true → merger.taskQueues.Joined merger.owner merger.subsumed
  apart : merger.isMerged = false → merger.taskQueues.Apart merger.owner merger.subsumed

variable {caller : RasterThreadMergerId}

theorem isMerged_setLeaseTerm {leaseTerm : Nat}
    (positive : 0 < leaseTerm) : (merger.setLeaseTerm caller leaseTerm).isMerged = true := by
  simp [isMerged, isAllLeaseTermsZero, setLeaseTerm, Nat.ne_of_gt positive]

theorem Synced.mergeWithLease (caller : RasterThreadMergerId) {leaseTerm : Nat}
    (synced : merger.Synced) (positive : 0 < leaseTerm) :
    ∃ result, merger.mergeWithLease caller leaseTerm = some result ∧ result.2.Synced := by
  cases merged : merger.isMerged with
  | true => exact ⟨(true, merger), by simp [SharedThreadMerger.mergeWithLease, merged], synced⟩
  | false =>
    obtain ⟨taskQueues, merges, joined⟩ := (synced.apart merged).merge
    refine ⟨(true, { merger with taskQueues }.setLeaseTerm caller leaseTerm), ?_, fun _ => joined,
      fun unmerged => ?_⟩
    · simp [SharedThreadMerger.mergeWithLease, merged, merges]
    · rw [isMerged_setLeaseTerm positive] at unmerged
      cases unmerged

/-- With all lease terms zero, the threads are un-merged if their queues are merged. -/
theorem unMergeNow_spec (zero : merger.isMerged = false)
    (joined : merger.taskQueues.Joined merger.owner merger.subsumed) :
    ∃ result, merger.unMergeNow = some result ∧ result.2.Synced := by
  obtain ⟨taskQueues, unmerges, apart⟩ := joined.unmerge
  have zero : merger.isAllLeaseTermsZero = true := by simpa [isMerged] using zero
  refine ⟨(true, { merger with taskQueues }), by simp [unMergeNow, zero, unmerges], fun merged => ?_,
    fun _ => apart⟩
  have still : merger.isMerged = true := merged
  simp [isMerged, zero] at still

/-- Changing the lease terms of merged threads, then un-merging if all are zero. -/
theorem unMergeNow_or_synced (merger : SharedThreadMerger τ)
    (joined : merger.taskQueues.Joined merger.owner merger.subsumed) :
    (merger.isAllLeaseTermsZero = true ∧ ∃ result, merger.unMergeNow = some result ∧ result.2.Synced) ∨
      (merger.isAllLeaseTermsZero = false ∧ merger.Synced) := by
  cases zero : merger.isAllLeaseTermsZero with
  | true => exact .inl ⟨rfl, unMergeNow_spec (by simp [isMerged, zero]) joined⟩
  | false => exact .inr ⟨rfl, fun _ => joined, fun unmerged => by simp [isMerged, zero] at unmerged⟩

theorem Synced.unMergeNowIfLastOne (synced : merger.Synced) (merged : merger.isMerged = true)
    (caller : RasterThreadMergerId) :
    ∃ result, merger.unMergeNowIfLastOne caller = some result ∧ result.2.Synced := by
  obtain ⟨zero, result, unmerges, after⟩ | ⟨positive, after⟩ := unMergeNow_or_synced
    { merger with leaseTermByCaller := merger.leaseTermByCaller.erase caller } (synced.joined merged)
  · exact ⟨result, by simp [SharedThreadMerger.unMergeNowIfLastOne, zero, unmerges], after⟩
  · refine ⟨(true, _), ?_, after⟩
    have filled : (merger.leaseTermByCaller.erase caller).entries.isEmpty = false := by
      rw [← Bool.not_eq_true, List.isEmpty_iff]
      intro empty
      simp [isAllLeaseTermsZero, empty] at positive
    simp [SharedThreadMerger.unMergeNowIfLastOne, positive, filled]

/-- A caller whose recorded lease term is zero. -/
def SpentLease (merger : SharedThreadMerger τ) (caller : RasterThreadMergerId) : Prop :=
  merger.leaseTermByCaller.lookup caller = some 0

instance (caller : RasterThreadMergerId) : Decidable (merger.SpentLease caller) :=
  inferInstanceAs (Decidable (_ = _))

theorem decrementLease_of_spentLease
    (spent : merger.SpentLease caller) : merger.decrementLease caller = none := by
  have spent : merger.leaseTermByCaller.lookup caller = some 0 := spent
  simp [SharedThreadMerger.decrementLease, spent]

theorem Synced.decrementLease (synced : merger.Synced) (merged : merger.isMerged = true)
    (left : ¬merger.SpentLease caller) :
    ∃ result, merger.decrementLease caller = some result ∧ result.2.Synced := by
  have joined := synced.joined merged
  cases found : merger.leaseTermByCaller.lookup caller with
  | none =>
    have positive : merger.isAllLeaseTermsZero = false := by simpa [isMerged] using merged
    exact ⟨(false, merger), by simp [SharedThreadMerger.decrementLease, found, positive], synced⟩
  | some leaseTerm =>
    have nonzero : leaseTerm ≠ 0 := fun zero => left (found.trans (congrArg some zero))
    obtain ⟨zero, result, unmerges, after⟩ | ⟨positive, after⟩ := unMergeNow_or_synced
      (merger.setLeaseTerm caller (leaseTerm - 1)) joined
    · exact ⟨(true, result.2), by
        simp [SharedThreadMerger.decrementLease, found, nonzero, zero, unmerges], after⟩
    · exact ⟨(false, merger.setLeaseTerm caller (leaseTerm - 1)), by
        simp [SharedThreadMerger.decrementLease, found, nonzero, positive], after⟩

end SharedThreadMerger

namespace RasterThreadMerger

variable {τ : Type} {shared : SharedThreadMerger τ}

/-- A merger just created over two queues that may be merged. -/
structure Created (shared : SharedThreadMerger τ) : Prop where
  reached : (MessageLoopTaskQueues.machine τ).Reachable MessageLoopTaskQueues.Asserted
    shared.taskQueues
  distinct : shared.owner ≠ shared.subsumed
  liveOwner : shared.taskQueues.Live shared.owner
  liveSubsumed : shared.taskQueues.Live shared.subsumed
  ownerFree : (shared.taskQueues.entry shared.owner).subsumedBy = none
  owning : (shared.taskQueues.entry shared.subsumed).ownerOf = []
  subsumedFree : (shared.taskQueues.entry shared.subsumed).subsumedBy = none
  noLease : shared.leaseTermByCaller = ∅

/-- Several `RasterThreadMerger`s that share one merger. -/
def machine (τ : Type) : Std.Machine (SharedThreadMerger τ) Op where
  Initial := Created
  step := call

/-- Lease terms are positive; extending a lease and un-merging early are for merged
threads. -/
def Called (shared : SharedThreadMerger τ) : Op → Prop
  | .mergeWithLease _ leaseTerm => 0 < leaseTerm
  | .extendLeaseTo _ leaseTerm => 0 < leaseTerm ∧ isMerged shared = true
  | .unMergeNowIfLastOne _ => isMerged shared = true
  | .decrementLease _ | .enable | .disable => True

/-- A caller returns a lease of merged threads while its own record is at zero. -/
def Overdrawn (shared : SharedThreadMerger τ) : Op → Prop
  | .decrementLease caller =>
    isMerged shared = true ∧ shared.enabled = true ∧ shared.SpentLease caller
  | _ => False

theorem created_synced (created : Created shared) : shared.Synced where
  joined merged := by
    simp [SharedThreadMerger.isMerged, SharedThreadMerger.isAllLeaseTermsZero, created.noLease]
      at merged
  apart _ := ⟨MessageLoopTaskQueues.reachable_consistent created.reached, created.distinct,
    created.liveOwner, created.liveSubsumed, created.ownerFree, created.owning,
    created.subsumedFree⟩

/-- The queues of a synced merger differ. -/
theorem taskQueuesAreSame_of_synced (synced : shared.Synced) : taskQueuesAreSame shared = false := by
  rw [taskQueuesAreSame, decide_eq_false_iff_not]
  cases merged : shared.isMerged with
  | true =>
    have joined := synced.joined merged
    exact (joined.consistent.unmergeLinks joined.ownerFree joined.owned).1
  | false => exact (synced.apart merged).distinct

theorem isMerged_of_synced (synced : shared.Synced) : isMerged shared = shared.isMerged := by
  simp [isMerged, taskQueuesAreSame_of_synced synced]

/-- A call that overdraws no lease passes every check and keeps the merger synced. -/
theorem call_synced {op : Op} (synced : shared.Synced) (called : Called shared op)
    (left : ¬Overdrawn shared op) : ∃ next, call shared op = some next ∧ next.Synced := by
  have distinct := taskQueuesAreSame_of_synced synced
  have same := isMerged_of_synced synced
  cases op with
  | mergeWithLease caller leaseTerm =>
    by_cases acts : shared.enabled = true ∧ shared.isMerged = false
    · obtain ⟨result, merges, after⟩ := synced.mergeWithLease caller called
      exact ⟨result.2, by simp [call, mergeWithLease, distinct, same, acts, merges], after⟩
    · refine ⟨shared, ?_, synced⟩
      cases enabled : shared.enabled with
      | false => simp [call, mergeWithLease, enabled]
      | true =>
        have merged : shared.isMerged = true := by simpa [enabled] using acts
        simp [call, mergeWithLease, enabled, same, merged]
  | extendLeaseTo caller leaseTerm =>
    have joined := synced.joined (same ▸ called.2)
    refine ⟨_, rfl, ?_⟩
    rw [extendLeaseTo]
    split
    · exact synced
    split
    · exact synced
    · exact ⟨fun _ => joined, fun unmerged => by
        simp [SharedThreadMerger.extendLeaseTo, SharedThreadMerger.isMerged_setLeaseTerm called.1]
          at unmerged⟩
  | decrementLease caller =>
    by_cases acts : isMerged shared = true ∧ shared.enabled = true
    · obtain ⟨result, decrements, after⟩ := synced.decrementLease (same ▸ acts.1)
        fun spent => left ⟨acts.1, acts.2, spent⟩
      refine ⟨result.2, ?_, after⟩
      cases unmerged : result.1 <;>
        simp [call, decrementLease, distinct, acts, decrements, unmerged]
    · refine ⟨shared, ?_, synced⟩
      cases merged : isMerged shared with
      | false => simp [call, decrementLease, distinct, merged]
      | true =>
        have disabled : shared.enabled = false := by simpa [merged] using acts
        simp [call, decrementLease, distinct, merged, disabled]
  | unMergeNowIfLastOne caller =>
    cases enabled : shared.enabled with
    | false => exact ⟨shared, by simp [call, unMergeNowIfLastOne, enabled], synced⟩
    | true =>
      obtain ⟨result, unmerges, after⟩ := synced.unMergeNowIfLastOne (same ▸ called) caller
      exact ⟨result.2, by simp [call, unMergeNowIfLastOne, distinct, enabled, unmerges], after⟩
  | enable => exact ⟨_, rfl, synced.joined, synced.apart⟩
  | disable => exact ⟨_, rfl, synced.joined, synced.apart⟩

/-- Overdrawing a lease fails the check. -/
theorem call_overdrawn {op : Op} (synced : shared.Synced) (overdrawn : Overdrawn shared op) :
    call shared op = none := by
  cases op with
  | decrementLease caller =>
    obtain ⟨merged, enabled, spent⟩ := overdrawn
    simp [call, decrementLease, taskQueuesAreSame_of_synced synced, merged, enabled,
      SharedThreadMerger.decrementLease_of_spentLease spent]
  | _ => cases overdrawn

/-- In every run that overdraws no lease the threads are merged exactly when the
platform queue owns the raster queue, and the next call fails a check exactly when
it overdraws one. -/
theorem reachable_isMerged_iff_owns
    (reached : (machine τ).Reachable (fun shared op => Called shared op ∧ ¬Overdrawn shared op)
      shared) :
    (isMerged shared = true ↔ shared.taskQueues.owns shared.owner shared.subsumed = some true) ∧
      ∀ op, Called shared op → ((∃ next, call shared op = some next) ↔ ¬Overdrawn shared op) := by
  have synced : shared.Synced := by
    refine reached.invariant SharedThreadMerger.Synced (fun _ created => created_synced created) ?_
    rintro state op next synced ⟨called, left⟩ calls
    obtain ⟨_, same, after⟩ := call_synced synced called left
    obtain rfl := Option.some_inj.mp (same.symm.trans calls)
    exact after
  refine ⟨?_, fun op called => ⟨?_, fun left => ?_⟩⟩
  · rw [isMerged_of_synced synced]
    cases merged : shared.isMerged with
    | true => simp [(synced.joined merged).owns]
    | false => simp [(synced.apart merged).not_owns]
  · rintro ⟨next, calls⟩ overdrawn
    rw [call_overdrawn synced overdrawn] at calls
    cases calls
  · obtain ⟨next, calls, -⟩ := call_synced synced called left
    exact ⟨next, calls⟩

/-- A merger over the first two queues created. -/
def overTwoQueues : SharedThreadMerger Unit where
  owner := 0
  subsumed := 1
  taskQueues := ({} : MessageLoopTaskQueues Unit).createTaskQueue.2.createTaskQueue.2

theorem created_overTwoQueues : Created overTwoQueues where
  reached := .step .createTaskQueue
    (.step .createTaskQueue (.initial rfl) (by trivial) rfl) (by trivial) rfl
  distinct := by decide
  liveOwner := rfl
  liveSubsumed := rfl
  ownerFree := rfl
  owning := rfl
  subsumedFree := rfl
  noLease := rfl

instance (op : Op) : Decidable (Called shared op) :=
  match op with
  | .mergeWithLease _ leaseTerm => inferInstanceAs (Decidable (0 < leaseTerm))
  | .extendLeaseTo _ leaseTerm => inferInstanceAs (Decidable (0 < leaseTerm ∧ isMerged shared = true))
  | .unMergeNowIfLastOne _ => inferInstanceAs (Decidable (isMerged shared = true))
  | .decrementLease _ | .enable | .disable => inferInstanceAs (Decidable True)

instance (op : Op) : Decidable (Overdrawn shared op) :=
  match op with
  | .decrementLease caller => inferInstanceAs (Decidable
      (isMerged shared = true ∧ shared.enabled = true ∧ shared.SpentLease caller))
  | .mergeWithLease .. | .extendLeaseTo .. | .unMergeNowIfLastOne _ | .enable | .disable =>
    inferInstanceAs (Decidable False)

/-- The second caller keeps the threads merged for one more lease. -/
theorem reachable_isMerged_iff_owns_extended :
    ∃ shared : SharedThreadMerger Unit,
      (machine Unit).Reachable (fun shared op => Called shared op ∧ ¬Overdrawn shared op) shared ∧
        isMerged shared = true ∧
        shared.taskQueues.owns shared.owner shared.subsumed = some true ∧
        ∃ next, call shared (.decrementLease 2) = some next := by
  have start : (machine Unit).Reachable
      (fun shared op => Called shared op ∧ ¬Overdrawn shared op) overTwoQueues :=
    .initial created_overTwoQueues
  obtain ⟨shared, reached, merged⟩ := start.exists_of_run
    [.mergeWithLease 1 2, .extendLeaseTo 2 1, .decrementLease 1, .decrementLease 1]
    (fun shared => isMerged shared ∧ ¬Overdrawn shared (.decrementLease 2)) (by decide) (by decide)
  obtain ⟨merged, left⟩ := of_decide_eq_true merged
  have spec := reachable_isMerged_iff_owns reached
  exact ⟨shared, reached, merged, spec.1.mp merged, (spec.2 (.decrementLease 2) trivial).mpr left⟩

/-- A caller whose lease ran out while it was the last one fails the check when it
returns another after a second caller has merged the threads again. -/
theorem decrementLease_aborts :
    ∃ shared : SharedThreadMerger Unit,
      (machine Unit).Reachable Called shared ∧ Called shared (.decrementLease 1) ∧
        call shared (.decrementLease 1) = none := by
  have start : (machine Unit).Reachable Called overTwoQueues := .initial created_overTwoQueues
  obtain ⟨shared, reached, aborts⟩ := start.exists_of_run
    [.mergeWithLease 1 1, .decrementLease 1, .mergeWithLease 2 1]
    (fun shared => (call shared (.decrementLease 1)).isNone) (by decide) (by decide)
  exact ⟨shared, reached, trivial, by simpa using aborts⟩

end RasterThreadMerger

end FlutterEngine.Fml
