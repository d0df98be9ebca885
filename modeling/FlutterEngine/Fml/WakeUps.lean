import FlutterEngine.Fml.NextTask

/-!
# No lost wake-up

`Armed` says that the loop scheduling a runnable task was last woken for no later
than that task. Every call keeps it but one: `ResumeSecondarySource` on a subsumed
queue offers its secondary tasks again and wakes nobody, because a subsumed queue
has no pending tasks and its owner is not asked. `Rearming` excludes
exactly this.
-/

namespace FlutterEngine.Fml.MessageLoopTaskQueues

variable {τ : Type} {queues : MessageLoopTaskQueues τ}

/-- The time of the last `WakeUp` delivered to the queue's Wakeable. -/
def lastWakeUp (queues : MessageLoopTaskQueues τ) (queueId : TaskQueueId) : Option Int :=
  (queues.entry queueId).wakeable.bind List.head?

/-- The last `WakeUp` of the queue carried a time not later than this. -/
def WokenBy (queues : MessageLoopTaskQueues τ) (queueId : TaskQueueId) (time : Int) : Prop :=
  ∃ last ∈ queues.lastWakeUp queueId, last ≤ time

instance (queueId : TaskQueueId) (time : Int) : Decidable (queues.WokenBy queueId time) :=
  inferInstanceAs (Decidable (∃ last ∈ queues.lastWakeUp queueId, last ≤ time))

/-- Every runnable task of a queue that is not subsumed, its own or of a queue it
owns, its head among them, is due no earlier than the queue's last `WakeUp`. -/
def NoLostWakeUp (queues : MessageLoopTaskQueues τ) : Prop :=
  ∀ queueId, queues.Live queueId → (queues.entry queueId).subsumedBy = none →
    ∀ member ∈ queues.group queueId, ∀ task ∈ (queues.source member).runnable,
      queues.WokenBy queueId task.targetTime

/-- The runnable tasks scheduled by these queues are due no earlier than the last
`WakeUp` of the queue that schedules them. -/
def ArmedAt (queues : MessageLoopTaskQueues τ) (roots : TaskQueueId → Prop) : Prop :=
  ∀ member, roots (queues.root member) → ∀ task ∈ (queues.source member).runnable,
    queues.WokenBy (queues.root member) task.targetTime

/-- All runnable tasks are. -/
abbrev Armed (queues : MessageLoopTaskQueues τ) : Prop := queues.ArmedAt fun _ => True

theorem Armed.noLostWakeUp (armed : queues.Armed) (consistent : queues.Consistent) :
    queues.NoLostWakeUp := by
  intro queueId _ free member scheduled task runnable
  have root := (consistent.mem_group free).mp scheduled
  exact root ▸ armed member trivial task runnable

variable {roots : TaskQueueId → Prop}

theorem ArmedAt.mono {fewer : TaskQueueId → Prop} (armed : queues.ArmedAt roots)
    (within : ∀ queueId, fewer queueId → roots queueId) : queues.ArmedAt fewer :=
  fun member rooted => armed member (within _ rooted)

/-! ## Waking a queue for its head -/

variable {queueId : TaskQueueId}

theorem lastWakeUp_wakeUp (live : queues.Live queueId)
    (equipped : (queues.entry queueId).wakeable.isSome) (time : Int) (other : TaskQueueId) :
    (queues.wakeUp queueId time).lastWakeUp other =
      if other = queueId then some time else queues.lastWakeUp other := by
  obtain ⟨earlier, wakeable⟩ := Option.isSome_iff_exists.mp equipped
  rw [lastWakeUp, entry_wakeUp live, wakeable]
  split <;> rfl

section

variable (consistent : queues.Consistent) (live : queues.Live queueId)
  (free : (queues.entry queueId).subsumedBy = none)
  (equipped : (queues.entry queueId).wakeable.isSome)

include consistent live free equipped

/-- A `WakeUp` for the head covers every task the queue schedules. -/
theorem ArmedAt.wakeUp {top : TopTask τ} (head : queues.Head queueId top)
    (armed : queues.ArmedAt roots) :
    (queues.wakeUp queueId top.task.targetTime).ArmedAt
      fun root => roots root ∨ root = queueId := by
  intro member rooted task runnable
  simp only [source, root, entry_wakeUp live] at runnable rooted ⊢
  simp only [WokenBy, lastWakeUp_wakeUp live equipped]
  split
  · rename_i here
    have scheduled := (consistent.mem_group free).mpr here
    exact ⟨_, rfl, DelayedTask.targetTime_le (head.least member scheduled task runnable)⟩
  · rename_i elsewhere
    exact armed member (rooted.resolve_right elsewhere) task runnable

/-- After a conditional wake-up the tasks of its queue are covered as well. -/
theorem ArmedAt.wakeIfPending {woken : MessageLoopTaskQueues τ} (armed : queues.ArmedAt roots)
    (wakes : queues.wakeIfPending queueId = some woken) :
    woken.ArmedAt fun root => roots root ∨ root = queueId := by
  obtain ⟨result, same, outcome⟩ := consistent.wakeIfPending_spec live
  obtain rfl := Option.some_inj.mp (wakes.symm.trans same)
  rcases outcome with ⟨rfl, idle⟩ | ⟨-, top, head, rfl⟩
  · intro member rooted task runnable
    rcases rooted with rooted | here
    · exact armed member rooted task runnable
    · rw [idle free member ((consistent.mem_group free).mpr here)] at runnable
      exact absurd runnable List.not_mem_nil
  · exact armed.wakeUp consistent live free equipped head

end

/-! ## Changing a source -/

variable {change : TaskSource τ → TaskSource τ}

/-- A change of a source is covered if its own tasks are. -/
theorem ArmedAt.modifySource (live : queues.Live queueId) (armed : queues.ArmedAt roots)
    (covered : roots (queues.root queueId) → ∀ task ∈ (change (queues.source queueId)).runnable,
      queues.WokenBy (queues.root queueId) task.targetTime) :
    (queues.modifySource queueId change).ArmedAt roots := by
  intro member rooted task runnable
  simp only [WokenBy, lastWakeUp, source, root, entry_modifySource live] at rooted runnable ⊢
  split at runnable
  · rename_i here
    subst here
    exact covered rooted task runnable
  · exact armed member rooted task runnable

/-- Offering no further task keeps every queue covered. -/
theorem Armed.modifySource_of_subset (live : queues.Live queueId) (armed : queues.Armed)
    (fewer : ∀ task ∈ (change (queues.source queueId)).runnable,
      task ∈ (queues.source queueId).runnable) : (queues.modifySource queueId change).Armed :=
  ArmedAt.modifySource live armed fun _ task runnable =>
    armed queueId trivial task (fewer task runnable)

/-- A change of a source concerns only the queue that schedules it. -/
theorem Armed.modifySource_elsewhere (live : queues.Live queueId) (armed : queues.Armed)
    (change : TaskSource τ → TaskSource τ) :
    (queues.modifySource queueId change).ArmedAt fun root => root ≠ queues.root queueId :=
  ArmedAt.modifySource live (armed.mono fun _ _ => trivial) fun elsewhere => absurd rfl elsewhere

/-! ## The calls -/

/-- The queues a call may wake. -/
def wakes (queues : MessageLoopTaskQueues τ) : Op τ → List TaskQueueId
  | .registerTask queueId _ _ _ => [queues.root queueId]
  | .getNextTaskToRun queueId _ => [queueId]
  | .merge owner _ => [owner]
  | .unmerge owner subsumed => [owner, subsumed]
  | .resumeSecondarySource queueId => [queueId]
  | _ => []

/-- The queues a call may wake have a Wakeable. -/
def Equipped (queues : MessageLoopTaskQueues τ) (op : Op τ) : Prop :=
  ∀ queueId ∈ queues.wakes op, (queues.entry queueId).wakeable.isSome

/-- A resume that ends the pause of a subsumed queue brings back no secondary
task due before the last `WakeUp` of the owner. -/
def ResumesInTime (queues : MessageLoopTaskQueues τ) : Op τ → Prop
  | .resumeSecondarySource queueId =>
    (queues.source queueId).secondaryPauseRequests = 1 →
      ∀ owner ∈ (queues.entry queueId).subsumedBy,
        ∀ task ∈ (queues.source queueId).secondaryTaskQueue.toList,
          queues.WokenBy owner task.targetTime
  | _ => True

/-- The condition on calls under which no wake-up is lost. -/
structure Rearming (queues : MessageLoopTaskQueues τ) (op : Op τ) : Prop where
  asserted : queues.Asserted op
  equipped : queues.Equipped op
  resumesInTime : queues.ResumesInTime op

variable {next : MessageLoopTaskQueues τ}

section

variable (consistent : queues.Consistent)

include consistent

theorem Armed.registerTask {task : τ} {targetTime : Int} {grade : TaskSourceGrade}
    (equipped : (queues.entry (queues.root queueId)).wakeable.isSome) (armed : queues.Armed)
    (registers : queues.registerTask queueId task targetTime grade = some next) : next.Armed := by
  obtain ⟨live, wakes⟩ := registerTask_cases registers
  have entries := entry_registered live task targetTime grade
  have elsewhere : (queues.registered queueId task targetTime grade).ArmedAt
      fun other => other ≠ queues.root queueId :=
    armed.modifySource_elsewhere live (·.registerTask (queues.newTask task targetTime grade))
  refine (elsewhere.wakeIfPending (consistent.registered live task targetTime grade) ?_ ?_ ?_
    wakes).mono fun other _ => ne_or_eq other (queues.root queueId)
  · exact live_registered.mpr (consistent.live_root live)
  · rw [entries]
    exact consistent.root_unsubsumed queueId
  · rw [entries]
    exact equipped

theorem Armed.getNextTaskToRun {fromTime : Int} {returned : Option (TopTask τ)} (equipped : (queues.entry queueId).wakeable.isSome)
    (armed : queues.Armed)
    (gets : queues.getNextTaskToRun queueId fromTime = some (returned, next)) : next.Armed := by
  obtain ⟨-, -, rfl⟩ | ⟨pending, top, peeked, outcome⟩ := getNextTaskToRun_cases gets
  · exact armed
  have live := live_of_hasPendingTasks pending
  obtain ⟨free, head⟩ := consistent.peeked_head pending peeked
  have woken : (queues.wakeUp queueId top.task.targetTime).Armed :=
    (armed.wakeUp consistent live free equipped head).mono fun _ _ => .inl trivial
  obtain ⟨-, -, rfl⟩ | ⟨-, -, named, rfl⟩ := outcome
  · exact woken
  · refine woken.modifySource_of_subset (live_wakeUp.mpr named) fun task remains => ?_
    simp only [source, entry_wakeUp live] at remains ⊢
    exact head.pops.runnable.mem_iff.mpr (List.mem_cons_of_mem _ remains)

variable {owner subsumed : TaskQueueId}

theorem Armed.merge {merged : Bool}
    (equipped : (queues.entry owner).wakeable.isSome) (armed : queues.Armed)
    (merges : queues.merge owner subsumed = some (merged, next)) : next.Armed := by
  obtain rfl | ⟨-, distinct, liveOwner, liveSubsumed, ownerFree, owning, subsumedFree, wakes⟩ :=
    merge_cases merges
  · exact armed
  have entries := entry_mergeLinks distinct liveOwner liveSubsumed
  have linked := consistent.mergeLinks distinct liveOwner liveSubsumed ownerFree owning subsumedFree
  have elsewhere : (queues.mergeLinks owner subsumed).ArmedAt fun root => root ≠ owner := by
    intro member rooted task runnable
    have root : (queues.mergeLinks owner subsumed).root member = queues.root member := by
      simp only [root, entries] at rooted ⊢
      split at rooted
      · exact absurd rfl rooted
      · rename_i other
        rw [if_neg other]
    rw [root]
    simp only [WokenBy, lastWakeUp, source, entries] at runnable ⊢
    exact armed member trivial task runnable
  refine (elsewhere.wakeIfPending linked ?_ ?_ ?_ wakes).mono fun other _ => ne_or_eq other owner
  · simpa [mergeLinks] using liveOwner
  · rw [entries]
    simp [distinct, ownerFree]
  · rw [entries]
    exact equipped

theorem Armed.unmerge {unmerged : Bool} (ownerEquipped : (queues.entry owner).wakeable.isSome)
    (subsumedEquipped : (queues.entry subsumed).wakeable.isSome) (armed : queues.Armed)
    (unmerges : queues.unmerge owner subsumed = some (unmerged, next)) : next.Armed := by
  obtain rfl | ⟨-, liveOwner, liveSubsumed, ownerFree, owned, woken, wakes, wakesAgain⟩ :=
    unmerge_cases unmerges
  · exact armed
  obtain ⟨distinct, unlinked⟩ := consistent.unmergeLinks ownerFree owned
  have entries := entry_unmergeLinks distinct liveOwner liveSubsumed
  have elsewhere : (queues.unmergeLinks owner subsumed).ArmedAt
      fun root => root ≠ owner ∧ root ≠ subsumed := by
    intro member rooted task runnable
    have root : (queues.unmergeLinks owner subsumed).root member = queues.root member := by
      simp only [root, entries] at rooted ⊢
      split at rooted
      · rename_i same
        exact absurd same rooted.2
      · rename_i other
        rw [if_neg other]
    rw [root]
    simp only [WokenBy, lastWakeUp, source, entries] at runnable ⊢
    exact armed member trivial task runnable
  have first := elsewhere.wakeIfPending unlinked (by simpa [unmergeLinks] using liveOwner)
    (by rw [entries]; simp [distinct, ownerFree]) (by rw [entries]; exact ownerEquipped) wakes
  obtain ⟨stillLive, stillEquipped, stillLinked⟩ := wakeIfPending_keeps wakes subsumed
  refine (first.wakeIfPending (unlinked.wakeIfPending wakes) ?_ ?_ ?_ wakesAgain).mono fun other _ => ?_
  · simpa [stillLive, unmergeLinks] using liveSubsumed
  · rw [stillLinked, entries]
    exact if_pos rfl
  · rw [stillEquipped, entries]
    exact subsumedEquipped
  · by_cases isOwner : other = owner
    · exact .inl (.inr isOwner)
    · by_cases isSubsumed : other = subsumed
      · exact .inr isSubsumed
      · exact .inl (.inl ⟨isOwner, isSubsumed⟩)

theorem Armed.pauseSecondarySource (armed : queues.Armed)
    (pauses : queues.pauseSecondarySource queueId = some next) : next.Armed := by
  obtain ⟨entry, found, rest⟩ := Option.bind_eq_some_iff.mp pauses
  cases rest
  exact armed.modifySource_of_subset (live_of_at found) fun task offered =>
    TaskSource.runnable_pauseSecondary (consistent.resumed queueId) offered

/-- On a subsumed queue a resume keeps the queues armed exactly when it brings
back no task due before the owner's last `WakeUp`. -/
theorem Armed.resumeSubsumed_iff (paused : (queues.source queueId).paused)
    (subsumed : (queues.entry queueId).subsumedBy = some owner) (armed : queues.Armed)
    (resumes : queues.resumeSecondarySource queueId = some next) :
    next.Armed ↔ queues.ResumesInTime (.resumeSecondarySource queueId) := by
  obtain ⟨entry, found, wakes⟩ := Option.bind_eq_some_iff.mp resumes
  have live := live_of_at found
  have entries := entry_modifySource live TaskSource.resumeSecondary
  have resumed : (queues.modifySource queueId TaskSource.resumeSecondary).Consistent :=
    consistent.modifySource live rfl (Int.sub_nonneg_of_le paused)
  have root : queues.root queueId = owner := by rw [MessageLoopTaskQueues.root, subsumed]; rfl
  -- Nobody is woken: a subsumed queue has no pending tasks.
  obtain ⟨woken, same, outcome⟩ := resumed.wakeIfPending_spec (live_modifySource.mpr live)
  obtain rfl := Option.some_inj.mp (wakes.symm.trans same)
  obtain ⟨rfl, -⟩ | ⟨free, -⟩ := outcome
  · constructor
    · intro after ends link linked task secondary
      have covered := after queueId trivial task
      simp only [source, WokenBy, lastWakeUp, MessageLoopTaskQueues.root, entries, if_true] at covered
      obtain rfl := Option.some_inj.mp (subsumed.symm.trans linked)
      rw [subsumed] at covered
      exact covered ((TaskSource.runnable_resumeSecondary paused).mpr (.inr ⟨ends, secondary⟩))
    · intro inTime
      refine ArmedAt.modifySource live armed fun _ task offered => ?_
      rcases (TaskSource.runnable_resumeSecondary paused).mp offered with earlier | ⟨ends, secondary⟩
      · exact armed queueId trivial task earlier
      · exact root ▸ inTime ends owner subsumed task secondary
  · rw [entries, subsumed] at free
    cases free

theorem Armed.resumeSecondarySource
    (rearming : queues.Rearming (.resumeSecondarySource queueId)) (armed : queues.Armed)
    (resumes : queues.resumeSecondarySource queueId = some next) : next.Armed := by
  have paused : (queues.source queueId).paused := rearming.asserted
  cases link : (queues.entry queueId).subsumedBy with
  | some owner =>
    exact (armed.resumeSubsumed_iff consistent paused link resumes).mpr rearming.resumesInTime
  | none =>
    obtain ⟨entry, found, wakes⟩ := Option.bind_eq_some_iff.mp resumes
    have live := live_of_at found
    have entries := entry_modifySource live TaskSource.resumeSecondary
    have resumed : (queues.modifySource queueId TaskSource.resumeSecondary).Consistent :=
      consistent.modifySource live rfl (Int.sub_nonneg_of_le paused)
    have elsewhere := armed.modifySource_elsewhere live TaskSource.resumeSecondary
    refine (elsewhere.wakeIfPending resumed (live_modifySource.mpr live) ?_ ?_ wakes).mono
      fun other _ => ?_
    · rw [entries]
      exact link
    · rw [entries]
      exact rearming.equipped queueId List.mem_cons_self
    · rw [root, link]
      exact ne_or_eq other queueId

theorem Armed.createTaskQueue (armed : queues.Armed) :
    queues.createTaskQueue.2.Armed := by
  intro member _ task runnable
  simp only [source, root, WokenBy, lastWakeUp, consistent.entry_createTaskQueue] at runnable ⊢
  exact armed member trivial task runnable

end

theorem Armed.setWakeable (armed : queues.Armed)
    (sets : queues.setWakeable queueId = some next) : next.Armed := by
  obtain ⟨entry, found, rest⟩ := Option.bind_eq_some_iff.mp sets
  simp only [Option.bind_eq_bind, Option.pure_def] at rest
  split at rest
  · cases rest
  rename_i bare
  cases rest
  have entries := entry_modify (live_of_at found) fun entry => { entry with wakeable := some [] }
  intro member _ task runnable
  have before : queues.WokenBy (queues.root member) task.targetTime := by
    refine armed member trivial task ?_
    simp only [source, entries] at runnable ⊢
    split at runnable
    · rename_i same
      exact same ▸ runnable
    · exact runnable
  -- A queue without a Wakeable was never woken, so it schedules no runnable task.
  have distinct : queues.root member ≠ queueId := by
    rintro same
    obtain ⟨last, woken, -⟩ := before
    rw [same, lastWakeUp, entry_of_at found] at woken
    simp [show entry.wakeable = none by simpa using bare] at woken
  have root : (queues.modify queueId fun entry => { entry with wakeable := some [] }).root member =
      queues.root member := by
    simp only [MessageLoopTaskQueues.root, entries]
    split
    · rename_i same
      rw [same]
    · rfl
  rw [root, WokenBy, lastWakeUp, entries, if_neg distinct]
  exact before

theorem Armed.dispose (consistent : queues.Consistent)
    (unsubsumed : (queues.entry queueId).subsumedBy = none) (armed : queues.Armed)
    (disposes : queues.dispose queueId = some next) : next.Armed := by
  have entries := fun other => (entry_dispose disposes other).2
  intro member _ task runnable
  simp only [source, entries] at runnable
  split at runnable
  · exact absurd runnable List.not_mem_nil
  rename_i kept
  have root : next.root member = queues.root member := by
    rw [MessageLoopTaskQueues.root, entries, if_neg kept, MessageLoopTaskQueues.root]
  have rootKept : queues.root member ∉ queues.group queueId := by
    rw [consistent.mem_group unsubsumed] at kept ⊢
    have free := consistent.root_unsubsumed member
    rwa [MessageLoopTaskQueues.root, free]
  rw [root, WokenBy, lastWakeUp, entries, if_neg rootKept]
  exact armed member trivial task runnable

theorem Armed.disposeTasks (armed : queues.Armed)
    (disposes : queues.disposeTasks queueId = some next) : next.Armed := by
  have entries := fun other => (entry_disposeTasks disposes other).2
  have links : ∀ other, (next.entry other).subsumedBy = (queues.entry other).subsumedBy ∧
      (next.entry other).wakeable = (queues.entry other).wakeable := by
    intro other
    rw [entries]
    split <;> exact ⟨rfl, rfl⟩
  intro member _ task runnable
  have before : task ∈ (queues.source member).runnable := by
    simp only [source, entries] at runnable
    split at runnable
    · exact absurd runnable List.not_mem_nil
    · exact runnable
  rw [MessageLoopTaskQueues.root, (links member).1, WokenBy, lastWakeUp, (links _).2]
  exact armed member trivial task before

/-- Every call that meets the condition keeps the queues armed. -/
theorem Armed.call {op : Op τ} (consistent : queues.Consistent) (rearming : queues.Rearming op)
    (armed : queues.Armed) (calls : queues.call op = some next) : next.Armed := by
  have equipped := rearming.equipped
  cases op with
  | createTaskQueue =>
    cases calls
    exact armed.createTaskQueue consistent
  | setWakeable queueId => exact armed.setWakeable calls
  | registerTask queueId task targetTime grade =>
    exact armed.registerTask consistent (equipped _ List.mem_cons_self) calls
  | getNextTaskToRun queueId fromTime =>
    obtain ⟨⟨returned, _⟩, gets, rfl⟩ := Option.map_eq_some_iff.mp calls
    exact armed.getNextTaskToRun consistent (equipped _ List.mem_cons_self) gets
  | merge owner subsumed =>
    obtain ⟨⟨merged, _⟩, merges, rfl⟩ := Option.map_eq_some_iff.mp calls
    exact armed.merge consistent (equipped _ List.mem_cons_self) merges
  | unmerge owner subsumed =>
    obtain ⟨⟨unmerged, _⟩, unmerges, rfl⟩ := Option.map_eq_some_iff.mp calls
    exact armed.unmerge consistent (equipped _ List.mem_cons_self)
      (equipped _ (List.mem_cons_of_mem _ List.mem_cons_self)) unmerges
  | pauseSecondarySource queueId => exact armed.pauseSecondarySource consistent calls
  | resumeSecondarySource queueId => exact armed.resumeSecondarySource consistent rearming calls
  | dispose queueId => exact armed.dispose consistent rearming.asserted calls
  | disposeTasks queueId => exact armed.disposeTasks calls

instance (op : Op τ) : Decidable (queues.Equipped op) :=
  inferInstanceAs (Decidable (∀ queueId ∈ queues.wakes op, _))

instance (op : Op τ) : Decidable (queues.ResumesInTime op) :=
  match op with
  | .resumeSecondarySource queueId =>
    inferInstanceAs (Decidable ((queues.source queueId).secondaryPauseRequests = 1 →
      ∀ owner ∈ (queues.entry queueId).subsumedBy,
        ∀ task ∈ (queues.source queueId).secondaryTaskQueue.toList,
          queues.WokenBy owner task.targetTime))
  | .createTaskQueue | .setWakeable _ | .registerTask .. | .getNextTaskToRun .. | .merge ..
  | .unmerge .. | .pauseSecondarySource _ | .dispose _ | .disposeTasks _ =>
    inferInstanceAs (Decidable True)

instance (op : Op τ) : Decidable (queues.Rearming op) :=
  decidable_of_iff (queues.Asserted op ∧ queues.Equipped op ∧ queues.ResumesInTime op)
    ⟨fun all => ⟨all.1, all.2.1, all.2.2⟩, fun all => ⟨all.asserted, all.equipped, all.resumesInTime⟩⟩

/-- Two merged queues, with the secondary source of the subsumed one paused; its
secondary task is due at 5. -/
def pausedMerge (ownerTime : Int) : List (Op Unit) :=
  [.createTaskQueue, .setWakeable 0, .createTaskQueue, .setWakeable 1, .merge 0 1,
    .pauseSecondarySource 1, .registerTask 1 () 5 .dartEventLoop,
    .registerTask 0 () ownerTime .unspecified, .resumeSecondarySource 1]

end FlutterEngine.Fml.MessageLoopTaskQueues
