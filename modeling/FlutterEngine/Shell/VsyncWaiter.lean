import Mathlib.Algebra.Order.Group.Multiset
import Mathlib.Tactic.Abel
import FlutterEngine.Std.Machine

/-!
# The vsync waiter

`VsyncWaiter` of `vsync_waiter.cc`, one section under the callback mutex, one call of the
platform or one post at a time. A callback that has been moved from is empty. Tasks of the
UI task runner run in the order of their posts, one after the other; a callback may call
the waiter again.
-/

namespace FlutterEngine.Shell

open FlutterEngine.Std

/-- What `FireCallback` has still to do after its section. -/
inductive FireStage (κ : Type) where
  /-- To pause the secondary tasks, then to post the callback with a resume. -/
  | pausing (callback : κ) (secondaryCallbacks : List κ)
  | posting (callback : κ) (pauseSecondaryTasks : Bool) (secondaryCallbacks : List κ)
  | postingSecondary (secondaryCallbacks : List κ)
deriving DecidableEq, Repr

/-- The firings that found a callback are numbered from zero. -/
structure Firing (κ : Type) where
  number : Nat
  stage : FireStage κ
deriving DecidableEq, Repr

/-- A task of the UI task runner, with the number of the firing that posted it. -/
inductive VsyncTask (κ : Type) where
  | callback (callback : κ) (pauseSecondaryTasks : Bool) (number : Nat)
  | secondary (callback : κ) (number : Nat)
deriving DecidableEq, Repr

/-- `awaiting` are the calls that have left their section to call `AwaitVSync`, `requests` the
requests that the platform has not fired for, `resuming` is the firing whose task is in its
callback and resumes the secondary tasks after it. The last five fields are records: how many
firings there were, the accepted callbacks with this number at their registration, the
posted callbacks with the number of their firing, and the firings that have paused and
resumed the secondary tasks. -/
structure VsyncWaiter (κ : Type) where
  callback : Option κ := none
  secondaryCallbacks : List (Nat × κ) := []
  awaiting : Nat := 0
  requests : Nat := 0
  firings : List (Firing κ) := []
  uiTasks : List (VsyncTask κ) := []
  resuming : Option Nat := none
  fires : Nat := 0
  accepted : List (κ × Nat) := []
  posted : List (κ × Nat) := []
  paused : List Nat := []
  resumed : List Nat := []

namespace VsyncWaiter

variable {κ : Type} (waiter : VsyncWaiter κ)

/-! ## The calls -/

/-- The section of `AsyncWaitForVsync`; a null callback is none. -/
def asyncWaitForVsync (callback : Option κ) : VsyncWaiter κ :=
  match callback, waiter.callback with
  | some callback, none =>
    { waiter with
      callback := some callback
      accepted := waiter.accepted ++ [(callback, waiter.fires)]
      awaiting := if waiter.secondaryCallbacks.isEmpty then waiter.awaiting + 1
        else waiter.awaiting }
  | _, _ => waiter

/-- The section of `ScheduleSecondaryCallback`. -/
def scheduleSecondaryCallback (id : Nat) (callback : Option κ) : VsyncWaiter κ :=
  match callback with
  | none => waiter
  | some callback =>
    if waiter.secondaryCallbacks.any (·.1 == id) then waiter
    else
      { waiter with
        secondaryCallbacks := waiter.secondaryCallbacks ++ [(id, callback)]
        accepted := waiter.accepted ++ [(callback, waiter.fires)]
        awaiting :=
          if waiter.callback.isSome || !waiter.secondaryCallbacks.isEmpty then waiter.awaiting
          else waiter.awaiting + 1 }

/-- `AwaitVSync`, or `AwaitVSyncForSecondaryCallback`. -/
def awaitVSync : Option (VsyncWaiter κ) :=
  match waiter.awaiting with
  | 0 => none
  | awaiting + 1 => some { waiter with awaiting, requests := waiter.requests + 1 }

/-- The section of `FireCallback`, for a request, where the map is gone through in this order. -/
def fireCallback (pauseSecondaryTasks : Bool) (order : List (Nat × κ) → List (Nat × κ)) :
    VsyncWaiter κ :=
  let fired := { waiter with
    callback := none
    secondaryCallbacks := []
    requests := waiter.requests - 1 }
  let secondaryCallbacks := (order waiter.secondaryCallbacks).map Prod.snd
  match waiter.callback, secondaryCallbacks with
  | none, [] => fired
  | none, secondaryCallbacks =>
    { fired with
      fires := waiter.fires + 1
      firings := waiter.firings ++ [⟨waiter.fires, .postingSecondary secondaryCallbacks⟩] }
  | some callback, secondaryCallbacks =>
    { fired with
      fires := waiter.fires + 1
      firings := waiter.firings ++ [⟨waiter.fires,
        if pauseSecondaryTasks then .pausing callback secondaryCallbacks
        else .posting callback false secondaryCallbacks⟩] }

/-- The next thing that a firing does. -/
def advance (index : Nat) : Option (VsyncWaiter κ) :=
  match waiter.firings[index]? with
  | none => none
  | some ⟨number, stage⟩ =>
    match stage with
    | .pausing callback secondaryCallbacks =>
      some { waiter with
        paused := waiter.paused ++ [number]
        firings := waiter.firings.set index ⟨number, .posting callback true secondaryCallbacks⟩ }
    | .posting callback pauseSecondaryTasks secondaryCallbacks =>
      some { waiter with
        uiTasks := waiter.uiTasks ++ [.callback callback pauseSecondaryTasks number]
        posted := waiter.posted ++ [(callback, number)]
        firings := waiter.firings.set index ⟨number, .postingSecondary secondaryCallbacks⟩ }
    | .postingSecondary (callback :: secondaryCallbacks) =>
      some { waiter with
        uiTasks := waiter.uiTasks ++ [.secondary callback number]
        posted := waiter.posted ++ [(callback, number)]
        firings := waiter.firings.set index ⟨number, .postingSecondary secondaryCallbacks⟩ }
    | .postingSecondary [] => none

/-- The next task runs, up to where the callback returns. -/
def runTask : Option (VsyncWaiter κ) :=
  match waiter.resuming, waiter.uiTasks with
  | none, task :: uiTasks =>
    match task with
    | .callback _ true number => some { waiter with uiTasks, resuming := some number }
    | .callback _ false _ => some { waiter with uiTasks }
    | .secondary _ _ => some { waiter with uiTasks }
  | _, _ => none

/-- `ResumeDartEventLoopTasks` at the end of the task. -/
def resume : Option (VsyncWaiter κ) :=
  waiter.resuming.map fun number =>
    { waiter with resuming := none, resumed := waiter.resumed ++ [number] }

inductive Op (κ : Type) where
  | asyncWaitForVsync (callback : Option κ)
  | scheduleSecondaryCallback (id : Nat) (callback : Option κ)
  | awaitVSync
  | fireCallback (pauseSecondaryTasks : Bool) (order : List (Nat × κ) → List (Nat × κ))
  | advance (index : Nat)
  | runTask
  | resume

def step : Op κ → Option (VsyncWaiter κ)
  | .asyncWaitForVsync callback => some (waiter.asyncWaitForVsync callback)
  | .scheduleSecondaryCallback id callback => some (waiter.scheduleSecondaryCallback id callback)
  | .awaitVSync => waiter.awaitVSync
  | .fireCallback pauseSecondaryTasks order => some (waiter.fireCallback pauseSecondaryTasks order)
  | .advance index => waiter.advance index
  | .runTask => waiter.runTask
  | .resume => waiter.resume

def machine (κ : Type) : Machine (VsyncWaiter κ) (Op κ) where
  Initial waiter := waiter = {}
  step := step

/-- The platform fires once for each request; the map is gone through once. -/
def PlatformFires : Op κ → Prop
  | .fireCallback _ order =>
    0 < waiter.requests ∧ (order waiter.secondaryCallbacks).Perm waiter.secondaryCallbacks
  | _ => True

instance [DecidableEq κ] (op : Op κ) : Decidable (waiter.PlatformFires op) :=
  match op with
  | .fireCallback _ _ => inferInstanceAs (Decidable (_ ∧ _))
  | .asyncWaitForVsync _ | .scheduleSecondaryCallback _ _ | .awaitVSync | .advance _ | .runTask
  | .resume => .isTrue trivial

end VsyncWaiter

/-! ## Accounts -/

/-- The callbacks still to be posted. -/
def FireStage.callbacks {κ : Type} : FireStage κ → List κ
  | pausing callback secondaryCallbacks => callback :: secondaryCallbacks
  | posting callback _ secondaryCallbacks => callback :: secondaryCallbacks
  | postingSecondary secondaryCallbacks => secondaryCallbacks

namespace Firing

variable {κ : Type} (firing : Firing κ)

def inFlight : List (κ × Nat) := firing.stage.callbacks.map fun callback => (callback, firing.number)

/-- The firing is still to pause the secondary tasks. -/
def toPause : List Nat :=
  match firing.stage with
  | .pausing _ _ => [firing.number]
  | _ => []

/-- The firing has paused and not yet posted the task that resumes. -/
def toResume : List Nat :=
  match firing.stage with
  | .posting _ true _ => [firing.number]
  | _ => []

theorem toPause_eq : firing.toPause = [] ∨ firing.toPause = [firing.number] := by
  unfold toPause
  split
  · exact .inr rfl
  · exact .inl rfl

end Firing

/-- The task will resume the secondary tasks. -/
def VsyncTask.toResume {κ : Type} : VsyncTask κ → List Nat
  | callback _ true number => [number]
  | _ => []

namespace VsyncWaiter

variable {κ : Type} (waiter : VsyncWaiter κ)

/-- The primary and the secondary callbacks that are registered. -/
def registered : List κ := waiter.callback.toList ++ waiter.secondaryCallbacks.map Prod.snd

/-- The callbacks that a firing has taken and not posted. -/
def inFlight : List (κ × Nat) := waiter.firings.flatMap Firing.inFlight

/-- The firings that are still to pause. -/
def toPause : List Nat := waiter.firings.flatMap Firing.toPause

/-- The firings that have paused and whose task has not come to its end. -/
def toResume : List Nat :=
  waiter.firings.flatMap Firing.toResume ++ waiter.uiTasks.flatMap VsyncTask.toResume ++
    waiter.resuming.toList

/-- The invariant of the runs. -/
structure Sound : Prop where
  requested : waiter.awaiting + waiter.requests = if waiter.registered = [] then 0 else 1
  accounted : (waiter.accepted : Multiset (κ × Nat)) = waiter.posted + waiter.inFlight +
    (waiter.registered.map fun callback => (callback, waiter.fires) : List (κ × Nat))
  resumes : (waiter.paused : Multiset Nat) = waiter.resumed + waiter.toResume
  /-- A firing pauses once. -/
  once : ((waiter.paused : Multiset Nat) + waiter.toPause).Nodup
  numbered : ∀ number ∈ (waiter.paused : Multiset Nat) + waiter.toPause, number < waiter.fires

variable {waiter} {next : VsyncWaiter κ}

/-- One firing's share in what the firings hold changes by itself. -/
theorem flatMap_set {α : Type} {firings : List (Firing κ)} {index : Nat} {firing : Firing κ}
    (here : firings[index]? = some firing) (changed : Firing κ) (share : Firing κ → List α) :
    (share firing : Multiset α) + (firings.set index changed).flatMap share =
      share changed + firings.flatMap share := by
  obtain ⟨inside, same⟩ := List.getElem?_eq_some_iff.mp here
  have before : (firings.flatMap share).Perm
      (share firing ++ (firings.eraseIdx index).flatMap share) := by
    have apart := (List.getElem_cons_eraseIdx_perm inside).symm.flatMap_right share
    rwa [same] at apart
  have after : ((firings.set index changed).flatMap share).Perm
      (share changed ++ (firings.eraseIdx index).flatMap share) :=
    (List.set_perm_cons_eraseIdx inside changed).flatMap_right share
  rw [Multiset.coe_eq_coe.mpr before, Multiset.coe_eq_coe.mpr after, ← Multiset.coe_add,
    ← Multiset.coe_add]
  exact add_left_comm _ _ _

/-! ## The calls keep the accounts -/

section

variable (sound : waiter.Sound)

include sound

/-- A registration asks the platform if it is the first. -/
theorem Sound.register {callback : κ} {primary : Option κ}
    {secondaryCallbacks : List (Nat × κ)} {awaiting : Nat}
    (registered : (primary.toList ++ secondaryCallbacks.map Prod.snd).Perm
      (callback :: waiter.registered))
    (asks : awaiting = if waiter.registered = [] then waiter.awaiting + 1 else waiter.awaiting) :
    Sound { waiter with
      callback := primary
      secondaryCallbacks
      accepted := waiter.accepted ++ [(callback, waiter.fires)]
      awaiting } := by
  obtain ⟨requested, accounted, resumes, once, numbered⟩ := sound
  refine ⟨?_, ?_, resumes, once, numbered⟩
  · have some : primary.toList ++ secondaryCallbacks.map Prod.snd ≠ [] := by
      intro none
      rw [none] at registered
      exact absurd registered.length_eq (Nat.zero_ne_add_one _)
    change awaiting + waiter.requests =
      if primary.toList ++ secondaryCallbacks.map Prod.snd = [] then 0 else 1
    rw [if_neg some, asks]
    split at requested
    · next first => rw [if_pos first, Nat.add_right_comm, requested]
    · next further => rw [if_neg further, requested]
  · have stamped := registered.map fun callback => (callback, waiter.fires)
    change ((waiter.accepted ++ [(callback, waiter.fires)] : List (κ × Nat)) : Multiset (κ × Nat)) =
      waiter.posted + waiter.inFlight + ((primary.toList ++ secondaryCallbacks.map Prod.snd).map
        fun callback => (callback, waiter.fires) : List (κ × Nat))
    rw [Multiset.coe_eq_coe.mpr stamped, ← Multiset.coe_add, Multiset.coe_singleton, accounted,
      List.map_cons, ← Multiset.cons_coe, ← Multiset.singleton_add]
    abel

theorem Sound.asyncWaitForVsync (callback : Option κ) :
    (waiter.asyncWaitForVsync callback).Sound := by
  unfold VsyncWaiter.asyncWaitForVsync
  split
  · next callback vacant =>
      refine sound.register ?_ ?_
      · rw [registered, vacant]
        rfl
      · rw [registered, vacant]
        cases waiter.secondaryCallbacks <;> rfl
  · exact sound

theorem Sound.scheduleSecondaryCallback (id : Nat) (callback : Option κ) :
    (waiter.scheduleSecondaryCallback id callback).Sound := by
  unfold VsyncWaiter.scheduleSecondaryCallback
  split
  · exact sound
  · next callback =>
      split
      · exact sound
      · refine sound.register ?_ ?_
        · rw [registered, List.map_append, ← List.append_assoc]
          exact List.perm_append_singleton callback _
        · rw [registered]
          cases waiter.callback <;> cases waiter.secondaryCallbacks <;> rfl

theorem Sound.awaitVSync (awaits : waiter.awaitVSync = some next) :
    next.Sound := by
  obtain ⟨requested, accounted, resumes, once, numbered⟩ := sound
  unfold VsyncWaiter.awaitVSync at awaits
  split at awaits
  · cases awaits
  · next awaiting about =>
      cases awaits
      refine ⟨?_, accounted, resumes, once, numbered⟩
      change awaiting + (waiter.requests + 1) = if waiter.registered = [] then 0 else 1
      rw [← requested, about]
      omega

/-- A new firing takes what was registered. -/
theorem Sound.fires (asked : 0 < waiter.requests) {stage : FireStage κ}
    (taken : stage.callbacks.Perm waiter.registered) (some : waiter.registered ≠ [])
    (fresh : (Firing.mk waiter.fires stage).toResume = []) :
    Sound { waiter with
      callback := none
      secondaryCallbacks := []
      requests := waiter.requests - 1
      fires := waiter.fires + 1
      firings := waiter.firings ++ [⟨waiter.fires, stage⟩] } := by
  obtain ⟨requested, accounted, resumes, once, numbered⟩ := sound
  rw [if_neg some] at requested
  have share {α : Type} (share : Firing κ → List α) :
      (waiter.firings ++ [Firing.mk waiter.fires stage]).flatMap share =
        waiter.firings.flatMap share ++ share ⟨waiter.fires, stage⟩ := by
    rw [List.flatMap_append, List.flatMap_cons, List.flatMap_nil, List.append_nil]
  refine ⟨?_, ?_, ?_, ?_, ?_⟩
  · change waiter.awaiting + (waiter.requests - 1) = 0
    omega
  · have stamped := taken.map fun callback => (callback, waiter.fires)
    change (waiter.accepted : Multiset (κ × Nat)) = waiter.posted +
      ((waiter.firings ++ [Firing.mk waiter.fires stage]).flatMap Firing.inFlight : List (κ × Nat)) +
        (0 : Multiset (κ × Nat))
    rw [share, ← Multiset.coe_add, accounted, ← Multiset.coe_eq_coe.mpr stamped, add_zero,
      ← add_assoc]
    rfl
  · change (waiter.paused : Multiset Nat) = waiter.resumed +
      (((waiter.firings ++ [Firing.mk waiter.fires stage]).flatMap Firing.toResume ++
        waiter.uiTasks.flatMap VsyncTask.toResume ++ waiter.resuming.toList : List Nat) :
          Multiset Nat)
    rw [share, fresh, List.append_nil]
    exact resumes
  · change ((waiter.paused : Multiset Nat) +
      ((waiter.firings ++ [Firing.mk waiter.fires stage]).flatMap Firing.toPause : List Nat)).Nodup
    rw [share, ← Multiset.coe_add, ← add_assoc]
    rcases Firing.toPause_eq ⟨waiter.fires, stage⟩ with none | one
    · rw [none, Multiset.coe_nil, add_zero]
      exact once
    · rw [one, Multiset.nodup_add]
      refine ⟨once, Multiset.nodup_singleton _, Multiset.disjoint_singleton.mpr fun before => ?_⟩
      exact absurd (numbered _ before) (Nat.lt_irrefl _)
  · change ∀ number ∈ (waiter.paused : Multiset Nat) +
      ((waiter.firings ++ [Firing.mk waiter.fires stage]).flatMap Firing.toPause : List Nat),
        number < waiter.fires + 1
    rw [share, ← Multiset.coe_add, ← add_assoc]
    intro number member
    rcases Multiset.mem_add.mp member with before | here
    · exact (numbered number before).trans (Nat.lt_succ_self _)
    · have own : number = waiter.fires := by
        rcases Firing.toPause_eq ⟨waiter.fires, stage⟩ with none | one
        · exact absurd (none ▸ here) List.not_mem_nil
        · exact List.mem_singleton.mp (one ▸ here)
      exact own ▸ Nat.lt_succ_self _

theorem Sound.fireCallback (pauseSecondaryTasks : Bool)
    {order : List (Nat × κ) → List (Nat × κ)} (asked : 0 < waiter.requests)
    (through : (order waiter.secondaryCallbacks).Perm waiter.secondaryCallbacks) :
    (waiter.fireCallback pauseSecondaryTasks order).Sound := by
  have secondary := through.map Prod.snd
  have some : waiter.registered ≠ [] := fun none => by
    have requested := sound.requested
    rw [if_pos none] at requested
    omega
  unfold VsyncWaiter.fireCallback
  cases primary : waiter.callback with
  | some callback =>
    refine sound.fires asked ?_ some ?_
    · rw [registered, primary]
      cases pauseSecondaryTasks <;> exact secondary.cons callback
    · cases pauseSecondaryTasks <;> rfl
  | none =>
    rw [registered, primary] at some
    cases taken : (order waiter.secondaryCallbacks).map Prod.snd with
    | nil =>
      -- The platform does not fire for a request that was not made.
      rw [taken] at secondary
      exact absurd secondary.nil_eq.symm some
    | cons first others =>
      rw [taken] at secondary
      refine sound.fires asked ?_ (by rwa [registered, primary]) rfl
      rw [registered, primary]
      exact secondary

end

/-- What is exchanged for a share, when the sum changes by the same shares. -/
theorem add_of_exchange {α : Type} {before after own changed sum total : Multiset α}
    (exchange : after + changed = before + own) (sums : own + total = changed + sum) :
    after + total = before + sum := by
  refine add_left_cancel (a := own + changed) ?_
  calc own + changed + (after + total) = after + changed + (own + total) := by abel
    _ = before + own + (changed + sum) := by rw [exchange, sums]
    _ = own + changed + (before + sum) := by abel

/-- A step of one firing that moves what it holds. -/
theorem Sound.ofFiring (sound : waiter.Sound) {index : Nat} {firing changed : Firing κ}
    (here : waiter.firings[index]? = some firing) {paused : List Nat} {posted : List (κ × Nat)}
    {uiTasks : List (VsyncTask κ)}
    (posts : (posted : Multiset (κ × Nat)) + changed.inFlight = waiter.posted + firing.inFlight)
    (pauses : (paused : Multiset Nat) + changed.toPause = waiter.paused + firing.toPause)
    (resumes : (paused : Multiset Nat) + firing.toResume + waiter.uiTasks.flatMap VsyncTask.toResume =
      waiter.paused + changed.toResume + uiTasks.flatMap VsyncTask.toResume) :
    Sound { waiter with
      paused, posted, uiTasks, firings := waiter.firings.set index changed } := by
  have paused' := add_of_exchange pauses (flatMap_set here changed Firing.toPause)
  refine ⟨sound.requested, ?_, ?_, ?_, ?_⟩
  · have posted' := add_of_exchange posts (flatMap_set here changed Firing.inFlight)
    refine sound.accounted.trans ?_
    exact congrArg (· + _) posted'.symm
  · have sums := flatMap_set here changed Firing.toResume
    have before := sound.resumes
    rw [toResume, ← Multiset.coe_add, ← Multiset.coe_add] at before
    rw [toResume, ← Multiset.coe_add, ← Multiset.coe_add]
    refine add_right_cancel (b := (firing.toResume : Multiset Nat) +
      waiter.uiTasks.flatMap VsyncTask.toResume) ?_
    rw [← add_assoc, resumes, before]
    calc _ = waiter.resumed + (changed.toResume + waiter.firings.flatMap Firing.toResume) +
          uiTasks.flatMap VsyncTask.toResume + waiter.uiTasks.flatMap VsyncTask.toResume +
          (waiter.resuming.toList : Multiset Nat) := by abel
      _ = _ := by
        rw [← sums]
        abel
  · exact paused' ▸ sound.once
  · exact paused' ▸ sound.numbered

theorem posts_one (posted : List (κ × Nat)) (callback : κ) (secondaryCallbacks : List κ)
    (number : Nat) :
    ((posted ++ [(callback, number)] : List (κ × Nat)) : Multiset (κ × Nat)) +
        (Firing.mk number (.postingSecondary secondaryCallbacks)).inFlight =
      posted + (Firing.mk number (.postingSecondary (callback :: secondaryCallbacks))).inFlight := by
  rw [← Multiset.coe_add, add_assoc]
  rfl

theorem Sound.advance (sound : waiter.Sound) {index : Nat}
    (advances : waiter.advance index = some next) : next.Sound := by
  unfold VsyncWaiter.advance at advances
  split at advances
  · cases advances
  · next number stage here =>
      split at advances
      · next callback secondaryCallbacks =>
          cases advances
          refine sound.ofFiring here rfl ?_ ?_
          · change ((waiter.paused ++ [number] : List Nat) : Multiset Nat) + 0 =
              waiter.paused + ([number] : List Nat)
            rw [← Multiset.coe_add, add_zero]
          · change ((waiter.paused ++ [number] : List Nat) : Multiset Nat) + 0 + _ =
              waiter.paused + ([number] : List Nat) + _
            rw [← Multiset.coe_add, add_zero]
      · next callback pauseSecondaryTasks secondaryCallbacks =>
          cases advances
          refine sound.ofFiring here ?_ rfl ?_
          · exact posts_one waiter.posted callback secondaryCallbacks number
          · cases pauseSecondaryTasks with
            | true =>
              simp only [List.flatMap_append, List.flatMap_singleton, Firing.toResume,
                VsyncTask.toResume, ← Multiset.coe_add, Multiset.coe_nil, add_zero]
              abel
            | false =>
              simp only [List.flatMap_append, List.flatMap_singleton, Firing.toResume,
                VsyncTask.toResume, List.append_nil]
      · next callback secondaryCallbacks =>
          cases advances
          refine sound.ofFiring here ?_ rfl ?_
          · exact posts_one waiter.posted callback secondaryCallbacks number
          · simp only [List.flatMap_append, List.flatMap_singleton, Firing.toResume,
              VsyncTask.toResume, List.append_nil]
      · cases advances

theorem Sound.runTask (sound : waiter.Sound) (runs : waiter.runTask = some next) : next.Sound := by
  obtain ⟨requested, accounted, resumes, once, numbered⟩ := sound
  unfold VsyncWaiter.runTask at runs
  split at runs
  · next task uiTasks idle queued =>
      rw [toResume, idle, queued, List.flatMap_cons] at resumes
      split at runs
      · next callback number =>
          cases runs
          refine ⟨requested, accounted, ?_, once, numbered⟩
          rw [resumes, toResume]
          simp only [VsyncTask.toResume, Option.toList_none, Option.toList_some, List.append_nil,
            ← Multiset.coe_add]
          abel
      · cases runs
        refine ⟨requested, accounted, ?_, once, numbered⟩
        rw [resumes, toResume, idle]
        rfl
      · cases runs
        refine ⟨requested, accounted, ?_, once, numbered⟩
        rw [resumes, toResume, idle]
        rfl
  · cases runs

theorem Sound.resume (sound : waiter.Sound) (resumed : waiter.resume = some next) : next.Sound := by
  obtain ⟨number, running, rfl⟩ := Option.map_eq_some_iff.mp resumed
  obtain ⟨requested, accounted, resumes, once, numbered⟩ := sound
  refine ⟨requested, accounted, ?_, once, numbered⟩
  rw [resumes, toResume, toResume, running]
  simp only [Option.toList_none, Option.toList_some, List.append_nil, ← Multiset.coe_add]
  abel

/-! ## Runs -/

theorem sound_initial : ({} : VsyncWaiter κ).Sound where
  requested := rfl
  accounted := rfl
  resumes := rfl
  once := Multiset.nodup_zero
  numbered _ none := absurd none (Multiset.notMem_zero _)

theorem Sound.step {op : Op κ} (sound : waiter.Sound) (fires : waiter.PlatformFires op)
    (transition : waiter.step op = some next) : next.Sound := by
  cases op with
  | asyncWaitForVsync callback =>
    exact Option.some_inj.mp transition ▸ sound.asyncWaitForVsync callback
  | scheduleSecondaryCallback id callback =>
    exact Option.some_inj.mp transition ▸ sound.scheduleSecondaryCallback id callback
  | awaitVSync => exact sound.awaitVSync transition
  | fireCallback pauseSecondaryTasks order =>
    exact Option.some_inj.mp transition ▸
      sound.fireCallback pauseSecondaryTasks fires.1 fires.2
  | advance index => exact sound.advance transition
  | runTask => exact sound.runTask transition
  | resume => exact sound.resume transition

theorem reachable_sound (reached : (machine κ).Reachable PlatformFires waiter) : waiter.Sound :=
  reached.invariant _ (fun _ created => created ▸ sound_initial) fun sound fires transition =>
    sound.step fires transition

/-- In every run, the platform has been or is about to be asked for one vsync exactly while a
callback is registered; every accepted callback is still registered, or with the first firing
after its registration, or has been posted once by this firing; and every firing that pauses
the secondary tasks does so once, and has resumed them once or will at the end of its task. -/
theorem reachable_posts_and_resumes (reached : (machine κ).Reachable PlatformFires waiter) :
    (waiter.awaiting + waiter.requests ≤ 1 ∧
        (waiter.awaiting + waiter.requests = 1 ↔ waiter.registered ≠ [])) ∧
      waiter.accepted.Perm (waiter.posted ++ waiter.inFlight ++
        waiter.registered.map fun callback => (callback, waiter.fires)) ∧
      waiter.paused.Nodup ∧ waiter.paused.Perm (waiter.resumed ++ waiter.toResume) := by
  have sound := reachable_sound reached
  refine ⟨⟨?_, ?_⟩, ?_, ?_, ?_⟩
  · rw [sound.requested]
    split
    · exact Nat.zero_le 1
    · exact le_rfl
  · rw [sound.requested]
    split
    · next none => exact ⟨fun one => absurd one Nat.zero_ne_one, fun some => absurd none some⟩
    · next some => exact ⟨fun _ => some, fun _ => rfl⟩
  · rw [← Multiset.coe_eq_coe, ← Multiset.coe_add, ← Multiset.coe_add]
    exact sound.accounted
  · exact Multiset.coe_nodup.mp (Multiset.nodup_add.mp sound.once).1
  · rw [← Multiset.coe_eq_coe, ← Multiset.coe_add]
    exact sound.resumes

/-- A secondary callback, then a primary one, until the posted tasks have run. -/
def frame : List (Op Nat) :=
  [.scheduleSecondaryCallback 5 (some 2), .asyncWaitForVsync (some 1), .awaitVSync,
    .fireCallback true id, .advance 0, .advance 0, .advance 0, .runTask, .resume, .runTask]

theorem frame_posts_and_resumes : ∃ waiter : VsyncWaiter Nat,
    waiter.accepted = [(2, 0), (1, 0)] ∧ waiter.accepted.Perm waiter.posted ∧
      waiter.paused = [0] ∧ waiter.paused.Perm waiter.resumed := by
  have created : (machine Nat).Reachable PlatformFires {} := .initial rfl
  obtain ⟨waiter, reached, check⟩ := Machine.Reachable.exists_of_run created frame
    (fun waiter => waiter.accepted == [(2, 0), (1, 0)] && waiter.paused == [0] &&
      waiter.inFlight == [] && waiter.registered == [] && waiter.toResume == [])
    (by decide) (by decide)
  simp only [Bool.and_eq_true, beq_iff_eq] at check
  obtain ⟨⟨⟨⟨accepted, paused⟩, inFlight⟩, registered⟩, toResume⟩ := check
  obtain ⟨-, posts, -, resumes⟩ := reachable_posts_and_resumes reached
  rw [inFlight, registered, List.map_nil, List.append_nil, List.append_nil] at posts
  rw [toResume, List.append_nil] at resumes
  exact ⟨waiter, accepted, posts, paused, resumes⟩

end VsyncWaiter

end FlutterEngine.Shell
