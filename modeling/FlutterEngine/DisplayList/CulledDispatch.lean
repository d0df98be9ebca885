import FlutterEngine.DisplayList.Dispatch
import FlutterEngine.Std.Nesting

/-!
# Culled dispatch paints what the hits paint

A scope whose restore comes before the next hit paints nothing any more, so what it
misses is never seen; every other open scope has been dispatched in full.
-/

namespace FlutterEngine.DisplayList

open FlutterEngine.Std

variable {p : Payloads} {Rect : Type}

/-- The nesting of the saves. -/
def DLOp.bracket : DLOp p → Bracket
  | .save _ restoreIndex => .opens restoreIndex
  | .restore => .closes
  | _ => .plain

/-- Saves and restores are nested and each save names the op index of its restore. -/
def WellNested (ops : List (DLOp p)) : Prop := Bracket.Nested DLOp.bracket ops

instance (ops : List (DLOp p)) : Decidable (WellNested ops) :=
  inferInstanceAs (Decidable (Bracket.Nested DLOp.bracket ops))

/-- The call that a record makes when it is needed. -/
def DLOp.call : DLOp p → ReceiverCall p
  | .set op => .set op.call
  | .save op _ => op.call
  | .restore => .restore
  | .transformClip op => op.call
  | .draw op => .draw op.call

/-- The calls of all records from this op index on. -/
def calls (index : Nat) : List (DLOp p) → List (Nat × ReceiverCall p)
  | [] => []
  | op :: ops => (index, op.call) :: calls (index + 1) ops

/-! ## Dispatch without culling -/

/-- Where `NopCuller` dispatches with these saves open. -/
structure Unculled (opened : List OpenBracket) (ctx : DispatchContext p) : Prop where
  nextRenderIndex : ctx.nextRenderIndex = 0
  curIndex : ctx.curIndex = 0
  nextRestoreIndex : 0 ≤ ctx.nextRestoreIndex
  depth : ctx.saveInfos.length = opened.length
  needed : ∀ info ∈ ctx.saveInfos, info.saveWasNeeded = true ∧ 0 ≤ info.previousRestoreIndex

variable {index : Nat} {ctx : DispatchContext p}
variable {opened : List OpenBracket} {ops : List (DLOp p)} {hits cur : List Int} {next : Int}

/-- Every record makes its call. -/
theorem Unculled.dispatch {after : List OpenBracket} (unculled : Unculled opened ctx)
    {op : DLOp p} (steps : Bracket.nestStep index opened op.bracket = some after)
    (positive : ∀ bracket ∈ after, 0 ≤ bracket.closeIndex) :
    ∃ next, op.dispatch ctx index = some next ∧ Unculled after next ∧
      next.receiver = ctx.receiver ++ [(index, op.call)] := by
  obtain ⟨nextRenderIndex, curIndex, nextRestoreIndex, depth, needed⟩ := unculled
  cases op with
  | set op =>
    cases steps
    exact ⟨_, rfl, ⟨nextRenderIndex, curIndex, nextRestoreIndex, depth, needed⟩, rfl⟩
  | save op restoreIndex =>
    cases steps
    have nonneg : 0 ≤ restoreIndex := positive _ List.mem_cons_self
    refine ⟨_, rfl, ?_, ?_⟩
    · simp only [nextRenderIndex, nonneg, decide_true, DispatchContext.deliverIf, if_true,
        DispatchContext.deliver]
      refine ⟨rfl, curIndex, nonneg, ?_, fun info member => ?_⟩
      · exact congrArg (· + 1) depth
      · rcases List.mem_cons.mp member with rfl | member
        · exact ⟨rfl, nextRestoreIndex⟩
        · exact needed info member
    · simp [nextRenderIndex, nonneg, DispatchContext.deliverIf, DispatchContext.deliver,
        DLOp.call]
  | restore =>
    obtain ⟨bracket, rfl, -⟩ := Bracket.nestStep_closes steps
    cases infos : ctx.saveInfos with
    | nil => simp [infos] at depth
    | cons info saveInfos =>
      rw [infos] at depth needed
      obtain ⟨saveWasNeeded, previous⟩ := needed info List.mem_cons_self
      refine ⟨{ ctx.deliver index .restore with
        nextRestoreIndex := info.previousRestoreIndex
        saveInfos := saveInfos }, ?_, ?_, rfl⟩
      · simp [DLOp.dispatch, infos, saveWasNeeded, DispatchContext.deliverIf]
      · exact ⟨nextRenderIndex, curIndex, previous, Nat.succ.inj depth,
          fun info member => needed info (List.mem_cons_of_mem _ member)⟩
  | transformClip op =>
    cases steps
    have opNeeded : TransformClipOp.opNeeded ctx = true := by
      simp [TransformClipOp.opNeeded, nextRenderIndex, nextRestoreIndex]
    refine ⟨ctx.deliver index op.call, ?_, ?_, rfl⟩
    · simp [DLOp.dispatch, opNeeded, DispatchContext.deliverIf]
    · exact ⟨nextRenderIndex, curIndex, nextRestoreIndex, depth, needed⟩
  | draw op =>
    cases steps
    have opNeeded : DrawOp.opNeeded ctx = true := by
      simp [DrawOp.opNeeded, nextRenderIndex, curIndex]
    refine ⟨ctx.deliver index (.draw op.call), ?_, ?_, rfl⟩
    · simp [DLOp.dispatch, opNeeded, DispatchContext.deliverIf]
    · exact ⟨nextRenderIndex, curIndex, nextRestoreIndex, depth, needed⟩

theorem Unculled.dispatchOps (unculled : Unculled opened ctx)
    (nested : Bracket.nest DLOp.bracket index opened ops = some []) :
    (dispatchOps index ops ctx (Culler.nop : Culler Rect)).map DispatchContext.receiver =
      some (ctx.receiver ++ calls index ops) := by
  induction ops generalizing index opened ctx with
  | nil => simp [DisplayList.dispatchOps, calls]
  | cons op ops ih =>
    obtain ⟨after, steps, nested⟩ := Option.bind_eq_some_iff.mp nested
    have positive : ∀ bracket ∈ after, 0 ≤ bracket.closeIndex := fun bracket member =>
      (Int.natCast_nonneg _).trans ((Bracket.closed_of_nest DLOp.bracket nested).2 bracket member).1
    obtain ⟨next, dispatches, unculled, receiver⟩ := unculled.dispatch steps positive
    have rest := ih unculled nested
    rw [receiver, List.append_assoc] at rest
    simpa [DisplayList.dispatchOps, dispatches, Culler.update, calls] using rest

/-- Without culling every record makes its call. -/
theorem dispatch_nop (nested : WellNested ops) :
    dispatch ops (Culler.nop : Culler Rect) = some (calls 0 ops) := by
  have start : Unculled [] ({ nextRenderIndex := 0 } : DispatchContext p) :=
    ⟨rfl, rfl, by simp [intMax], rfl, fun _ member => absurd member List.not_mem_nil⟩
  exact start.dispatchOps nested

/-! ## The hits of a culler -/

/-- The next render index and what is left of the indices stand for these hits. -/
def Awaits (rtree : DlRTree Rect) (nextRenderIndex : Int) (cur : List Int) : List Int → Prop
  | [] => nextRenderIndex = intMax ∧ cur = []
  | hit :: hits => nextRenderIndex = hit ∧ cur.map rtree.id = hits

/-- The hits from this op index on. -/
def hitsFrom (index : Nat) (hits : List Int) : List Int :=
  hits.filter fun hit => decide ((index : Int) ≤ hit)

theorem hitsFrom_succ (increasing : hits.Pairwise (· < ·)) :
    hitsFrom (index + 1) hits =
      match hitsFrom index hits with
      | [] => []
      | hit :: rest => if hit = index then rest else hit :: rest := by
  have again : hitsFrom (index + 1) hits = hitsFrom (index + 1) (hitsFrom index hits) := by
    unfold hitsFrom
    rw [List.filter_filter]
    refine List.filter_congr fun hit _ => ?_
    simp only [Nat.cast_add, Nat.cast_one, ← Bool.decide_and, decide_eq_decide]
    omega
  have sorted : (hitsFrom index hits).Pairwise (· < ·) := increasing.filter _
  have from_index : ∀ hit ∈ hitsFrom index hits, (index : Int) ≤ hit := fun hit member =>
    of_decide_eq_true (List.mem_filter.mp member).2
  rw [again]
  cases later : hitsFrom index hits with
  | nil => rfl
  | cons hit rest =>
    rw [later] at sorted from_index
    have above := (List.pairwise_cons.mp sorted).1
    have head := from_index hit List.mem_cons_self
    have tail : hitsFrom (index + 1) rest = rest := by
      refine List.filter_eq_self.mpr fun later member => decide_eq_true ?_
      have after := above later member
      push_cast
      omega
    unfold hitsFrom at tail ⊢
    rw [List.filter_cons, tail]
    simp only [decide_eq_true_eq, Nat.cast_add, Nat.cast_one]
    by_cases now : hit = index
    · rw [if_neg (by omega), if_pos now]
    · rw [if_pos (by omega), if_neg now]

variable {rtree : DlRTree Rect}

theorem mem_hits_iff (increasing : hits.Pairwise (· < ·))
    (awaits : Awaits rtree next cur (hitsFrom index hits))
    (fits : (index : Int) < intMax) : (index : Int) ∈ hits ↔ next = index := by
  have mem_from : (index : Int) ∈ hits ↔ (index : Int) ∈ hitsFrom index hits := by
    simp [hitsFrom, List.mem_filter]
  have sorted : (hitsFrom index hits).Pairwise (· < ·) := increasing.filter _
  rw [mem_from]
  cases later : hitsFrom index hits with
  | nil =>
    rw [later] at awaits
    have next_eq := awaits.1
    simp only [List.not_mem_nil, false_iff]
    omega
  | cons hit rest =>
    rw [later] at awaits sorted
    have above := (List.pairwise_cons.mp sorted).1
    have from_index : (index : Int) ≤ hit := by
      have member : hit ∈ hitsFrom index hits := later ▸ List.mem_cons_self
      exact of_decide_eq_true (List.mem_filter.mp member).2
    rw [awaits.1, List.mem_cons]
    constructor
    · rintro (same | member)
      · exact same.symm
      · have := above _ member
        omega
    · exact fun same => .inl same.symm

/-- The next render index is not behind. -/
theorem Awaits.le
    (awaits : Awaits rtree next cur (hitsFrom index hits)) (fits : (index : Int) ≤ intMax)
    (bounded : ∀ hit ∈ hits, hit ≤ intMax) : (index : Int) ≤ next ∧ next ≤ intMax := by
  cases later : hitsFrom index hits with
  | nil =>
    rw [later] at awaits
    exact ⟨awaits.1 ▸ fits, awaits.1.le⟩
  | cons hit rest =>
    have member : hit ∈ hitsFrom index hits := later ▸ List.mem_cons_self
    rw [later] at awaits
    rw [awaits.1]
    exact ⟨of_decide_eq_true (List.mem_filter.mp member).2,
      bounded hit (List.mem_filter.mp member).1⟩

/-- `update` moves on to the hits after this op index. -/
theorem Awaits.update (increasing : hits.Pairwise (· < ·))
    (awaits : Awaits rtree ctx.nextRenderIndex cur (hitsFrom index hits))
    (curIndex : ctx.curIndex = index) (fits : (index : Int) < intMax) :
    ∃ next rest, (Culler.vector rtree cur).update ctx =
        ({ ctx with curIndex := index + 1, nextRenderIndex := next }, .vector rtree rest) ∧
      Awaits rtree next rest (hitsFrom (index + 1) hits) ∧ ctx.nextRenderIndex ≤ next := by
  rw [hitsFrom_succ increasing]
  have sorted : (hitsFrom index hits).Pairwise (· < ·) := increasing.filter _
  simp only [Culler.update, curIndex]
  cases later : hitsFrom index hits with
  | nil =>
    rw [later] at awaits
    rw [if_neg (by have := awaits.1; omega)]
    exact ⟨_, _, rfl, awaits, le_refl _⟩
  | cons hit later_hits =>
    have from_index : (index : Int) ≤ hit := by
      have member : hit ∈ hitsFrom index hits := later ▸ List.mem_cons_self
      exact of_decide_eq_true (List.mem_filter.mp member).2
    rw [later] at awaits sorted
    obtain ⟨next_eq, cur_eq⟩ := awaits
    by_cases now : hit = index
    · rw [if_pos (by omega)]
      simp only [now, if_true]
      cases cur with
      | nil =>
        cases cur_eq
        exact ⟨intMax, [], rfl, ⟨rfl, rfl⟩, by omega⟩
      | cons first cur =>
        cases cur_eq
        have after : hit < rtree.id first := (List.pairwise_cons.mp sorted).1 _ List.mem_cons_self
        refine ⟨rtree.id first, cur, ?_, ⟨rfl, rfl⟩, by omega⟩
        rw [Culler.advance, if_pos (by omega)]
    · rw [if_neg (by omega)]
      simp only [now, if_false]
      exact ⟨_, _, rfl, ⟨next_eq, cur_eq⟩, le_refl _⟩

end FlutterEngine.DisplayList
