import FlutterEngine.Flow.LayerReplay

/-!
# Entries in scopes

What holds of a stack in open scopes, and of another stack beside it that got the same entries
without backdrop filters: in every scope a transform or a clip has a save below it, and each
delegate has received the calls of the entries that are there, and of no other entries.
-/

namespace FlutterEngine.Flow

open FlutterEngine.Std DisplayList

variable {p : Payloads} {kit : LayerToolkit p}

variable [SkScalar p.Scalar]

/-! ## What holds of a stack -/

/-- Every entry is recorded and contained in each of the scopes, whose restore counts these are. -/
structure Scoped (counts : List Nat) (stack : LayerStateStack kit) : Prop where
  outstanding : stack.outstanding = attributesAfter stack.stateStack
  recorded : Recorded stack.stateStack
  nested : counts.Pairwise (· ≥ ·)
  within : ∀ count ∈ counts, count ≤ stack.stateStack.length
  contained : ∀ count ∈ counts,
    Contained (stack.stateStack.take (stack.stateStack.length - count))
  outermost : 0 ∈ counts ∨ (counts = [] ∧ stack.stateStack = [])

/-- Some entry above this count opens a save. -/
def LayerStateStack.OpensAbove (stack : LayerStateStack kit) (count : Nat) : Prop :=
  ∃ entry ∈ stack.stateStack.take (stack.stateStack.length - count), entry.opens = true

variable {canvases : Nat → DlCanvas kit} {installed new : NewDelegate kit} {counts : List Nat}
  {count : Nat} {stack other : LayerStateStack kit} {entry : StateEntry kit}

namespace Scoped

theorem contained_all (inv : Scoped counts stack) : Contained stack.stateStack := by
  rcases inv.outermost with outermost | ⟨-, empty⟩
  · have contained := inv.contained 0 outermost
    rwa [Nat.sub_zero, List.take_length] at contained
  · rw [empty]
    trivial

omit [SkScalar p.Scalar] in
theorem take_cons (inside : count ≤ stack.stateStack.length) :
    (entry :: stack.stateStack).take (stack.stateStack.length + 1 - count) =
      entry :: stack.stateStack.take (stack.stateStack.length - count) := by
  rw [Nat.succ_sub inside, List.take_succ_cons]

theorem push (inv : Scoped counts stack) (some_scope : counts ≠ [])
    (recorded : entry.RecordedOver stack.outstanding)
    (contained : entry.acts = true → ∀ count ∈ counts, stack.OpensAbove count) :
    Scoped counts (stack.push entry) := by
  have pushed : (stack.push entry).stateStack = entry :: stack.stateStack :=
    StateEntry.apply_stateStack entry
  refine ⟨?_, ?_, inv.nested, ?_, ?_, ?_⟩
  · rw [pushed]
    refine (StateEntry.apply_outstanding entry).trans ?_
    change entry.attributes stack.outstanding = _
    rw [inv.outstanding]
    rfl
  · rw [pushed]
    exact ⟨inv.outstanding ▸ recorded, inv.recorded⟩
  · rw [pushed]
    exact fun count member => Nat.le_succ_of_le (inv.within count member)
  · rw [pushed]
    intro count member
    rw [List.length_cons, take_cons (inv.within count member)]
    exact ⟨fun acts => contained acts count member, inv.contained count member⟩
  · exact .inl (inv.outermost.resolve_right fun empty => some_scope empty.1)

/-- A scope is opened over all the entries. -/
theorem openScope (inv : Scoped counts stack) :
    Scoped (stack.stateStack.length :: counts) stack where
  outstanding := inv.outstanding
  recorded := inv.recorded
  nested := List.pairwise_cons.mpr ⟨inv.within, inv.nested⟩
  within := List.forall_mem_cons.mpr ⟨Nat.le_refl _, inv.within⟩
  contained := by
    refine List.forall_mem_cons.mpr ⟨?_, inv.contained⟩
    rw [Nat.sub_self, List.take_zero]
    trivial
  outermost := by
    rcases inv.outermost with outermost | ⟨-, empty⟩
    · exact .inl (List.mem_cons_of_mem _ outermost)
    · rw [empty]
      exact .inl List.mem_cons_self

/-- What is left when a scope ends. -/
theorem restoreToCount (inv : Scoped (count :: counts) stack) :
    (stack.restoreToCount count).stateStack =
      stack.stateStack.drop (stack.stateStack.length - count) ∧
    (stack.restoreToCount count).outstanding =
      attributesAfter (stack.stateStack.drop (stack.stateStack.length - count)) ∧
    (stack.restoreToCount count).SameDelegates (LayerStateStack.sendRestore^[
      (stack.stateStack.take (stack.stateStack.length - count)).countP StateEntry.opens]
      stack) := by
  have popped : (stack.stateStack.take (stack.stateStack.length - count)).length =
      stack.stateStack.length - count := List.length_take_of_le (Nat.sub_le _ _)
  have split := List.take_append_drop (stack.stateStack.length - count) stack.stateStack
  have restored :=
    LayerStateStack.restoreLast_iterate split.symm inv.outstanding inv.recorded
  rw [popped] at restored
  exact restored

/-- The scope that was opened last ends. -/
theorem close (inv : Scoped (count :: counts) stack) :
    Scoped counts (stack.restoreToCount count) := by
  obtain ⟨left, outstanding, -⟩ := inv.restoreToCount
  have inside := inv.within count List.mem_cons_self
  obtain ⟨outer, nested⟩ := List.pairwise_cons.mp inv.nested
  have length : (stack.stateStack.drop (stack.stateStack.length - count)).length = count := by
    rw [List.length_drop]
    omega
  refine ⟨by rw [left, outstanding], ?_, nested, ?_, ?_, ?_⟩
  · have recorded := inv.recorded
    rw [← List.take_append_drop (stack.stateStack.length - count) stack.stateStack] at recorded
    rw [left]
    exact recorded.of_append
  · rw [left, length]
    exact outer
  · rw [left, length]
    intro other member
    have contained := inv.contained other (List.mem_cons_of_mem _ member)
    have below := outer other member
    have split : stack.stateStack.length - other =
        (stack.stateStack.length - count) + (count - other) := by
      omega
    rw [split, List.take_add] at contained
    exact contained.of_append
  · rcases inv.outermost with outermost | ⟨empty, -⟩
    · cases counts with
      | nil =>
        obtain rfl : 0 = count := List.mem_singleton.mp outermost
        refine .inr ⟨rfl, ?_⟩
        rw [left, Nat.sub_zero, List.drop_length]
      | cons next rest =>
        rcases List.mem_cons.mp outermost with rfl | outermost
        · have lowest := outer next List.mem_cons_self
          obtain rfl : next = 0 := Nat.le_zero.mp lowest
          exact .inl List.mem_cons_self
        · exact .inl outermost
    · cases empty

end Scoped

theorem Received.push {calls : List (DelegateCall kit)}
    (received : Received canvases installed calls stack) (entry : StateEntry kit) :
    Received canvases installed (calls ++ (entry.call? stack.outstanding).toList)
      (stack.push entry) := by
  have top : Received canvases installed calls
      { stack with stateStack := entry :: stack.stateStack } := received.congr ⟨rfl, rfl⟩
  refine (top.sends (entry.call? stack.outstanding)).congr ?_
  unfold LayerStateStack.push
  rw [StateEntry.apply_eq]
  exact ⟨rfl, rfl⟩

/-- What delegates have received: one that was installed on the way, and one that was installed at
the start of the other run. -/
structure Paired (canvases : Nat → DlCanvas kit) (installed new : NewDelegate kit)
    (counts : List Nat) (stack other : LayerStateStack kit) : Prop where
  inScope : Scoped counts stack
  received : ∃ calls, Matches stack.stateStack calls ∧ Received canvases installed calls stack
  stateStack : other.stateStack = stack.stateStack.map StateEntry.plain
  outstanding : other.outstanding = stack.outstanding
  fromStart : Received canvases new (replay stack.stateStack) other

namespace Paired

section

variable (inv : Paired canvases installed new counts stack other)

include inv

/-- The other stack is in the same scopes. -/
theorem otherScoped :
    Scoped counts other := by
  have inScope := inv.inScope
  refine ⟨?_, ?_, inScope.nested, ?_, ?_, ?_⟩
  · rw [inv.stateStack, attributesAfter_map_plain, inv.outstanding, inScope.outstanding]
  · rw [inv.stateStack]
    exact recorded_map_plain inScope.recorded
  · rw [inv.stateStack, List.length_map]
    exact inScope.within
  · intro count member
    rw [inv.stateStack, List.length_map, ← List.map_take]
    exact contained_map_plain (inScope.contained count member)
  · rw [inv.stateStack, List.map_eq_nil_iff]
    exact inScope.outermost

theorem push (some_scope : counts ≠ []) (recorded : entry.RecordedOver stack.outstanding)
    (contained : entry.acts = true → ∀ count ∈ counts, stack.OpensAbove count) :
    Paired canvases installed new counts (stack.push entry) (other.push entry.plain) := by
  have pushed : (stack.push entry).stateStack = entry :: stack.stateStack :=
    StateEntry.apply_stateStack entry
  have pushedOther : (other.push entry.plain).stateStack = entry.plain :: other.stateStack :=
    StateEntry.apply_stateStack entry.plain
  obtain ⟨calls, sent, received⟩ := inv.received
  have outstanding := inv.inScope.outstanding
  refine ⟨inv.inScope.push some_scope recorded contained, ?_, ?_, ?_, ?_⟩
  · rw [pushed]
    refine ⟨_, .applied entry sent, ?_⟩
    rw [← outstanding]
    exact received.push entry
  · rw [pushed, pushedOther, inv.stateStack]
    rfl
  · refine (StateEntry.apply_outstanding entry.plain).trans ?_
    refine Eq.trans ?_ (StateEntry.apply_outstanding entry).symm
    rw [StateEntry.attributes_plain]
    change entry.attributes other.outstanding = entry.attributes stack.outstanding
    rw [inv.outstanding]
  · rw [pushed]
    change Received canvases new (_ ++ (entry.plain.call? (attributesAfter _)).toList) _
    rw [← outstanding, ← inv.outstanding]
    exact inv.fromStart.push entry.plain

theorem openScope :
    Paired canvases installed new (stack.stateStack.length :: counts) stack other :=
  ⟨inv.inScope.openScope, inv.received, inv.stateStack, inv.outstanding, inv.fromStart⟩

end

theorem close (inv : Paired canvases installed new (count :: counts) stack other) :
    Paired canvases installed new counts (stack.restoreToCount count)
      (other.restoreToCount count) := by
  obtain ⟨left, outstanding, same⟩ := inv.inScope.restoreToCount
  obtain ⟨leftOther, outstandingOther, sameOther⟩ := inv.otherScoped.restoreToCount
  rw [inv.stateStack, List.length_map, ← List.map_drop, attributesAfter_map_plain]
    at outstandingOther
  rw [inv.stateStack, List.length_map, ← List.map_drop] at leftOther
  rw [inv.stateStack, List.length_map, ← List.map_take] at sameOther
  have contained := inv.inScope.contained count List.mem_cons_self
  refine ⟨inv.inScope.close, ?_, ?_, ?_, ?_⟩
  · obtain ⟨calls, sent, received⟩ := inv.received
    rw [← List.take_append_drop (stack.stateStack.length - count) stack.stateStack] at sent
    obtain ⟨first, last, rfl, kept, counted, guarded⟩ := sent.append
    rw [left]
    refine ⟨first, kept, ?_⟩
    rw [← counted] at same
    exact (received.restores (guarded contained)).congr same
  · rw [left, leftOther]
  · rw [outstanding, outstandingOther]
  · have sent : Matches ((stack.stateStack.take (stack.stateStack.length - count) ++
        stack.stateStack.drop (stack.stateStack.length - count)).map StateEntry.plain)
        (replay stack.stateStack) := by
      rw [List.take_append_drop, ← replay_map_plain]
      exact matches_replay _
    rw [List.map_append] at sent
    obtain ⟨first, last, same_calls, kept, counted, guarded⟩ := sent.append
    have fromStart := inv.fromStart
    rw [same_calls] at fromStart
    rw [← counted] at sameOther
    rw [left, ← kept.eq_replay]
    exact (fromStart.restores (guarded (contained_map_plain contained))).congr sameOther

/-! ### Swaps -/

theorem clearDelegate (inv : Paired canvases installed new counts stack other) :
    Received canvases .dummy [] stack.clearDelegate := by
  obtain ⟨calls, sent, received⟩ := inv.received
  exact received.clearDelegate (sent.guarded inv.inScope.contained_all)

omit [SkScalar p.Scalar] in
theorem clearDelegate_entries (stack : LayerStateStack kit) :
    stack.clearDelegate.stateStack = stack.stateStack ∧
    stack.clearDelegate.outstanding = stack.outstanding := by
  unfold LayerStateStack.clearDelegate LayerStateStack.decommission
  cases stack.delegate <;> exact ⟨rfl, rfl⟩

section

variable (inv : Paired canvases installed new counts stack other)

include inv

/-- Another delegate has received calls of the same entries. -/
theorem swap {swapped : LayerStateStack kit} {next : NewDelegate kit}
    (stateStack : swapped.stateStack = stack.stateStack)
    (outstanding : swapped.outstanding = stack.outstanding)
    (received : ∃ calls, Matches stack.stateStack calls ∧ Received canvases next calls swapped) :
    Paired canvases next new counts swapped other := by
  have inScope := inv.inScope
  refine ⟨⟨?_, ?_, inScope.nested, ?_, ?_, ?_⟩, ?_, ?_, ?_, ?_⟩
  · rw [outstanding, stateStack, inScope.outstanding]
  · rw [stateStack]
    exact inScope.recorded
  · rw [stateStack]
    exact inScope.within
  · rw [stateStack]
    exact inScope.contained
  · rw [stateStack]
    exact inScope.outermost
  · rw [stateStack]
    exact received
  · rw [stateStack, inv.stateStack]
  · rw [outstanding, inv.outstanding]
  · rw [stateStack]
    exact inv.fromStart

theorem cleared :
    Paired canvases .dummy new counts stack.clearDelegate other := by
  obtain ⟨stateStack, outstanding⟩ := clearDelegate_entries stack
  obtain ⟨calls, sent, -⟩ := inv.received
  exact inv.swap stateStack outstanding ⟨calls, sent, inv.clearDelegate⟩

/-- A fresh delegate gets the replay, and leaves the attributes as they are. -/
theorem reapplied {fresh : LayerStateStack kit} {next : NewDelegate kit}
    (stateStack : fresh.stateStack = stack.stateStack)
    (received : Received canvases next [] fresh) :
    Paired canvases next new counts fresh.reapplyAll other ∧
    Received canvases next (replay stack.stateStack) fresh.reapplyAll := by
  obtain ⟨same, outstanding, replayed⟩ := LayerStateStack.reapplyAll_spec received
  rw [stateStack] at same outstanding replayed
  refine ⟨inv.swap same ?_ ⟨_, matches_replay _, replayed⟩, replayed⟩
  rw [outstanding, inv.inScope.outstanding]

theorem setDelegate {address : Nat} (fresh : stack.delegate.canvas? ≠ some address) :
    Paired canvases (.canvas address) new counts (stack.setDelegate (some address)) other ∧
    Received canvases (.canvas address) (replay stack.stateStack)
      (stack.setDelegate (some address)) := by
  have cleared := inv.clearDelegate
  unfold LayerStateStack.setDelegate
  rw [if_neg (Ne.symm fresh)]
  refine inv.reapplied (clearDelegate_entries stack).1 ⟨?_, ?_⟩
  · change Delegate.canvas address
      (DlCanvas.getSaveCount (stack.clearDelegate.canvases address)) = _
    rw [cleared.2]
  · change stack.clearDelegate.canvases = _
    rw [cleared.2]
    exact (Function.update_eq_self address canvases).symm

theorem setPrerollDelegate (cullRect : SkRect p.Scalar) (matrix : kit.SkMatrix) :
    Paired canvases (.preroll cullRect matrix) new counts
      (stack.setPrerollDelegate cullRect matrix) other ∧
    Received canvases (.preroll cullRect matrix) (replay stack.stateStack)
      (stack.setPrerollDelegate cullRect matrix) :=
  inv.reapplied (clearDelegate_entries stack).1 ⟨rfl, inv.clearDelegate.2⟩

/-- Whatever `set_delegate` is given. -/
theorem setDelegate_any (canvas : Option Nat) :
    ∃ next, Paired canvases next new counts (stack.setDelegate canvas) other := by
  by_cases same : canvas = stack.delegate.canvas?
  · refine ⟨installed, ?_⟩
    unfold LayerStateStack.setDelegate
    rwa [if_pos same]
  · cases canvas with
    | none =>
      refine ⟨.dummy, ?_⟩
      unfold LayerStateStack.setDelegate
      rw [if_neg same]
      exact inv.cleared
    | some address => exact ⟨_, (inv.setDelegate (Ne.symm same)).1⟩

end

/-! ### Calls of contexts -/

omit [SkScalar p.Scalar] in
theorem opensAbove_cons {entries : List (StateEntry kit)}
    (shape : stack.stateStack = entry :: entries) (opens : entry.opens = true)
    (inside : count ≤ entries.length) : stack.OpensAbove count := by
  refine ⟨entry, ?_, opens⟩
  rw [shape, List.length_cons, Nat.succ_sub inside, List.take_succ_cons]
  exact List.mem_cons_self

section

variable (inv : Paired canvases installed new counts stack other)

include inv

/-- An entry that opens a save is pushed. -/
theorem push_opening
    (entry : StateEntry kit) (some_scope : counts ≠ []) (opens : entry.opens = true)
    (recorded : entry.RecordedOver stack.outstanding) :
    Paired canvases installed new counts (stack.push entry) (other.push entry.plain) ∧
    ∀ count ∈ counts, (stack.push entry).OpensAbove count := by
  refine ⟨inv.push some_scope recorded fun acts => ?_, fun count member => ?_⟩
  · rw [StateEntry.acts_of_opens opens] at acts
    cases acts
  · exact opensAbove_cons (StateEntry.apply_stateStack entry) opens
      (inv.inScope.within count member)

theorem saveLayer (some_scope : counts ≠ []) (bounds : SkRect p.Scalar) :
    Paired canvases installed new counts (stack.saveLayer bounds) (other.saveLayer bounds) ∧
    ∀ count ∈ counts, (stack.saveLayer bounds).OpensAbove count := by
  have same : other.saveLayer bounds =
      other.push (StateEntry.saveLayer bounds .srcOver stack.outstanding).plain := by
    rw [← inv.outstanding]
    rfl
  rw [same]
  exact inv.push_opening _ some_scope rfl rfl

/-- Where an image filter is outstanding a layer is saved for the next attribute. -/
theorem maybeSaveLayer (some_scope : counts ≠ []) :
    Paired canvases installed new counts stack.maybeSaveLayer other.maybeSaveLayer := by
  unfold LayerStateStack.maybeSaveLayer
  rw [inv.outstanding]
  split
  · exact (inv.saveLayer some_scope _).1
  · exact inv

end

/-- A transform or a clip is pushed, where a save is made for it or lies above the innermost
restore count. -/
theorem pushGuarded {innermost : Nat} {outer : List Nat}
    (inv : Paired canvases installed new (innermost :: outer) stack other)
    (context : MutatorContext) (plain : entry.plain = entry)
    (recorded : ∀ outstanding, entry.RecordedOver outstanding)
    (guarded : context.saveNeeded = true ∨ stack.outstanding.imageFilter.isSome = true ∨
      stack.OpensAbove innermost) :
    Paired canvases installed new (innermost :: outer) (context.pushGuarded stack entry).2
      (context.pushGuarded other entry).2 := by
  have some_scope : innermost :: outer ≠ [] := List.cons_ne_nil _ _
  have pushed : ∀ {saved savedOther : LayerStateStack kit},
      Paired canvases installed new (innermost :: outer) saved savedOther →
      (∀ count ∈ innermost :: outer, saved.OpensAbove count) →
      Paired canvases installed new (innermost :: outer) (saved.push entry)
        (savedOther.push entry) := by
    intro saved savedOther inv opened
    have both := inv.push some_scope (recorded saved.outstanding) fun _ => opened
    rwa [plain] at both
  change Paired _ _ _ _ ((stack.maybeSaveLayerFor _).push entry)
    ((other.maybeSaveLayerFor _).push entry)
  unfold LayerStateStack.maybeSaveLayerFor
  rw [inv.outstanding]
  by_cases filtered : stack.outstanding.imageFilter.isSome = true
  · rw [if_pos filtered, if_pos filtered]
    obtain ⟨saved, opened⟩ := inv.saveLayer some_scope stack.outstanding.saveLayerBounds
    exact pushed saved opened
  · rw [if_neg filtered, if_neg filtered]
    by_cases needed : context.saveNeeded = true
    · rw [if_pos needed, if_pos needed]
      have saved := inv.push_opening .save some_scope rfl trivial
      exact pushed saved.1 saved.2
    · rw [if_neg needed, if_neg needed]
      refine pushed inv fun count member => ?_
      obtain ⟨opening, above, opens⟩ := (guarded.resolve_left needed).resolve_left filtered
      refine ⟨opening, ?_, opens⟩
      have lower : count ≤ innermost := by
        rcases List.mem_cons.mp member with rfl | member
        · exact Nat.le_refl _
        · exact (List.pairwise_cons.mp inv.inScope.nested).1 count member
      exact (List.take_subset_take_left _ (Nat.sub_le_sub_left lower _)) above

end Paired

end FlutterEngine.Flow
