import FlutterEngine.DisplayList.Geometry.RectSweep

/-!
# What a round of the sweep keeps

Above `cur_y` the lines cover what the rectangles do; from there on the active rectangles and the
pending ones are all that is to be covered.
-/

namespace FlutterEngine.DisplayList.Geometry

open FlutterEngine.Std

/-- The points of rectangles that are not empty. -/
def RectsCover (rects : List SkIRect) (x y : Int32) : Prop :=
  ∃ rect ∈ rects, ¬rect.IsEmpty ∧ rect.Covers x y

variable {x y : Int32} {rects others : List SkIRect}

@[simp]
theorem rectsCover_nil : ¬RectsCover [] x y := by
  rintro ⟨rect, found, -⟩
  contradiction

@[simp]
theorem rectsCover_cons {rect : SkIRect} {rest : List SkIRect} :
    RectsCover (rect :: rest) x y ↔ ¬rect.IsEmpty ∧ rect.Covers x y ∨ RectsCover rest x y := by
  simp only [RectsCover, List.mem_cons, or_and_right, exists_or, exists_eq_left]

@[simp]
theorem rectsCover_append :
    RectsCover (rects ++ others) x y ↔ RectsCover rects x y ∨ RectsCover others x y := by
  simp only [RectsCover, List.mem_append, or_and_right, exists_or]

theorem RectsCover.perm (perm : rects.Perm others) :
    RectsCover rects x y ↔ RectsCover others x y := by
  simp only [RectsCover, perm.mem_iff]

namespace Sweep

variable {sweep : Sweep}

def active (sweep : Sweep) : List SkIRect := sweep.rects.take sweep.activeEnd

def pending (sweep : Sweep) : List SkIRect := sweep.rects.drop sweep.nextRect

/-- The active list ends before the input that is still to come. -/
structure Sound (sweep : Sweep) : Prop where
  apart : sweep.activeEnd ≤ sweep.nextRect
  within : sweep.nextRect ≤ sweep.rects.length

theorem Sound.length_active (sound : sweep.Sound) : sweep.active.length = sweep.activeEnd := by
  rw [active, List.length_take, Nat.min_eq_left (sound.apart.trans sound.within)]

theorem Sound.active_eq_nil (sound : sweep.Sound) : sweep.active = [] ↔ sweep.activeEnd = 0 := by
  rw [← List.length_eq_zero_iff, sound.length_active]

theorem pending_eq_nil : sweep.pending = [] ↔ sweep.rects.length ≤ sweep.nextRect :=
  List.drop_eq_nil_iff

theorem pending_eq_cons (more : sweep.nextRect < sweep.rects.length) :
    sweep.pending = rectAt sweep.rects sweep.nextRect :: sweep.rects.drop (sweep.nextRect + 1) :=
  drop_eq_rectAt_cons more

/-! ## Pruning -/

/-- What `prune` does. -/
structure Pruned (sweep pruned : Sweep) : Prop where
  sound : pruned.Sound
  active : pruned.active = sweep.active.filter (sweep.curY < ·.bottom)
  pending : pruned.pending = sweep.pending
  curY : pruned.curY = sweep.curY
  lines : pruned.lines = sweep.lines

theorem Sound.prune (sound : sweep.Sound) : Pruned sweep sweep.prune := by
  have within : 0 + sweep.activeEnd ≤ sweep.rects.length := by
    rw [Nat.zero_add]
    exact sound.apart.trans sound.within
  obtain ⟨atMost, length, active, behind⟩ := @preserve_spec _ sweep.curY _ _ _ le_rfl within
  rw [Nat.zero_add] at atMost behind
  refine ⟨⟨atMost.trans sound.apart, ?_⟩, ?_, drop_eq_of_le behind sound.apart, rfl, rfl⟩
  · exact sound.within.trans_eq length.symm
  · rw [List.take_zero, List.nil_append, List.drop_zero] at active
    exact active

/-! ## Admitting -/

/-- What `admitReached` does: the rectangles that are reached become active. -/
structure Admitted (sweep admitted : Sweep) (taken : List SkIRect) : Prop where
  sound : admitted.Sound
  pending : sweep.pending = taken ++ admitted.pending
  active : admitted.active.Perm (taken ++ sweep.active)
  byLeft : ByLeft admitted.active
  reached : ∀ r ∈ taken, ¬r.IsEmpty ∧ r.top ≤ sweep.curY
  curY : admitted.curY = sweep.curY
  lines : admitted.lines = sweep.lines

theorem Sound.admitNext (sound : sweep.Sound) (byLeft : ByLeft sweep.active)
    (more : sweep.nextRect < sweep.rects.length) :
    sweep.admitNext.Sound ∧ ByLeft sweep.admitNext.active ∧
      sweep.pending = rectAt sweep.rects sweep.nextRect :: sweep.admitNext.pending ∧
        sweep.admitNext.active.Perm (rectAt sweep.rects sweep.nextRect :: sweep.active) := by
  obtain ⟨length, perm, sorted, behind⟩ := insert_spec (r := rectAt sweep.rects sweep.nextRect)
    (sound.apart.trans_lt more) byLeft
  refine ⟨⟨Nat.add_le_add_right sound.apart 1, more.trans_eq length.symm⟩, sorted, ?_, perm⟩
  rw [pending_eq_cons more]
  exact congrArg _ (drop_eq_of_le behind (Nat.add_le_add_right sound.apart 1)).symm

variable {fuel : Nat} {gathering : Gathering} {r : SkIRect}

theorem Sound.admitReached {admitted : Sweep} (sound : sweep.Sound)
    (byLeft : ByLeft sweep.active) (returns : sweep.admitReached fuel = some admitted) :
    (∃ taken, Admitted sweep admitted taken) ∧
      ∀ r ∈ admitted.pending.head?, admitted.curY < r.top := by
  induction fuel generalizing sweep with
  | zero => contradiction
  | succ fuel ih =>
    rw [Sweep.admitReached] at returns
    split at returns
    case isTrue more =>
      dsimp only at returns
      split at returns
      case isTrue empty => exact ih sound byLeft returns
      case isFalse filled =>
        split at returns
        case isTrue beyond =>
          cases returns
          refine ⟨⟨[], sound, rfl, List.Perm.refl _, byLeft, by simp, rfl, rfl⟩, ?_⟩
          intro r found
          rw [pending_eq_cons more, List.head?_cons, Option.mem_some_iff] at found
          rwa [← found]
        case isFalse reached =>
          obtain ⟨nextSound, nextByLeft, pending, active⟩ := sound.admitNext byLeft more
          obtain ⟨⟨taken, rest⟩, ahead⟩ := ih nextSound nextByLeft returns
          refine ⟨⟨rectAt sweep.rects sweep.nextRect :: taken, rest.sound, ?_, ?_, rest.byLeft, ?_,
            rest.curY, rest.lines⟩, ahead⟩
          · rw [pending, rest.pending, List.cons_append]
          · exact (rest.active.trans (active.append_left taken)).trans List.perm_middle
          · intro r found
            obtain rfl | later := List.mem_cons.mp found
            · exact ⟨filled, not_lt.mp reached⟩
            · exact rest.reached r later
    case isFalse done =>
      cases returns
      refine ⟨⟨[], sound, rfl, List.Perm.refl _, byLeft, by simp, rfl, rfl⟩, ?_⟩
      intro r found
      rw [pending_eq_nil.mpr (not_lt.mp done)] at found
      contradiction

/-- Without empty rectangles one round for each is enough. -/
theorem Sound.admit_returns (sound : sweep.Sound) (byLeft : ByLeft sweep.active)
    (filled : ∀ r ∈ sweep.pending, ¬r.IsEmpty) (enough : sweep.pending.length < fuel) :
    ∃ admitted, sweep.admitReached fuel = some admitted := by
  induction fuel generalizing sweep with
  | zero => contradiction
  | succ fuel ih =>
    rw [Sweep.admitReached]
    split
    case isTrue more =>
      obtain ⟨nextSound, nextByLeft, pending, -⟩ := sound.admitNext byLeft more
      rw [pending] at filled enough
      rw [if_neg (filled _ List.mem_cons_self)]
      split
      case isTrue => exact ⟨_, rfl⟩
      case isFalse =>
        refine ih nextSound nextByLeft (fun r found => filled r (List.mem_cons_of_mem _ found)) ?_
        exact Nat.lt_of_succ_lt_succ enough
    case isFalse => exact ⟨_, rfl⟩

/-! ## Gathering -/

theorem gatherNext_spans :
    (gatherNext gathering r).spans = accumulate gathering.spans ⟨r.left, r.right⟩ := by
  simp only [accumulate, Gathering.spans, List.getLast?_concat, List.dropLast_concat, gatherNext]
  by_cases apart : gathering.endX < r.left
  · by_cases shorter : r.bottom < gathering.endY <;> simp [apart, shorter]
  · by_cases longer : gathering.endX < r.right <;>
      by_cases shorter : r.bottom < gathering.endY <;> simp [apart, longer, shorter]

theorem gatherNext_endY :
    (gatherNext gathering r).endY = min gathering.endY r.bottom := by
  have endY : (gatherNext gathering r).endY =
      if r.bottom < gathering.endY then r.bottom else gathering.endY := by
    simp only [gatherNext]
    split <;> split <;> try rfl
    all_goals split <;> rfl
  rw [endY]
  split
  case isTrue shorter => rw [min_eq_right shorter.le]
  case isFalse longer => rw [min_eq_left (not_lt.mp longer)]

theorem foldl_gatherNext_spans {rects : List SkIRect} :
    (rects.foldl gatherNext gathering).spans =
      (rects.map fun r => (⟨r.left, r.right⟩ : Span)).foldl accumulate gathering.spans := by
  induction rects generalizing gathering with
  | nil => rfl
  | cons r rest ih => rw [List.foldl_cons, ih, gatherNext_spans, List.map_cons, List.foldl_cons]

theorem foldl_gatherNext_endY (gathering : Gathering) (rects : List SkIRect) :
    (rects.foldl gatherNext gathering).endY ≤ gathering.endY ∧
      (∀ r ∈ rects, (rects.foldl gatherNext gathering).endY ≤ r.bottom) ∧
        ((rects.foldl gatherNext gathering).endY = gathering.endY ∨
          ∃ r ∈ rects, (rects.foldl gatherNext gathering).endY = r.bottom) := by
  induction rects generalizing gathering with
  | nil => exact ⟨le_rfl, by simp, .inl rfl⟩
  | cons r rest ih =>
    obtain ⟨least, bottoms, attained⟩ := ih (gatherNext gathering r)
    rw [gatherNext_endY] at least attained
    rw [List.foldl_cons]
    refine ⟨least.trans (min_le_left _ _), ?_, ?_⟩
    · intro other found
      obtain rfl | later := List.mem_cons.mp found
      · exact least.trans (min_le_right _ _)
      · exact bottoms other later
    · obtain same | ⟨other, later, same⟩ := attained
      · obtain first | second := min_choice gathering.endY r.bottom
        · exact .inl (same.trans first)
        · exact .inr ⟨r, List.mem_cons_self, same.trans second⟩
      · exact .inr ⟨other, List.mem_cons_of_mem _ later, same⟩

/-- What `gather` makes of the active rectangles. -/
structure Gathers (rects : List SkIRect) (gathering : Gathering) : Prop where
  canonical : CanonicalSpans gathering.spans
  cover : ∀ x, SpansCover gathering.spans x ↔ ∃ r ∈ rects, r.left ≤ x ∧ x < r.right
  bottoms : ∀ r ∈ rects, gathering.endY ≤ r.bottom
  attained : ∃ r ∈ rects, gathering.endY = r.bottom

theorem foldl_gatherNext_gathers {first : SkIRect} {rest : List SkIRect}
    (byLeft : ByLeft (first :: rest)) (sorted : ∀ r ∈ first :: rest, r.Sorted) :
    Gathers (first :: rest)
      (rest.foldl gatherNext ⟨[], first.left, first.right, first.bottom⟩) := by
  obtain ⟨ahead, byLeft⟩ := List.pairwise_cons.mp byLeft
  have firstSorted := sorted first List.mem_cons_self
  have separate : Separate [⟨first.left, first.right⟩] := Band.canonical_singleton firstSorted.1
  have filled : ∀ span ∈ rest.map fun r => (⟨r.left, r.right⟩ : Span), span.left < span.right := by
    intro span found
    obtain ⟨r, member, rfl⟩ := List.mem_map.mp found
    exact (sorted r (List.mem_cons_of_mem _ member)).1
  obtain ⟨separate, cover⟩ := foldl_accumulate_spec separate filled (List.pairwise_map.mpr byLeft)
    fun span found other same => by
      obtain ⟨r, member, rfl⟩ := List.mem_map.mp found
      rw [List.mem_singleton.mp same]
      exact ahead r member
  obtain ⟨least, bottoms, attained⟩ :=
    foldl_gatherNext_endY ⟨[], first.left, first.right, first.bottom⟩ rest
  have covers : ∀ x, SpansCover (rest.foldl gatherNext
      ⟨[], first.left, first.right, first.bottom⟩).spans x ↔
        ∃ r ∈ first :: rest, r.left ≤ x ∧ x < r.right := by
    intro x
    rw [foldl_gatherNext_spans]
    simp only [Gathering.spans, List.nil_append]
    rw [cover]
    simp [SpansCover]
  refine ⟨⟨?_, ?_⟩, covers, ?_, ?_⟩
  · intro none
    have covered := (covers first.left).mpr ⟨first, List.mem_cons_self, le_rfl, firstSorted.1⟩
    rw [none] at covered
    exact spansCover_nil covered
  · rw [foldl_gatherNext_spans]
    exact separate
  · intro r found
    obtain rfl | later := List.mem_cons.mp found
    · exact least
    · exact bottoms r later
  · obtain same | ⟨r, later, same⟩ := attained
    · exact ⟨first, List.mem_cons_self, same⟩
    · exact ⟨r, List.mem_cons_of_mem _ later, same⟩

theorem gather_spec (some : sweep.active ≠ []) (byLeft : ByLeft sweep.active)
    (sorted : ∀ r ∈ sweep.active, r.Sorted) : Gathers sweep.active sweep.gather := by
  obtain ⟨first, rest, split⟩ := List.exists_cons_of_ne_nil some
  have front : rectAt sweep.rects 0 = first := by
    have heads := congrArg List.head? split
    rw [active, List.head?_take] at heads
    split at heads
    · contradiction
    · rw [rectAt, List.getD_eq_getElem?_getD, ← List.head?_eq_getElem?, heads, List.head?_cons,
        Option.getD_some]
  have gathered : sweep.gather =
      rest.foldl gatherNext ⟨[], first.left, first.right, first.bottom⟩ := by
    rw [gather, front]
    rw [active] at split
    rw [split, List.drop_one, List.tail_cons]
  rw [split] at byLeft sorted ⊢
  rw [gathered]
  exact foldl_gatherNext_gathers byLeft sorted

end Sweep

end FlutterEngine.DisplayList.Geometry
