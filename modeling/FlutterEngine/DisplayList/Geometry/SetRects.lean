import FlutterEngine.DisplayList.Geometry.SweepInvariant

/-!
# Regions of rectangles

What `DlRegion::setRects` builds, and when it builds anything: the loop that admits rectangles
stays at one that is empty.
-/

namespace FlutterEngine.DisplayList.Geometry

open FlutterEngine.Std

namespace Sweep

variable {covered : Int32 → Int32 → Prop} {sweep next : Sweep}

/-- Where the sweep stands: `covered` are the points of all rectangles. -/
structure Stands (covered : Int32 → Int32 → Prop) (sweep : Sweep) : Prop where
  sound : sweep.Sound
  canonical : CanonicalLines sweep.lines
  ends : LinesEndBy sweep.lines sweep.curY
  reached : ∀ r ∈ sweep.active, ¬r.IsEmpty ∧ r.top ≤ sweep.curY
  byLeft : ByLeft sweep.active
  byTop : sweep.pending.Pairwise fun a b => a.top ≤ b.top
  ahead : ∀ r ∈ sweep.pending, sweep.curY ≤ r.top
  cover : ∀ x y, covered x y ↔
    LinesCover sweep.lines x y ∨ sweep.curY ≤ y ∧ RectsCover (sweep.active ++ sweep.pending) x y

/-- Where the sweep stands once passed rectangles are pruned. -/
structure Pending (covered : Int32 → Int32 → Prop) (sweep : Sweep) : Prop
    extends Stands covered sweep where
  lasts : ∀ r ∈ sweep.active, sweep.curY < r.bottom

/-- Rectangles that are passed cover nothing from here on. -/
theorem rectsCover_filter {rects : List SkIRect} {curY x y : Int32} (after : curY ≤ y) :
    RectsCover (rects.filter (curY < ·.bottom)) x y ↔ RectsCover rects x y := by
  constructor
  · rintro ⟨r, found, covers⟩
    exact ⟨r, List.mem_of_mem_filter found, covers⟩
  · rintro ⟨r, found, filled, covers⟩
    refine ⟨r, List.mem_filter.mpr ⟨found, ?_⟩, filled, covers⟩
    exact decide_eq_true (after.trans_lt covers.2.2)

theorem Stands.prune (stands : Stands covered sweep) : Pending covered sweep.prune := by
  obtain ⟨sound, active, pending, curY, lines⟩ := stands.sound.prune
  refine ⟨⟨sound, ?_, ?_, ?_, ?_, ?_, ?_, fun x y => ?_⟩, ?_⟩
  · rw [lines]
    exact stands.canonical
  · rw [lines, curY]
    exact stands.ends
  · intro r found
    rw [active] at found
    rw [curY]
    exact stands.reached r (List.mem_of_mem_filter found)
  · rw [active]
    exact stands.byLeft.sublist List.filter_sublist
  · rw [pending]
    exact stands.byTop
  · rw [pending, curY]
    exact stands.ahead
  · rw [stands.cover, lines, curY, active, pending]
    refine or_congr_right (and_congr_right fun after => ?_)
    rw [rectsCover_append, rectsCover_append, rectsCover_filter after]
  · intro r found
    rw [active] at found
    rw [curY]
    exact of_decide_eq_true (List.mem_filter.mp found).2

/-- Without active rectangles the sweep goes on at the next one. -/
theorem Pending.jump (stands : Pending covered sweep) (idle : sweep.active = [])
    (more : sweep.nextRect < sweep.rects.length) :
    Pending covered { sweep with curY := (rectAt sweep.rects sweep.nextRect).top } := by
  have pending := pending_eq_cons more
  have before := stands.ahead _ (by rw [pending]; exact List.mem_cons_self)
  have ordered := stands.byTop
  rw [pending] at ordered
  have later : ∀ r ∈ sweep.pending, (rectAt sweep.rects sweep.nextRect).top ≤ r.top := by
    intro r found
    rw [pending] at found
    obtain rfl | behind := List.mem_cons.mp found
    · exact le_rfl
    · exact (List.pairwise_cons.mp ordered).1 r behind
  refine ⟨⟨⟨stands.sound.apart, stands.sound.within⟩, stands.canonical, stands.ends.mono before,
    ?_, stands.byLeft, stands.byTop, later, fun x y => ?_⟩, ?_⟩
  · intro r found
    change r ∈ sweep.active at found
    rw [idle] at found
    contradiction
  · rw [stands.cover]
    refine or_congr_right ⟨?_, fun ⟨after, covers⟩ => ⟨before.trans after, covers⟩⟩
    rintro ⟨-, covers⟩
    refine ⟨?_, covers⟩
    rw [idle, List.nil_append] at covers
    obtain ⟨r, found, -, inside⟩ := covers
    exact (later r found).trans inside.2.1
  · intro r found
    change r ∈ sweep.active at found
    rw [idle] at found
    contradiction

variable {admitted : Sweep} {taken : List SkIRect}

theorem Pending.admitReached (stands : Pending covered sweep)
    (admits : Admitted sweep admitted taken) : Pending covered admitted := by
  have tops : ∀ r ∈ taken, sweep.curY ≤ r.top := by
    intro r found
    refine stands.ahead r ?_
    rw [admits.pending]
    exact List.mem_append_left _ found
  have ordered := stands.byTop
  rw [admits.pending] at ordered
  refine ⟨⟨admits.sound, ?_, ?_, ?_, admits.byLeft, ?_, ?_, fun x y => ?_⟩, ?_⟩
  · rw [admits.lines]
    exact stands.canonical
  · rw [admits.lines, admits.curY]
    exact stands.ends
  · intro r found
    rw [admits.curY]
    obtain new | old := List.mem_append.mp (admits.active.mem_iff.mp found)
    · exact admits.reached r new
    · exact stands.reached r old
  · exact (List.pairwise_append.mp ordered).2.1
  · intro r found
    rw [admits.curY]
    refine stands.ahead r ?_
    rw [admits.pending]
    exact List.mem_append_right _ found
  · rw [stands.cover, admits.lines, admits.curY, admits.pending]
    refine or_congr_right (and_congr_right fun _ => ?_)
    rw [rectsCover_append, rectsCover_append, rectsCover_append, RectsCover.perm admits.active,
      rectsCover_append]
    tauto
  · intro r found
    rw [admits.curY]
    obtain new | old := List.mem_append.mp (admits.active.mem_iff.mp found)
    · exact (tops r new).trans_lt (SkIRect.sorted_of_not_isEmpty (admits.reached r new).1).2
    · exact stands.lasts r old

/-- How far down a line may reach: to where a rectangle ends, or to where the next one starts. -/
structure Reaches (sweep : Sweep) (endY : Int32) : Prop where
  after : sweep.curY < endY
  bottoms : ∀ r ∈ sweep.active, endY ≤ r.bottom
  tops : ∀ r ∈ sweep.pending, endY ≤ r.top
  stops : (∃ r ∈ sweep.active, r.bottom ≤ endY) ∨ ∃ r ∈ sweep.pending.head?, r.top ≤ endY

theorem Pending.reaches (stands : Pending covered sweep)
    (gathers : Gathers sweep.active sweep.gather)
    (above : ∀ r ∈ sweep.pending.head?, sweep.curY < r.top) : Reaches sweep sweep.emit.curY := by
  obtain ⟨last, lastActive, attained⟩ := gathers.attained
  have later : ∀ r ∈ sweep.pending.head?, ∀ other ∈ sweep.pending, r.top ≤ other.top := by
    intro r found other member
    obtain ⟨rest, split⟩ := List.head?_eq_some_iff.mp found
    have ordered := stands.byTop
    rw [split] at ordered member
    obtain rfl | behind := List.mem_cons.mp member
    · exact le_rfl
    · exact (List.pairwise_cons.mp ordered).1 other behind
  simp only [Sweep.emit]
  split
  case isTrue stops =>
    obtain ⟨more, before⟩ := stops
    have head : rectAt sweep.rects sweep.nextRect ∈ sweep.pending.head? := by
      rw [pending_eq_cons more]
      rfl
    exact ⟨above _ head, fun r found => before.le.trans (gathers.bottoms r found), later _ head,
      .inr ⟨_, head, le_rfl⟩⟩
  case isFalse clear =>
    refine ⟨attained ▸ stands.lasts last lastActive, gathers.bottoms, fun r found => ?_,
      .inl ⟨last, lastActive, attained.ge⟩⟩
    have more : sweep.nextRect < sweep.rects.length := by
      by_contra done
      rw [pending_eq_nil.mpr (not_lt.mp done)] at found
      contradiction
    have head : rectAt sweep.rects sweep.nextRect ∈ sweep.pending.head? := by
      rw [pending_eq_cons more]
      rfl
    exact (not_lt.mp fun before => clear ⟨more, before⟩).trans (later _ head r found)

/-- Down to where a line reaches, its spans are what the rectangles cover. -/
theorem Pending.line_cover (stands : Pending covered sweep)
    (gathers : Gathers sweep.active sweep.gather) {endY : Int32} (reaches : Reaches sweep endY)
    {x y : Int32} (after : sweep.curY ≤ y) (before : y < endY) :
    RectsCover (sweep.active ++ sweep.pending) x y ↔ SpansCover sweep.gather.spans x := by
  rw [gathers.cover]
  constructor
  · rintro ⟨r, found, -, inside⟩
    obtain active | behind := List.mem_append.mp found
    · exact ⟨r, active, inside.1⟩
    · exact absurd (before.trans_le (reaches.tops r behind)) (not_lt.mpr inside.2.1)
  · rintro ⟨r, found, inside⟩
    obtain ⟨filled, top⟩ := stands.reached r found
    exact ⟨r, List.mem_append_left _ found, filled, inside, top.trans after,
      before.trans_le (reaches.bottoms r found)⟩

/-- What `emit` leaves to be done starts where its line ends. -/
theorem Pending.emit (stands : Pending covered sweep) (some : sweep.active ≠ [])
    (above : ∀ r ∈ sweep.pending.head?, sweep.curY < r.top) :
    Stands covered sweep.emit ∧ Reaches sweep sweep.emit.curY := by
  have gathers := gather_spec some stands.byLeft fun r found =>
    SkIRect.sorted_of_not_isEmpty (stands.reached r found).1
  have reaches := stands.reaches gathers above
  have appended := stands.canonical.appendLine reaches.after gathers.canonical stands.ends
  refine ⟨⟨⟨stands.sound.apart, stands.sound.within⟩, appended.canonical, appended.ends, ?_,
    stands.byLeft, stands.byTop, reaches.tops, fun x y => ?_⟩, reaches⟩
  · intro r found
    obtain ⟨filled, top⟩ := stands.reached r found
    exact ⟨filled, top.trans reaches.after.le⟩
  · change covered x y ↔ LinesCover (appendLine sweep.lines sweep.curY sweep.emit.curY
      sweep.gather.spans) x y ∨ sweep.emit.curY ≤ y ∧ RectsCover (sweep.active ++ sweep.pending) x y
    rw [stands.cover, appended.cover, or_assoc]
    refine or_congr_right ?_
    obtain before | beyond := lt_or_ge y sweep.emit.curY
    · simp only [before, and_true, not_le.mpr before, false_and, or_false]
      exact and_congr_right fun after => stands.line_cover gathers reaches after before
    · simp [beyond, not_lt.mpr beyond, reaches.after.le.trans beyond]

/-! ## A run -/

/-- Something is to be done at once: there is no active rectangle, or one is passed, or the next
one is reached. -/
def Due (sweep : Sweep) : Prop :=
  sweep.active = [] ∨ (∃ r ∈ sweep.active, r.bottom ≤ sweep.curY) ∨
    ∃ r ∈ sweep.pending.head?, r.top ≤ sweep.curY

def work (sweep : Sweep) : Nat := 2 * sweep.pending.length + sweep.active.length

/-- The sweep once it is pruned, at a place where there is a rectangle. -/
def jumped (sweep : Sweep) : Sweep :=
  if sweep.prune.activeEnd = 0 then
    { sweep.prune with curY := (rectAt sweep.prune.rects sweep.prune.nextRect).top }
  else sweep.prune

theorem run_succ {fuel : Nat} :
    sweep.run (fuel + 1) =
      if sweep.nextRect < sweep.rects.length ∨ 0 < sweep.activeEnd then
        if sweep.prune.activeEnd = 0 ∧ sweep.prune.rects.length ≤ sweep.prune.nextRect then
          some sweep.prune.lines
        else (sweep.jumped.admitReached fuel).bind fun admitted => admitted.emit.run fuel
      else some sweep.lines := by
  rw [Sweep.run]
  dsimp only
  split
  · split
    · rfl
    · split
      next stuck =>
        rw [show sweep.jumped.admitReached fuel = none from stuck]
        rfl
      next admitted reached =>
        rw [show sweep.jumped.admitReached fuel = some admitted from reached]
        rfl
  · rfl

/-- What is between pruning and admitting. -/
structure Jumped (covered : Int32 → Int32 → Prop) (sweep jumped : Sweep) : Prop
    extends Pending covered jumped where
  active_eq : jumped.active = sweep.active.filter (sweep.curY < ·.bottom)
  pending_eq : jumped.pending = sweep.pending
  curY_le : sweep.curY ≤ jumped.curY
  ready : jumped.active ≠ [] ∨ ∃ r ∈ jumped.pending.head?, r.top ≤ jumped.curY

theorem Stands.jumped (stands : Stands covered sweep)
    (more : ¬(sweep.prune.activeEnd = 0 ∧ sweep.prune.rects.length ≤ sweep.prune.nextRect)) :
    Jumped covered sweep sweep.jumped := by
  have pruned := stands.sound.prune
  have pending := stands.prune
  rw [Sweep.jumped]
  split
  case isTrue idle =>
    have left : sweep.prune.nextRect < sweep.prune.rects.length :=
      not_le.mp fun done => more ⟨idle, done⟩
    have head : rectAt sweep.prune.rects sweep.prune.nextRect ∈ sweep.prune.pending.head? := by
      rw [pending_eq_cons left]
      rfl
    refine ⟨pending.jump (pruned.sound.active_eq_nil.mpr idle) left, pruned.active, pruned.pending,
      ?_, .inr ⟨_, head, le_rfl⟩⟩
    rw [← pruned.curY]
    exact pending.ahead _ (List.mem_of_mem_head? head)
  case isFalse busy =>
    refine ⟨pending, pruned.active, pruned.pending, pruned.curY.ge, .inl ?_⟩
    rwa [ne_eq, pruned.sound.active_eq_nil]

/-- A rectangle that is reached is taken. -/
theorem Admitted.taken_ne_nil (admits : Admitted sweep admitted taken)
    (above : ∀ r ∈ admitted.pending.head?, admitted.curY < r.top)
    (reached : ∃ r ∈ sweep.pending.head?, r.top ≤ sweep.curY) : taken ≠ [] := by
  rintro rfl
  obtain ⟨r, found, top⟩ := reached
  rw [admits.pending, List.nil_append] at found
  have beyond := above r found
  rw [admits.curY] at beyond
  exact absurd top (not_le.mpr beyond)

theorem Jumped.active_ne_nil {jumped : Sweep} (jumps : Jumped covered sweep jumped)
    (admits : Admitted jumped admitted taken)
    (above : ∀ r ∈ admitted.pending.head?, admitted.curY < r.top) : admitted.active ≠ [] := by
  intro none
  have all := admits.active
  rw [none, List.nil_perm, List.append_eq_nil_iff] at all
  obtain busy | reached := jumps.ready
  · exact busy all.2
  · exact admits.taken_ne_nil above reached all.1

/-- What a run that returns has covered, and what it has come across. -/
theorem Stands.run {fuel : Nat} {lines : List SpanLine} (stands : Stands covered sweep)
    (returns : sweep.run fuel = some lines) :
    CanonicalLines lines ∧ (∀ x y, LinesCover lines x y ↔ covered x y) ∧
      ∀ r ∈ sweep.pending, ¬r.IsEmpty := by
  induction fuel generalizing sweep with
  | zero => contradiction
  | succ fuel ih =>
    rw [run_succ] at returns
    split at returns
    case isTrue =>
      split at returns
      case isTrue done =>
        cases returns
        have pruned := stands.sound.prune
        have pending := stands.prune
        have none := pending_eq_nil.mpr done.2
        refine ⟨pending.canonical, fun x y => ?_, ?_⟩
        · rw [pending.cover, none, pruned.sound.active_eq_nil.mpr done.1]
          simp
        · rw [← pruned.pending, none]
          simp
      case isFalse more =>
        have jumps := stands.jumped more
        obtain ⟨admitted, admits, returns⟩ := Option.bind_eq_some_iff.mp returns
        obtain ⟨⟨taken, admits⟩, above⟩ := jumps.sound.admitReached jumps.byLeft admits
        have emits := (jumps.toPending.admitReached admits).emit (jumps.active_ne_nil admits above)
          above
        obtain ⟨canonical, cover, filled⟩ := ih emits.1 returns
        refine ⟨canonical, cover, fun r found => ?_⟩
        rw [← jumps.pending_eq, admits.pending] at found
        obtain new | later := List.mem_append.mp found
        · exact (admits.reached r new).1
        · exact filled r later
    case isFalse done =>
      cases returns
      rw [not_or, not_lt, not_lt, Nat.le_zero] at done
      have none := pending_eq_nil.mpr done.1
      refine ⟨stands.canonical, fun x y => ?_, by simp [none]⟩
      rw [stands.cover, none, stands.sound.active_eq_nil.mpr done.2]
      simp

/-- Every round leaves less to be done. -/
theorem Jumped.work_lt {jumped : Sweep} (jumps : Jumped covered sweep jumped)
    (admits : Admitted jumped admitted taken)
    (above : ∀ r ∈ admitted.pending.head?, admitted.curY < r.top) (due : sweep.Due) :
    admitted.work < sweep.work := by
  have pending := congrArg List.length (jumps.pending_eq.symm.trans admits.pending)
  have active := admits.active.length_eq
  rw [List.length_append] at pending active
  have atMost : jumped.active.length ≤ sweep.active.length := by
    rw [jumps.active_eq]
    exact List.length_filter_le _ _
  have progress : taken ≠ [] ∨ jumped.active.length < sweep.active.length := by
    obtain idle | ⟨r, found, passed⟩ | ⟨r, found, reached⟩ := due
    · left
      refine admits.taken_ne_nil above (jumps.ready.resolve_left fun busy => busy ?_)
      rw [jumps.active_eq, idle, List.filter_nil]
    · right
      rw [jumps.active_eq, List.length_filter_lt_length_iff_exists]
      exact ⟨r, found, by simpa using passed⟩
    · left
      refine admits.taken_ne_nil above ⟨r, ?_, reached.trans jumps.curY_le⟩
      rwa [jumps.pending_eq]
  rw [← List.length_pos_iff] at progress
  unfold work
  omega

theorem Stands.run_returns {fuel : Nat} (stands : Stands covered sweep) (due : sweep.Due)
    (filled : ∀ r ∈ sweep.pending, ¬r.IsEmpty) (enough : sweep.work + 2 ≤ fuel) :
    ∃ lines, sweep.run fuel = some lines := by
  induction fuel generalizing sweep with
  | zero => omega
  | succ fuel ih =>
    rw [run_succ]
    split
    case isTrue =>
      split
      case isTrue => exact ⟨_, rfl⟩
      case isFalse more =>
        have jumps := stands.jumped more
        have jumpedFilled := filled
        rw [← jumps.pending_eq] at jumpedFilled
        have room : sweep.jumped.pending.length < fuel := by
          rw [jumps.pending_eq]
          unfold work at enough
          omega
        obtain ⟨admitted, returns⟩ := jumps.sound.admit_returns jumps.byLeft jumpedFilled room
        obtain ⟨⟨taken, admits⟩, above⟩ := jumps.sound.admitReached jumps.byLeft returns
        have less := jumps.work_lt admits above due
        have emits := (jumps.toPending.admitReached admits).emit (jumps.active_ne_nil admits above)
          above
        rw [returns, Option.bind_some]
        refine ih emits.1 (.inr emits.2.stops) (fun r found => ?_) (Nat.le_of_lt_succ ?_)
        · refine jumpedFilled r ?_
          rw [admits.pending]
          exact List.mem_append_right _ found
        · have same : admitted.emit.work = admitted.work := rfl
          omega
    case isFalse => exact ⟨_, rfl⟩

end Sweep

/-! ## What is built -/

namespace DlRegion

variable {skia : SkIRects} {fuel : Nat} {unsorted rects : List SkIRect} {region : DlRegion}

theorem stands_initially (sorted : SortedFrom unsorted rects) :
    Sweep.Stands (RectsCover unsorted) ⟨rects, 0, 0, .minValue, []⟩ where
  sound := ⟨le_rfl, Nat.zero_le _⟩
  canonical := CanonicalLines.nil
  ends _ found := absurd found List.not_mem_nil
  reached r found := by simp [Sweep.active] at found
  byLeft := by simp [Sweep.active, Sweep.ByLeft]
  byTop := sorted.ordered.imp top_le_of_not_topLeftLess
  ahead _ _ := Int32.minValue_le _
  cover x y := by
    rw [← RectsCover.perm sorted.perm]
    simp [Sweep.active, Sweep.pending]

/-- What `join` makes of bounds and of rectangles that are not empty. -/
theorem boundsOf_foldl_join {bounds : SkIRect} {covered : Int32 → Int32 → Prop}
    (is : BoundsOf covered bounds) (some : ∃ x y, covered x y)
    (filled : ∀ rect ∈ rects, ¬rect.IsEmpty) :
    BoundsOf (fun x y => covered x y ∨ RectsCover rects x y) (rects.foldl skia.join bounds) := by
  induction rects generalizing bounds covered with
  | nil => exact is.congr fun x y => by simp
  | cons rect rest ih =>
    have rectFilled := filled rect List.mem_cons_self
    have rectSorted := SkIRect.sorted_of_not_isEmpty rectFilled
    obtain ⟨x, y, covers⟩ := some
    rw [List.foldl_cons, skia.join_sorted (is.sorted covers) rectSorted]
    refine (ih (is.union (.ofRect rectSorted) ⟨x, y, covers⟩
      ⟨rect.left, rect.top, ⟨le_rfl, rectSorted.1⟩, le_rfl, rectSorted.2⟩) ⟨x, y, .inl covers⟩
      fun other found => filled other (List.mem_cons_of_mem _ found)).congr fun x y => ?_
    rw [rectsCover_cons, or_assoc, and_iff_right rectFilled]

theorem boundsOf_join (filled : ∀ rect ∈ rects, ¬rect.IsEmpty) :
    BoundsOf (RectsCover rects) (rects.foldl skia.join .makeEmpty) := by
  obtain _ | ⟨rect, rest⟩ := rects
  · exact BoundsOf.empty fun _ _ => rectsCover_nil
  · have rectFilled := filled rect List.mem_cons_self
    have rectSorted := SkIRect.sorted_of_not_isEmpty rectFilled
    rw [List.foldl_cons, skia.join_unsorted SkIRect.not_sorted_makeEmpty rectSorted]
    refine (boundsOf_foldl_join (.ofRect rectSorted)
      ⟨rect.left, rect.top, ⟨le_rfl, rectSorted.1⟩, le_rfl, rectSorted.2⟩
      fun other found => filled other (List.mem_cons_of_mem _ found)).congr fun x y => ?_
    rw [rectsCover_cons, and_iff_right rectFilled]

/-- A region that `setRects` returns. -/
structure Sets (skia : SkIRects) (unsorted : List SkIRect) (region : DlRegion) : Prop where
  filled : ∀ rect ∈ unsorted, ¬rect.IsEmpty
  canonical : CanonicalLines region.lines
  cover : ∀ x y, LinesCover region.lines x y ↔ RectsCover unsorted x y
  bounds : BoundsOf (RectsCover unsorted) region.bounds

theorem Sets.exact (sets : Sets skia unsorted region) : region.Exact :=
  ⟨sets.canonical, sets.bounds.congr sets.cover⟩

theorem setRects_sets (sorted : SortedFrom unsorted rects)
    (returns : setRects skia fuel unsorted rects = some region) : Sets skia unsorted region := by
  obtain ⟨lines, ran, rfl⟩ := Option.map_eq_some_iff.mp returns
  obtain ⟨canonical, cover, filled⟩ := (stands_initially sorted).run ran
  have allFilled : ∀ rect ∈ unsorted, ¬rect.IsEmpty :=
    fun rect found => filled rect (sorted.perm.mem_iff.mpr found)
  exact ⟨allFilled, canonical, cover, boundsOf_join allFilled⟩

theorem setRects_returns (sorted : SortedFrom unsorted rects)
    (filled : ∀ rect ∈ unsorted, ¬rect.IsEmpty) :
    ∃ fuel region, setRects skia fuel unsorted rects = some region := by
  obtain ⟨lines, returns⟩ := (stands_initially sorted).run_returns (.inl (by simp [Sweep.active]))
    (fun rect found => filled rect (sorted.perm.mem_iff.mp found)) le_rfl
  exact ⟨_, _, Option.map_eq_some_iff.mpr ⟨lines, returns, rfl⟩⟩

/-- There is always a way to sort. -/
theorem exists_sortedFrom (unsorted : List SkIRect) : ∃ rects, SortedFrom unsorted rects := by
  refine ⟨unsorted.mergeSort fun a b => !topLeftLess b a, List.mergeSort_perm _ _, ?_⟩
  have transitive : ∀ a b c : SkIRect, (!topLeftLess b a) = true → (!topLeftLess c b) = true →
      (!topLeftLess c a) = true := by
    intro a b c
    simp only [topLeftLess]
    grind
  have total : ∀ a b : SkIRect, ((!topLeftLess b a) || !topLeftLess a b) = true := by
    intro a b
    simp only [topLeftLess]
    grind
  exact (List.pairwise_mergeSort transitive total unsorted).imp fun notLess => by
    simpa using notLess

/-- However the rectangles are sorted, a region of them is built, of all their points and with the
smallest bounds, exactly where none of them is empty. -/
theorem setRects_exact_iff (skia : SkIRects) (unsorted : List SkIRect) :
    (∀ rects, SortedFrom unsorted rects →
      (∃ fuel region, setRects skia fuel unsorted rects = some region) ∧
        ∀ fuel region, setRects skia fuel unsorted rects = some region →
          (∀ x y, LinesCover region.lines x y ↔ RectsCover unsorted x y) ∧
            BoundsOf (RectsCover unsorted) region.bounds) ↔
      ∀ rect ∈ unsorted, ¬rect.IsEmpty := by
  constructor
  · intro builds
    obtain ⟨rects, sorted⟩ := exists_sortedFrom unsorted
    obtain ⟨fuel, region, returns⟩ := (builds rects sorted).1
    exact (setRects_sets sorted returns).filled
  · intro filled rects sorted
    refine ⟨setRects_returns sorted filled, fun fuel region returns => ?_⟩
    have sets := setRects_sets sorted returns
    exact ⟨sets.cover, sets.bounds⟩

/-- With an empty rectangle beside another one, nothing is ever returned. -/
theorem setRects_empty_stays :
    ¬∀ unsorted rects, SortedFrom unsorted rects →
      ∃ fuel region, setRects .byEdges fuel unsorted rects = some region := by
  intro builds
  have sorted : SortedFrom [⟨0, 0, 10, 10⟩, ⟨5, 5, 5, 9⟩] [⟨0, 0, 10, 10⟩, ⟨5, 5, 5, 9⟩] := by
    refine ⟨List.Perm.refl _, ?_⟩
    simp only [List.pairwise_cons]
    decide
  obtain ⟨fuel, region, returns⟩ := builds _ _ sorted
  exact (setRects_sets sorted returns).filled ⟨5, 5, 5, 9⟩ (by simp) (by decide)

end DlRegion

end FlutterEngine.DisplayList.Geometry
