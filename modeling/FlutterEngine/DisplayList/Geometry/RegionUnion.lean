import FlutterEngine.DisplayList.Geometry.RegionBounds

/-!
# The union of regions

`DlRegion::MakeUnion`: a walk over the lines of both, from `cur_top` on.
-/

namespace FlutterEngine.DisplayList.Geometry

open FlutterEngine.Std

/-! ## Lines from a place on -/

theorem CanonicalLines.tail {line : SpanLine} {rest : List SpanLine}
    (canonical : CanonicalLines (line :: rest)) : CanonicalLines rest where
  spans next found := canonical.spans next (List.mem_cons_of_mem _ found)
  bands := canonical.bands.tail

theorem CanonicalLines.filled {line : SpanLine} {rest : List SpanLine}
    (canonical : CanonicalLines (line :: rest)) : line.top < line.bottom :=
  canonical.bands.filled line.band List.mem_cons_self

theorem CanonicalLines.top_le {line : SpanLine} {rest : List SpanLine} {x y : Int32}
    (canonical : CanonicalLines (line :: rest)) (covers : LinesCover (line :: rest) x y) :
    line.top ≤ y := by
  obtain ⟨spans, carries, -⟩ := linesCover_iff.mp covers
  exact Band.Canonical.lower_le canonical.bands carries

theorem CanonicalLines.bottom_le {line : SpanLine} {rest : List SpanLine} {x y : Int32}
    (canonical : CanonicalLines (line :: rest)) (covers : LinesCover rest x y) :
    line.bottom ≤ y := by
  obtain ⟨spans, carries, -⟩ := linesCover_iff.mp covers
  exact Band.Canonical.upper_le canonical.bands carries

theorem CanonicalLines.bottom_le_top {line next : SpanLine} {rest : List SpanLine}
    (canonical : CanonicalLines (line :: next :: rest)) : line.bottom ≤ next.top :=
  ((List.pairwise_cons.mp canonical.bands.ordered).1 next.band List.mem_cons_self).1

/-- Lines that are still to come: the first one reaches beyond `curTop`. -/
structure ToCome (curTop : Int32) (lines : List SpanLine) : Prop where
  canonical : CanonicalLines lines
  beyond : ∀ line ∈ lines.head?, curTop < line.bottom

namespace ToCome

variable {curTop later : Int32} {line : SpanLine} {rest : List SpanLine}

theorem head (toCome : ToCome curTop (line :: rest)) : curTop < line.bottom :=
  toCome.beyond line rfl

/-- Once a line is done. -/
theorem tail (toCome : ToCome curTop (line :: rest)) (atMost : later ≤ line.bottom) :
    ToCome later rest := by
  refine ⟨toCome.canonical.tail, fun next found => ?_⟩
  obtain ⟨rest, rfl⟩ := List.head?_eq_some_iff.mp found
  exact (atMost.trans toCome.canonical.bottom_le_top).trans_lt toCome.canonical.tail.filled

/-- Once a part of a line is done. -/
theorem advance (toCome : ToCome curTop (line :: rest)) (atMost : later ≤ line.bottom) :
    ToCome later (if later = line.bottom then rest else line :: rest) := by
  split
  case isTrue => exact toCome.tail atMost
  case isFalse different =>
    refine ⟨toCome.canonical, fun next found => ?_⟩
    cases found
    exact atMost.lt_of_ne different

/-- The part that was done covers nothing more. -/
theorem cover_advance {x y : Int32} (after : later ≤ y) :
    LinesCover (if later = line.bottom then rest else line :: rest) x y ↔
      LinesCover (line :: rest) x y := by
  split
  case isTrue same =>
    rw [linesCover_cons, ← same]
    simp [not_lt.mpr after]
  case isFalse => rfl

end ToCome

/-! ## The walk -/

/-- Whether the tops of the lines at hand differ: where they do, the walk takes one step more. -/
def uneven (curTop : Int32) : List SpanLine → List SpanLine → Nat
  | a :: _, b :: _ => if max curTop a.top = max curTop b.top then 0 else 1
  | _, _ => 0

theorem uneven_le_one (curTop : Int32) (as bs : List SpanLine) : uneven curTop as bs ≤ 1 := by
  unfold uneven
  split
  · split <;> omega
  · omega

variable {as bs : List SpanLine}

/-- Once the walk has come to the lower one of two tops, they no longer differ. -/
theorem uneven_step {curTop : Int32} {a b : SpanLine} (less : max curTop a.top < max curTop b.top) :
    uneven (max curTop b.top) (a :: as) (b :: bs) < uneven curTop (a :: as) (b :: bs) := by
  have below : a.top ≤ max curTop b.top := (le_max_right _ _).trans less.le
  rw [uneven, uneven, if_neg less.ne, if_pos]
  · exact Nat.zero_lt_one
  · rw [max_eq_left below, max_eq_left (le_max_right _ _)]

theorem uneven_comm {curTop : Int32} :
    uneven curTop as bs = uneven curTop bs as := by
  obtain _ | ⟨a, as⟩ := as <;> obtain _ | ⟨b, bs⟩ := bs <;> simp [uneven, eq_comm]

/-- Where two lines end, at least one is done. -/
theorem length_done {a b : SpanLine} :
    (if min a.bottom b.bottom = a.bottom then as else a :: as).length +
        (if min a.bottom b.bottom = b.bottom then bs else b :: bs).length <
      (a :: as).length + (b :: bs).length := by
  obtain least | least := min_choice a.bottom b.bottom <;> rw [least] <;> split <;> split <;>
    simp_all <;> omega

/-- The last loops of `MakeUnion`, over the lines that are left of one region. -/
def appendRest (curTop : Int32) (res lines : List SpanLine) : List SpanLine :=
  lines.foldl (fun res line => appendLine res (max curTop line.top) line.bottom line.spans) res

/-- The lines of `MakeUnion`. -/
def unionLines (curTop : Int32) (res : List SpanLine) :
    List SpanLine → List SpanLine → List SpanLine
  | a :: as, b :: bs =>
    if a.bottom ≤ max curTop b.top then
      unionLines curTop (appendLine res (max curTop a.top) a.bottom a.spans) as (b :: bs)
    else if b.bottom ≤ max curTop a.top then
      unionLines curTop (appendLine res (max curTop b.top) b.bottom b.spans) (a :: as) bs
    else if max curTop a.top < max curTop b.top then
      unionLines (max curTop b.top)
        (appendLine res (max curTop a.top) (max curTop b.top) a.spans)
        (if max curTop b.top = a.bottom then as else a :: as) (b :: bs)
    else if max curTop b.top < max curTop a.top then
      unionLines (max curTop a.top)
        (appendLine res (max curTop b.top) (max curTop a.top) b.spans)
        (a :: as) (if max curTop a.top = b.bottom then bs else b :: bs)
    else
      unionLines (min a.bottom b.bottom)
        (appendLine res (max curTop a.top) (min a.bottom b.bottom)
          (unionLineSpans [] a.spans b.spans))
        (if min a.bottom b.bottom = a.bottom then as else a :: as)
        (if min a.bottom b.bottom = b.bottom then bs else b :: bs)
  | as, bs => appendRest curTop (appendRest curTop res as) bs
termination_by as bs => 2 * (as.length + bs.length) + uneven curTop as bs
decreasing_by
  · have atMost := uneven_le_one curTop as (b :: bs)
    simp only [List.length_cons]
    omega
  · have atMost := uneven_le_one curTop (a :: as) bs
    simp only [List.length_cons]
    omega
  · rename_i less
    have step := @uneven_step as bs _ _ _ less
    have atMost := uneven_le_one (max curTop b.top) as (b :: bs)
    split <;> simp only [List.length_cons] <;> omega
  · rename_i less
    have step := @uneven_step bs as _ _ _ less
    rw [uneven_comm, @uneven_comm _ _ curTop] at step
    have atMost := uneven_le_one (max curTop a.top) (a :: as) bs
    split <;> simp only [List.length_cons] <;> omega
  · have done := @length_done as bs a b
    have atMost := uneven_le_one (min a.bottom b.bottom)
      (if min a.bottom b.bottom = a.bottom then as else a :: as)
      (if min a.bottom b.bottom = b.bottom then bs else b :: bs)
    simp only [dite_eq_ite]
    omega

/-! ## What it covers -/

/-- A walk that has come to `curTop`: the lines so far end before anything that is to come. -/
structure Walks (curTop : Int32) (res lines : List SpanLine) : Prop extends ToCome curTop lines where
  ends : ∀ line ∈ lines.head?, LinesEndBy res (max curTop line.top)

/-- What is made of the lines so far and more points. -/
structure Extends (res : List SpanLine) (more : Int32 → Int32 → Prop) (result : List SpanLine) :
    Prop where
  canonical : CanonicalLines result
  cover : ∀ x y, LinesCover result x y ↔ LinesCover res x y ∨ more x y

namespace Walks

variable {curTop later : Int32} {res result : List SpanLine} {line : SpanLine}
  {rest lines : List SpanLine}

theorem endBy (walks : Walks curTop res (line :: rest)) : LinesEndBy res (max curTop line.top) :=
  walks.ends line rfl

/-- A part of the first line is not empty where it starts before it ends. -/
theorem starts (walks : Walks curTop res (line :: rest)) : max curTop line.top < line.bottom :=
  max_lt walks.head walks.canonical.filled

theorem of_endBy (toCome : ToCome later lines) (ends : LinesEndBy result later) :
    Walks later result lines :=
  ⟨toCome, fun _ _ => ends.mono (le_max_left _ _)⟩

/-- Once a line is done. -/
theorem tail (walks : Walks curTop res (line :: rest)) (ends : LinesEndBy result line.bottom) :
    Walks curTop result rest := by
  refine ⟨walks.toToCome.tail walks.head.le, fun next found => ?_⟩
  obtain ⟨rest, rfl⟩ := List.head?_eq_some_iff.mp found
  exact ends.mono (walks.canonical.bottom_le_top.trans (le_max_right _ _))

end Walks

theorem appendRest_nil {curTop : Int32} {res : List SpanLine} : appendRest curTop res [] = res :=
  rfl

theorem appendRest_extends {curTop : Int32} {res lines : List SpanLine}
    (canonical : CanonicalLines res) (walks : Walks curTop res lines) :
    Extends res (fun x y => curTop ≤ y ∧ LinesCover lines x y) (appendRest curTop res lines) := by
  induction lines generalizing res with
  | nil => exact ⟨canonical, by simp [appendRest]⟩
  | cons line rest ih =>
    have appended := canonical.appendLine walks.starts
      (walks.canonical.spans line List.mem_cons_self) walks.endBy
    obtain ⟨final, cover⟩ := ih appended.canonical (walks.tail appended.ends)
    refine ⟨final, fun x y => ?_⟩
    change LinesCover (appendRest curTop (appendLine res _ _ _) rest) x y ↔ _
    rw [cover, appended.cover, linesCover_cons, max_le_iff]
    tauto

/-- Before a part of the first line ends, nothing but that line covers. -/
theorem ToCome.part {curTop later : Int32} {line : SpanLine} {rest : List SpanLine} {x y : Int32}
    (toCome : ToCome curTop (line :: rest)) (atMost : later ≤ line.bottom) (before : y < later) :
    curTop ≤ y ∧ LinesCover (line :: rest) x y ↔
      max curTop line.top ≤ y ∧ SpansCover line.spans x := by
  have inside := before.trans_le atMost
  have alone : ¬LinesCover rest x y := fun covers =>
    absurd (toCome.canonical.bottom_le covers) (not_le.mpr inside)
  rw [linesCover_cons, max_le_iff]
  simp [alone, inside, and_assoc]

/-- Before the first line starts, nothing covers. -/
theorem ToCome.not_yet {curTop : Int32} {line : SpanLine} {rest : List SpanLine} {x y : Int32}
    (toCome : ToCome curTop (line :: rest)) (before : y < max curTop line.top) :
    ¬(curTop ≤ y ∧ LinesCover (line :: rest) x y) := by
  rintro ⟨after, covers⟩
  exact absurd (max_le after (toCome.canonical.top_le covers)) (not_le.mpr before)

namespace Extends

variable {curTop later : Int32} {res result lines others : List SpanLine} {line : SpanLine}
  {rest : List SpanLine}

theorem swap (extends' : Extends res
      (fun x y => curTop ≤ y ∧ (LinesCover lines x y ∨ LinesCover others x y)) result) :
    Extends res (fun x y => curTop ≤ y ∧ (LinesCover others x y ∨ LinesCover lines x y)) result :=
  ⟨extends'.canonical, fun x y => by rw [extends'.cover, or_comm (a := LinesCover others x y)]⟩

/-- One line ends before the other one starts: it is done. -/
theorem done
    (appended : Appended res (max curTop line.top) line.bottom line.spans
      (appendLine res (max curTop line.top) line.bottom line.spans))
    (extends' : Extends (appendLine res (max curTop line.top) line.bottom line.spans)
      (fun x y => curTop ≤ y ∧ (LinesCover rest x y ∨ LinesCover others x y)) result) :
    Extends res (fun x y => curTop ≤ y ∧ (LinesCover (line :: rest) x y ∨ LinesCover others x y))
      result := by
  refine ⟨extends'.canonical, fun x y => ?_⟩
  rw [extends'.cover, appended.cover, linesCover_cons, max_le_iff]
  simp only [and_or_left, or_assoc, and_assoc]

/-- One line starts before the other: it goes on alone down to there. -/
theorem alone (toCome : ToCome curTop (line :: rest)) (after : curTop ≤ later)
    (atMost : later ≤ line.bottom)
    (notYet : ∀ {x y}, y < later → ¬(curTop ≤ y ∧ LinesCover others x y))
    (appended : Appended res (max curTop line.top) later line.spans
      (appendLine res (max curTop line.top) later line.spans))
    (extends' : Extends (appendLine res (max curTop line.top) later line.spans)
      (fun x y => later ≤ y ∧
        (LinesCover (if later = line.bottom then rest else line :: rest) x y ∨
          LinesCover others x y)) result) :
    Extends res (fun x y => curTop ≤ y ∧ (LinesCover (line :: rest) x y ∨ LinesCover others x y))
      result := by
  refine ⟨extends'.canonical, fun x y => ?_⟩
  rw [extends'.cover, appended.cover, or_assoc]
  refine or_congr_right ?_
  obtain before | beyond := lt_or_ge y later
  · rw [@and_or_left (curTop ≤ y), or_iff_left (notYet before), toCome.part atMost before]
    simp [before, not_le.mpr before]
  · rw [ToCome.cover_advance beyond]
    simp [beyond, not_lt.mpr beyond, after.trans beyond]

/-- Two lines are at the same place: they go on together down to where one ends. -/
theorem together {other : SpanLine} {otherRest spans : List SpanLine} {both : List Span}
    (toCome : ToCome curTop (line :: rest)) (otherToCome : ToCome curTop (other :: otherRest))
    (same : max curTop line.top = max curTop other.top) (after : curTop ≤ later)
    (atMost : later ≤ line.bottom) (otherAtMost : later ≤ other.bottom)
    (cover : ∀ x, SpansCover both x ↔ SpansCover line.spans x ∨ SpansCover other.spans x)
    (appended : Appended res (max curTop line.top) later both spans)
    (extends' : Extends spans
      (fun x y => later ≤ y ∧
        (LinesCover (if later = line.bottom then rest else line :: rest) x y ∨
          LinesCover (if later = other.bottom then otherRest else other :: otherRest) x y))
      result) :
    Extends res (fun x y => curTop ≤ y ∧
      (LinesCover (line :: rest) x y ∨ LinesCover (other :: otherRest) x y)) result := by
  refine ⟨extends'.canonical, fun x y => ?_⟩
  rw [extends'.cover, appended.cover, or_assoc]
  refine or_congr_right ?_
  obtain before | beyond := lt_or_ge y later
  · rw [@and_or_left (curTop ≤ y), toCome.part atMost before, otherToCome.part otherAtMost before,
      ← same, ← and_or_left, cover]
    simp [before, not_le.mpr before]
  · rw [ToCome.cover_advance beyond, ToCome.cover_advance beyond]
    simp [beyond, not_lt.mpr beyond, after.trans beyond]

end Extends

theorem unionLines_extends {curTop : Int32} {res as bs : List SpanLine}
    (canonical : CanonicalLines res) (first : Walks curTop res as) (second : Walks curTop res bs) :
    Extends res (fun x y => curTop ≤ y ∧ (LinesCover as x y ∨ LinesCover bs x y))
      (unionLines curTop res as bs) := by
  fun_induction unionLines curTop res as bs with
  | case1 curTop res a as b bs apart ih =>
    have appended := canonical.appendLine first.starts
      (first.canonical.spans a List.mem_cons_self) first.endBy
    refine Extends.done appended (ih appended.canonical (first.tail appended.ends)
      ⟨second.toToCome, fun _ found => ?_⟩)
    cases found
    exact appended.ends.mono apart
  | case2 curTop res a as b bs _ apart ih =>
    have appended := canonical.appendLine second.starts
      (second.canonical.spans b List.mem_cons_self) second.endBy
    refine (Extends.done appended (ih appended.canonical
      ⟨first.toToCome, fun _ found => ?_⟩ (second.tail appended.ends)).swap).swap
    cases found
    exact appended.ends.mono apart
  | case3 curTop res a as b bs overlaps _ less ih =>
    rw [not_le] at overlaps
    simp only [dite_eq_ite] at ih
    have appended := canonical.appendLine less (first.canonical.spans a List.mem_cons_self)
      first.endBy
    have later : ToCome (max curTop b.top) (b :: bs) := ⟨second.canonical, fun _ found => by
      cases found
      exact second.starts⟩
    exact Extends.alone first.toToCome (le_max_left _ _) overlaps.le second.toToCome.not_yet appended
      (ih appended.canonical (.of_endBy (first.toToCome.advance overlaps.le) appended.ends)
        (.of_endBy later appended.ends))
  | case4 curTop res a as b bs _ overlaps _ less ih =>
    rw [not_le] at overlaps
    simp only [dite_eq_ite] at ih
    have appended := canonical.appendLine less (second.canonical.spans b List.mem_cons_self)
      second.endBy
    have later : ToCome (max curTop a.top) (a :: as) := ⟨first.canonical, fun _ found => by
      cases found
      exact first.starts⟩
    exact (Extends.alone second.toToCome (le_max_left _ _) overlaps.le first.toToCome.not_yet
      appended (ih appended.canonical (.of_endBy later appended.ends)
        (.of_endBy (second.toToCome.advance overlaps.le) appended.ends)).swap).swap
  | case5 curTop res a as b bs _ _ notLess notGreater ih =>
    simp only [dite_eq_ite] at ih
    have same : max curTop a.top = max curTop b.top :=
      le_antisymm (not_lt.mp notGreater) (not_lt.mp notLess)
    have spans := (first.canonical.spans a List.mem_cons_self).union
      (second.canonical.spans b List.mem_cons_self)
    have filled : max curTop a.top < min a.bottom b.bottom := by
      refine lt_min first.starts ?_
      rw [same]
      exact second.starts
    have appended := canonical.appendLine filled spans.1 first.endBy
    exact Extends.together first.toToCome second.toToCome same
      ((le_max_left _ _).trans filled.le) (min_le_left _ _) (min_le_right _ _) spans.2 appended
      (ih appended.canonical
        (.of_endBy (first.toToCome.advance (min_le_left _ _)) appended.ends)
        (.of_endBy (second.toToCome.advance (min_le_right _ _)) appended.ends))
  | case6 curTop res as bs exhausted =>
    obtain _ | ⟨a, as⟩ := as
    · obtain ⟨final, cover⟩ := appendRest_extends canonical second
      exact ⟨final, fun x y => by rw [appendRest_nil, cover]; simp⟩
    · obtain _ | ⟨b, bs⟩ := bs
      · obtain ⟨final, cover⟩ := appendRest_extends canonical first
        exact ⟨final, fun x y => by rw [appendRest_nil, cover]; simp⟩
      · exact (exhausted a as b bs rfl rfl).elim

/-- Before anything is walked over. -/
theorem Walks.initially {lines : List SpanLine} (canonical : CanonicalLines lines) :
    Walks .minValue [] lines := by
  refine ⟨⟨canonical, fun line found => ?_⟩, fun _ _ _ found => absurd found List.not_mem_nil⟩
  obtain ⟨rest, rfl⟩ := List.head?_eq_some_iff.mp found
  exact (Int32.minValue_le _).trans_lt canonical.filled

/-! ## `MakeUnion` -/

namespace DlRegion

/-- `MakeUnion`. -/
def makeUnion (skia : SkIRects) (a b : DlRegion) : DlRegion :=
  if a.isEmpty then b
  else if b.isEmpty then a
  else if a.isSimple && skia.contains a.bounds b.bounds then a
  else if b.isSimple && skia.contains b.bounds a.bounds then b
  else ⟨unionLines .minValue [] a.lines b.lines, skia.join a.bounds b.bounds⟩

variable {skia : SkIRects} {a b : DlRegion}

theorem unionLines_initially (first : CanonicalLines a.lines) (second : CanonicalLines b.lines) :
    CanonicalLines (unionLines .minValue [] a.lines b.lines) ∧
      ∀ x y, LinesCover (unionLines .minValue [] a.lines b.lines) x y ↔
        LinesCover a.lines x y ∨ LinesCover b.lines x y := by
  obtain ⟨final, cover⟩ := unionLines_extends CanonicalLines.nil (.initially first)
    (.initially second)
  exact ⟨final, fun x y => by simp [cover, Int32.minValue_le]⟩

theorem canonicalLines_makeUnion (first : CanonicalLines a.lines)
    (second : CanonicalLines b.lines) : CanonicalLines (makeUnion skia a b).lines := by
  unfold makeUnion
  split
  · exact second
  split
  · exact first
  split
  · exact first
  split
  · exact second
  · exact (unionLines_initially first second).1

/-- A region of one rectangle is that rectangle. -/
theorem eq_ofRect (exact : a.Exact) (some : a.isEmpty = false) (simple : a.isSimple = true) :
    a = ofRect a.bounds := by
  obtain ⟨lines, bounds⟩ := a
  obtain _ | ⟨line, rest⟩ := lines
  · contradiction
  obtain _ | ⟨next, rest⟩ := rest
  case cons => simp [isSimple, isComplex] at simple
  have few : line.spans.length ≤ 1 := by
    simp only [isSimple, isComplex, Bool.not_eq_true', Bool.or_eq_false_iff] at simple
    exact not_lt.mp (of_decide_eq_false simple.2)
  obtain ⟨top, bottom, spans⟩ := line
  obtain ⟨someSpans, separate⟩ := exact.canonical.spans ⟨top, bottom, spans⟩ (by simp)
  obtain _ | ⟨span, others⟩ := spans
  · contradiction
  obtain rfl : others = [] := by simpa using few
  have sorted : SkIRect.Sorted ⟨span.left, top, span.right, bottom⟩ :=
    ⟨separate.filled span.band (by simp), exact.canonical.filled⟩
  have same := exact.bounds.unique (DlRegion.Exact.ofRect sorted).bounds
  simp only at same
  subst same
  rfl

theorem cover_of_simple (exact : a.Exact) (some : a.isEmpty = false) (simple : a.isSimple = true)
    {x y : Int32} : LinesCover a.lines x y ↔ a.bounds.Covers x y := by
  rw [eq_ofRect exact some simple]
  exact linesCover_ofRect

/-- A rectangle that contains the bounds of a region covers all of it. -/
theorem cover_of_contains (exact : a.Exact) (other : b.Exact) (some : a.isEmpty = false)
    (simple : a.isSimple = true) (contains : skia.contains a.bounds b.bounds = true) {x y : Int32}
    (covers : LinesCover b.lines x y) : LinesCover a.lines x y := by
  obtain ⟨left, top, right, bottom⟩ := skia.contains_edges contains
  rw [cover_of_simple exact some simple]
  exact SkIRect.Within.covers ⟨left, top, right, bottom⟩ (other.bounds.encloses x y covers)

/-- What `MakeUnion` makes of two regions. -/
theorem makeUnion_exact (first : a.Exact) (second : b.Exact) :
    (makeUnion skia a b).Exact ∧ ∀ x y, LinesCover (makeUnion skia a b).lines x y ↔
      LinesCover a.lines x y ∨ LinesCover b.lines x y := by
  unfold makeUnion
  split
  case isTrue empty =>
    exact ⟨second, fun x y => by simp [first.isEmpty_iff.mp empty x y]⟩
  case isFalse someA =>
  split
  case isTrue empty =>
    exact ⟨first, fun x y => by simp [second.isEmpty_iff.mp empty x y]⟩
  case isFalse someB =>
  rw [Bool.not_eq_true] at someA someB
  split
  case isTrue within =>
    rw [Bool.and_eq_true] at within
    exact ⟨first, fun x y => (or_iff_left_of_imp
      (cover_of_contains first second someA within.1 within.2)).symm⟩
  case isFalse =>
  split
  case isTrue within =>
    rw [Bool.and_eq_true] at within
    exact ⟨second, fun x y => (or_iff_right_of_imp
      (cover_of_contains second first someB within.1 within.2)).symm⟩
  case isFalse =>
  obtain ⟨canonical, cover⟩ := unionLines_initially first.canonical second.canonical
  have coveredA := first.canonical.exists_covered (by simpa [isEmpty] using someA)
  have coveredB := second.canonical.exists_covered (by simpa [isEmpty] using someB)
  refine ⟨⟨canonical, ?_⟩, cover⟩
  rw [skia.join_sorted (first.sorted someA) (second.sorted someB)]
  exact (first.bounds.union second.bounds coveredA coveredB).congr cover

end DlRegion

end FlutterEngine.DisplayList.Geometry
