import FlutterEngine.DisplayList.Geometry.RegionUnion
import Mathlib.Data.List.Induction
import Mathlib.Data.List.Pairwise

/-!
# The rectangles of a region

`DlRegion::getRects`. With `deband` a rectangle that goes on in the next line is taken out of the
vector and put back at its end, longer by that line.
-/

namespace FlutterEngine.DisplayList.Geometry

open FlutterEngine.Std

/-! ## The loops -/

/-- The vector of rectangles, and `previous_span_end`. -/
structure RectVector where
  rects : List SkIRect
  previousSpanEnd : Nat

/-- The search from `iter` back to the beginning: where there is a rectangle of which `rect` is a
vertical continuation. -/
def findContinued (rects : List SkIRect) (rect : SkIRect) : Nat → Option (Nat × SkIRect)
  | 0 => none
  | iter + 1 =>
    match rects[iter]? with
    | none => none
    | some found =>
      if found.bottom < rect.top then none
      else if found.left = rect.left ∧ found.right = rect.right then some (iter, found)
      else findContinued rects rect iter

def RectVector.push (deband : Bool) (vector : RectVector) (rect : SkIRect) : RectVector :=
  match if deband then findContinued vector.rects rect vector.previousSpanEnd else none with
  | some (iter, found) =>
    ⟨vector.rects.eraseIdx iter ++ [{ rect with top := found.top }], vector.previousSpanEnd - 1⟩
  | none => { vector with rects := vector.rects ++ [rect] }

/-- The rectangle of a span of a line. -/
def SpanLine.rect (line : SpanLine) (span : Span) : SkIRect :=
  ⟨span.left, line.top, span.right, line.bottom⟩

def RectVector.pushLine (deband : Bool) (vector : RectVector) (line : SpanLine) : RectVector :=
  let pushed := line.spans.foldl (fun vector span => vector.push deband (line.rect span)) vector
  { pushed with previousSpanEnd := pushed.rects.length }

def DlRegion.getRects (region : DlRegion) (deband : Bool) : List SkIRect :=
  if region.isEmpty then []
  else if region.isSimple then [region.bounds]
  else (region.lines.foldl (RectVector.pushLine deband) ⟨[], 0⟩).rects

/-! ## One line -/

/-- The rectangle of the span continues this one. -/
def Continues (deband : Bool) (line : SpanLine) (span : Span) (rect : SkIRect) : Prop :=
  deband = true ∧ rect.bottom = line.top ∧ rect.left = span.left ∧ rect.right = span.right

instance (deband : Bool) (line : SpanLine) (span : Span) (rect : SkIRect) :
    Decidable (Continues deband line span rect) :=
  inferInstanceAs (Decidable (_ ∧ _ ∧ _ ∧ _))

/-- The rectangle of the span, with the one it continues. -/
def extended (deband : Bool) (rects : List SkIRect) (line : SpanLine) (span : Span) : SkIRect :=
  match rects.find? fun rect => Continues deband line span rect with
  | some found => { line.rect span with top := found.top }
  | none => line.rect span

/-- The rectangles that no span continues. -/
def finished (deband : Bool) (rects : List SkIRect) (line : SpanLine) (spans : List Span) :
    List SkIRect :=
  rects.filter fun rect => ∀ span ∈ spans, ¬Continues deband line span rect

/-- The rectangles after a line. -/
def withLine (deband : Bool) (rects : List SkIRect) (line : SpanLine) : List SkIRect :=
  finished deband rects line line.spans ++ line.spans.map (extended deband rects line)

/-- Rectangles that have no point in common. -/
def SkIRect.Apart (rect other : SkIRect) : Prop := ∀ x y, ¬(rect.Covers x y ∧ other.Covers x y)

/-- What the rectangles of some lines are. -/
structure Tiles (lines : List SpanLine) (rects : List SkIRect) : Prop where
  sorted : ∀ rect ∈ rects, rect.Sorted
  apart : rects.Pairwise SkIRect.Apart
  cover : ∀ x y, (∃ rect ∈ rects, rect.Covers x y) ↔ LinesCover lines x y
  ends : ∀ y, LinesEndBy lines y → ∀ rect ∈ rects, rect.bottom ≤ y
  rising : rects.Pairwise fun rect later => rect.bottom ≤ later.bottom

/-- No rectangle goes on where another one ends. -/
def Merged (rects : List SkIRect) : Prop :=
  ∀ rect ∈ rects, ∀ other ∈ rects, rect.left = other.left → rect.right = other.right →
    rect.bottom ≠ other.top

variable {deband : Bool} {lines : List SpanLine} {rects : List SkIRect} {line : SpanLine}
  {span : Span} {rect other : SkIRect}

instance : Std.Symm SkIRect.Apart where
  symm _ _ apart x y covers := apart x y covers.symm

/-- Two rectangles that the same span continues have a point in common. -/
theorem Continues.not_apart (continues : Continues deband line span rect)
    (otherContinues : Continues deband line span other) (sorted : rect.Sorted)
    (otherSorted : other.Sorted) : ¬rect.Apart other := by
  obtain ⟨-, bottom, left, right⟩ := continues
  obtain ⟨-, otherBottom, otherLeft, otherRight⟩ := otherContinues
  intro apart
  refine apart rect.left (max rect.top other.top) ⟨⟨⟨le_rfl, sorted.1⟩, le_max_left _ _, ?_⟩,
    ⟨?_, ?_⟩, le_max_right _ _, ?_⟩
  · exact max_lt sorted.2 (by rw [bottom, ← otherBottom]; exact otherSorted.2)
  · rw [left, otherLeft]
  · rw [otherRight, ← right]
    exact sorted.1
  · exact max_lt (by rw [otherBottom, ← bottom]; exact sorted.2) otherSorted.2

/-- The rectangle of a span goes over the one it continues, or it continues none. -/
theorem extended_cases (deband : Bool) (rects : List SkIRect) (line : SpanLine) (span : Span) :
    (∃ rect ∈ rects, Continues deband line span rect ∧
        extended deband rects line span = { line.rect span with top := rect.top }) ∨
      (∀ rect ∈ rects, ¬Continues deband line span rect) ∧
        extended deband rects line span = line.rect span := by
  unfold extended
  cases found : rects.find? fun rect => Continues deband line span rect with
  | some rect =>
    have continues : Continues deband line span rect := by simpa using List.find?_some found
    exact .inl ⟨rect, List.mem_of_find?_eq_some found, continues, rfl⟩
  | none => exact .inr ⟨fun rect mem => by simpa using List.find?_eq_none.mp found rect mem, rfl⟩

theorem extended_bottom : (extended deband rects line span).bottom = line.bottom := by
  obtain ⟨_, _, _, same⟩ | ⟨_, same⟩ := extended_cases deband rects line span <;> rw [same] <;> rfl

theorem extended_edges : (extended deband rects line span).left = span.left ∧
    (extended deband rects line span).right = span.right := by
  obtain ⟨_, _, _, same⟩ | ⟨_, same⟩ := extended_cases deband rects line span <;> rw [same] <;>
    exact ⟨rfl, rfl⟩

namespace Tiles

variable (tiles : Tiles lines rects)

include tiles

/-- A span continues no more than one rectangle. -/
theorem continues_unique (mem : rect ∈ rects) (otherMem : other ∈ rects)
    (continues : Continues deband line span rect)
    (otherContinues : Continues deband line span other) : rect = other := by
  by_contra different
  have apart : rect.Apart other :=
    tiles.apart.forall mem otherMem different
  exact continues.not_apart otherContinues (tiles.sorted rect mem) (tiles.sorted other otherMem)
    apart

theorem extended_of_continues (mem : rect ∈ rects) (continues : Continues deband line span rect) :
    extended deband rects line span = { line.rect span with top := rect.top } := by
  obtain ⟨found, foundMem, foundContinues, same⟩ | ⟨none, -⟩ :=
    extended_cases deband rects line span
  · rw [same, tiles.continues_unique foundMem mem foundContinues continues]
  · exact absurd continues (none rect mem)

/-- The rectangle of a span is that of the line, with what it continues. -/
theorem covers_extended (filled : line.top < line.bottom) {x y : Int32} :
    (extended deband rects line span).Covers x y ↔
      (line.rect span).Covers x y ∨
        ∃ rect ∈ rects, Continues deband line span rect ∧ rect.Covers x y := by
  obtain ⟨found, mem, continues, same⟩ | ⟨none, same⟩ := extended_cases deband rects line span
  · obtain ⟨-, bottom, left, right⟩ := id continues
    have tall := (tiles.sorted found mem).2
    rw [same]
    constructor
    · rintro ⟨inside, above, below⟩
      rcases lt_or_ge y line.top with upper | lower
      · refine .inr ⟨found, mem, continues, ?_, above, by rwa [bottom]⟩
        rwa [left, right]
      · exact .inl ⟨inside, lower, below⟩
    · rintro (⟨inside, above, below⟩ | ⟨rect, rectMem, rectContinues, inside, above, below⟩)
      · exact ⟨inside, (bottom ▸ tall.le).trans above, below⟩
      · obtain rfl := tiles.continues_unique rectMem mem rectContinues continues
        rw [left, right] at inside
        exact ⟨inside, above, (bottom ▸ below).trans filled⟩
  · rw [same]
    refine ⟨.inl, ?_⟩
    rintro (covers | ⟨rect, mem, continues, -⟩)
    · exact covers
    · exact absurd continues (none rect mem)

end Tiles

/-- The last line of lines in canonical form. -/
structure EndsWith (lines : List SpanLine) (line : SpanLine) : Prop where
  after : LinesEndBy lines line.top
  filled : line.top < line.bottom
  spans : CanonicalSpans line.spans

theorem CanonicalLines.endsWith (canonical : CanonicalLines (lines ++ [line])) :
    EndsWith lines line where
  after other mem := by
    have ordered := canonical.bands.ordered
    rw [List.map_append, List.map_singleton] at ordered
    exact ((List.pairwise_append.mp ordered).2.2 other.band (List.mem_map_of_mem mem) line.band
      List.mem_cons_self).1
  filled := canonical.bands.filled line.band (List.mem_map_of_mem (by simp))
  spans := canonical.spans line (by simp)

variable {spans : List Span}

theorem CanonicalSpans.ordered (canonical : CanonicalSpans spans) :
    spans.Pairwise fun span next => span.right ≤ next.left :=
  (List.pairwise_map.mp canonical.bands.ordered).imp And.left

theorem CanonicalSpans.filled (canonical : CanonicalSpans spans) :
    ∀ span ∈ spans, span.left < span.right := fun span mem =>
  canonical.bands.filled span.band (List.mem_map_of_mem mem)

theorem linesCover_concat {x y : Int32} : LinesCover (lines ++ [line]) x y ↔
    LinesCover lines x y ∨ ∃ span ∈ line.spans, (line.rect span).Covers x y := by
  rw [linesCover_append, linesCover_cons]
  simp only [linesCover_nil, or_false, SkIRect.Covers, SpanLine.rect, SpansCover]
  refine or_congr_right ⟨?_, ?_⟩
  · rintro ⟨height, span, mem, inside⟩
    exact ⟨span, mem, inside, height⟩
  · rintro ⟨span, mem, inside, height⟩
    exact ⟨height, span, mem, inside⟩

theorem mem_finished : rect ∈ finished deband rects line spans ↔
    rect ∈ rects ∧ ∀ span ∈ spans, ¬Continues deband line span rect := by
  simp [finished]

/-- The rectangles after a line are those of the lines with it. -/
theorem Tiles.withLine (tiles : Tiles lines rects) (ending : EndsWith lines line) :
    Tiles (lines ++ [line]) (withLine deband rects line) where
  sorted rect mem := by
    obtain kept | new := List.mem_append.mp mem
    · exact tiles.sorted rect (mem_finished.mp kept).1
    · obtain ⟨span, found, rfl⟩ := List.mem_map.mp new
      have wide := ending.spans.filled span found
      obtain ⟨other, otherMem, ⟨-, bottom, -⟩, same⟩ | ⟨-, same⟩ :=
        extended_cases deband rects line span
      · rw [same]
        exact ⟨wide, ((tiles.sorted other otherMem).2.trans_eq bottom).trans ending.filled⟩
      · rw [same]
        exact ⟨wide, ending.filled⟩
  apart := by
    refine List.pairwise_append.mpr ⟨tiles.apart.sublist List.filter_sublist, ?_, ?_⟩
    · refine List.pairwise_map.mpr (ending.spans.ordered.imp fun ordered x y covers => ?_)
      have right := covers.1.1.2
      have left := covers.2.1.1
      rw [extended_edges.2] at right
      rw [extended_edges.1] at left
      exact absurd (right.trans_le (ordered.trans left)) (lt_irrefl x)
    · intro rect kept other new x y covers
      obtain ⟨mem, uncontinued⟩ := mem_finished.mp kept
      obtain ⟨span, found, rfl⟩ := List.mem_map.mp new
      obtain ⟨-, below, -⟩ | ⟨other, otherMem, continues, otherCovers⟩ :=
        (tiles.covers_extended ending.filled).mp covers.2
      · exact absurd (covers.1.2.2.trans_le ((tiles.ends _ ending.after rect mem).trans below))
          (lt_irrefl y)
      · have different : rect ≠ other := fun same => uncontinued span found (same ▸ continues)
        exact tiles.apart.forall mem otherMem different x y ⟨covers.1, otherCovers⟩
  cover x y := by
    rw [linesCover_concat, ← tiles.cover x y]
    constructor
    · rintro ⟨rect, mem, covers⟩
      obtain kept | new := List.mem_append.mp mem
      · exact .inl ⟨rect, (mem_finished.mp kept).1, covers⟩
      · obtain ⟨span, found, rfl⟩ := List.mem_map.mp new
        obtain added | ⟨other, otherMem, -, otherCovers⟩ :=
          (tiles.covers_extended ending.filled).mp covers
        · exact .inr ⟨span, found, added⟩
        · exact .inl ⟨other, otherMem, otherCovers⟩
    · rintro (⟨rect, mem, covers⟩ | ⟨span, found, covers⟩)
      · by_cases continued : ∃ span ∈ line.spans, Continues deband line span rect
        · obtain ⟨span, found, continues⟩ := continued
          exact ⟨_, List.mem_append_right _ (List.mem_map_of_mem found),
            (tiles.covers_extended ending.filled).mpr (.inr ⟨rect, mem, continues, covers⟩)⟩
        · refine ⟨rect, List.mem_append_left _ (mem_finished.mpr ⟨mem, fun span found continues =>
            continued ⟨span, found, continues⟩⟩), covers⟩
      · exact ⟨_, List.mem_append_right _ (List.mem_map_of_mem found),
          (tiles.covers_extended ending.filled).mpr (.inl covers)⟩
  ends y ends rect mem := by
    have last : line.bottom ≤ y := ends line (by simp)
    obtain kept | new := List.mem_append.mp mem
    · exact ((tiles.ends _ ending.after rect (mem_finished.mp kept).1).trans
        ending.filled.le).trans last
    · obtain ⟨span, -, rfl⟩ := List.mem_map.mp new
      exact extended_bottom.trans_le last
  rising := by
    refine List.pairwise_append.mpr ⟨tiles.rising.sublist List.filter_sublist, ?_, ?_⟩
    · refine List.pairwise_map.mpr (List.pairwise_of_forall fun span other => ?_)
      rw [extended_bottom, extended_bottom]
    · intro rect kept other new
      obtain ⟨span, -, rfl⟩ := List.mem_map.mp new
      rw [extended_bottom]
      exact (tiles.ends _ ending.after rect (mem_finished.mp kept).1).trans ending.filled.le

theorem Merged.withLine (merged : Merged rects) (tiles : Tiles lines rects)
    (ending : EndsWith lines line) : Merged (withLine true rects line) := by
  intro rect mem other otherMem left right
  obtain kept | new := List.mem_append.mp mem
  · obtain ⟨old, uncontinued⟩ := mem_finished.mp kept
    obtain otherKept | otherNew := List.mem_append.mp otherMem
    · exact merged rect old other (mem_finished.mp otherKept).1 left right
    · obtain ⟨span, found, rfl⟩ := List.mem_map.mp otherNew
      obtain ⟨first, firstMem, ⟨-, -, firstLeft, firstRight⟩, same⟩ | ⟨-, same⟩ :=
        extended_cases true rects line span
      · rw [same] at left right ⊢
        exact merged rect old first firstMem (left.trans firstLeft.symm)
          (right.trans firstRight.symm)
      · rw [same] at left right ⊢
        exact fun touches => uncontinued span found ⟨rfl, touches, left, right⟩
  · obtain ⟨span, found, rfl⟩ := List.mem_map.mp new
    rw [extended_bottom]
    have above : other.top < line.bottom := by
      have next : Tiles (lines ++ [line]) (Geometry.withLine true rects line) :=
        tiles.withLine ending
      have tall := (next.sorted other otherMem).2
      obtain otherKept | otherNew := List.mem_append.mp otherMem
      · exact tall.trans_le ((tiles.ends _ ending.after other (mem_finished.mp otherKept).1).trans
          ending.filled.le)
      · obtain ⟨span, -, rfl⟩ := List.mem_map.mp otherNew
        rwa [extended_bottom] at tall
    exact above.ne'

/-! ## The loops make these rectangles -/

/-- The search finds a rectangle that the span continues, or there is none before `iter`. -/
theorem findContinued_spec {kept : List SkIRect} (new : List SkIRect) (span : Span)
    (rising : kept.Pairwise fun rect later => rect.bottom ≤ later.bottom)
    (ends : ∀ rect ∈ kept, rect.bottom ≤ line.top) {iter : Nat} (within : iter ≤ kept.length) :
    (∃ index found, findContinued (kept ++ new) (line.rect span) iter = some (index, found) ∧
        kept[index]? = some found ∧ Continues true line span found) ∨
      findContinued (kept ++ new) (line.rect span) iter = none ∧
        ∀ rect ∈ kept.take iter, ¬Continues true line span rect := by
  induction iter with
  | zero => exact .inr ⟨rfl, by simp⟩
  | succ iter ih =>
    have bound : iter < kept.length := within
    have read : kept[iter]? = some kept[iter] := List.getElem?_eq_getElem bound
    have taken : kept.take (iter + 1) = kept.take iter ++ [kept[iter]] :=
      List.take_succ_eq_append_getElem bound
    have atMost := ends kept[iter] (List.getElem_mem bound)
    simp only [findContinued, List.getElem?_append_left bound, read, taken]
    split
    · next earlier =>
        refine .inr ⟨rfl, fun rect mem continues => ?_⟩
        have last : rect.bottom ≤ kept[iter].bottom := by
          obtain before | same := List.mem_append.mp mem
          · have pairs := rising.sublist (List.take_sublist (iter + 1) kept)
            rw [taken] at pairs
            exact (List.pairwise_append.mp pairs).2.2 rect before _ List.mem_cons_self
          · rw [List.mem_singleton.mp same]
        exact absurd (continues.2.1.symm.trans_le last) (not_le.mpr earlier)
    · next reaches =>
        split
        · next same =>
            exact .inl ⟨iter, kept[iter], rfl, read, rfl, le_antisymm atMost (not_lt.mp reaches),
              same⟩
        · next different =>
            obtain found | ⟨none, before⟩ := ih (Nat.le_of_lt bound)
            · exact .inl found
            · refine .inr ⟨none, fun rect mem continues => ?_⟩
              obtain earlier | same := List.mem_append.mp mem
              · exact before rect earlier continues
              · rw [List.mem_singleton.mp same] at continues
                exact different continues.2.2

/-- Without its only entry that passes, a list is what does not pass. -/
theorem eraseIdx_eq_filter {α : Type} {pass : α → Prop} [DecidablePred pass] {entries : List α}
    {index : Nat} {found : α} (read : entries[index]? = some found) (passes : pass found)
    (unique : entries.Pairwise fun entry other => ¬(pass entry ∧ pass other)) :
    entries.eraseIdx index = entries.filter fun entry => ¬pass entry := by
  induction entries generalizing index with
  | nil => simp at read
  | cons first rest ih =>
    obtain ⟨alone, unique⟩ := List.pairwise_cons.mp unique
    cases index with
    | zero =>
      obtain rfl : first = found := by simpa using read
      have none : ∀ entry ∈ rest, decide (¬pass entry) = true := fun entry mem =>
        decide_eq_true fun other => alone entry mem ⟨passes, other⟩
      rw [List.eraseIdx_cons_zero, List.filter_cons_of_neg (by simpa using passes),
        List.filter_eq_self.mpr none]
    | succ index =>
      have later : rest[index]? = some found := by simpa using read
      have fails : ¬pass first := fun also =>
        alone found (List.mem_of_getElem? later) ⟨also, passes⟩
      rw [List.eraseIdx_cons_succ, List.filter_cons_of_pos (by simpa using fails),
        ih later unique]

theorem finished_concat (done : List Span) (span : Span) :
    finished deband rects line (done ++ [span]) =
      (finished deband rects line done).filter fun rect => ¬Continues deband line span rect := by
  simp only [finished, List.filter_filter]
  refine List.filter_congr fun rect _ => ?_
  simp [and_comm, or_imp, forall_and]

/-- The vector after some spans of a line. -/
def vectorAfter (deband : Bool) (rects : List SkIRect) (line : SpanLine) (done : List Span) :
    RectVector :=
  ⟨finished deband rects line done ++ done.map (extended deband rects line),
    (finished deband rects line done).length⟩

theorem push_vectorAfter (tiles : Tiles lines rects) (ending : EndsWith lines line)
    {done : List Span} {span : Span} (fresh : span ∉ done) :
    (vectorAfter deband rects line done).push deband (line.rect span) =
      vectorAfter deband rects line (done ++ [span]) := by
  have unchanged (none : ∀ rect ∈ finished deband rects line done,
      ¬Continues deband line span rect) :
      finished deband rects line (done ++ [span]) = finished deband rects line done := by
    rw [finished_concat]
    exact List.filter_eq_self.mpr fun rect mem => decide_eq_true (none rect mem)
  have alone (none : ∀ rect ∈ finished deband rects line done,
      ¬Continues deband line span rect) :
      extended deband rects line span = line.rect span := by
    obtain ⟨found, mem, continues, -⟩ | ⟨-, same⟩ := extended_cases deband rects line span
    · refine absurd continues (none found (mem_finished.mpr ⟨mem, fun other otherMem also => ?_⟩))
      refine fresh ?_
      obtain ⟨left, right⟩ := span
      obtain ⟨otherLeft, otherRight⟩ := other
      obtain rfl : left = otherLeft := continues.2.2.1.symm.trans also.2.2.1
      obtain rfl : right = otherRight := continues.2.2.2.symm.trans also.2.2.2
      exact otherMem
    · exact same
  cases deband with
  | false =>
    have none : ∀ rect ∈ finished false rects line done, ¬Continues false line span rect :=
      fun _ _ continues => absurd continues.1 Bool.false_ne_true
    rw [RectVector.push, if_neg Bool.false_ne_true]
    simp only [vectorAfter, unchanged none, List.map_append, List.map_singleton, alone none,
      List.append_assoc]
  | true =>
    have sublist : (finished true rects line done).Sublist rects := List.filter_sublist
    have rising := tiles.rising.sublist sublist
    have ends : ∀ rect ∈ finished true rects line done, rect.bottom ≤ line.top :=
      fun rect mem => tiles.ends _ ending.after rect (mem_finished.mp mem).1
    rw [RectVector.push, if_pos rfl]
    obtain ⟨index, found, search, read, continues⟩ | ⟨search, none⟩ :=
      findContinued_spec (done.map (extended true rects line)) span rising ends (Nat.le_refl _)
    · have old : found ∈ rects := (mem_finished.mp (List.mem_of_getElem? read)).1
      have bound : index < (finished true rects line done).length :=
        (List.getElem?_eq_some_iff.mp read).1
      have unique : (finished true rects line done).Pairwise fun rect other =>
          ¬(Continues true line span rect ∧ Continues true line span other) := by
        refine List.Pairwise.imp_of_mem ?_ (tiles.apart.sublist sublist)
        intro rect other mem otherMem apart both
        exact both.1.not_apart both.2 (tiles.sorted rect (mem_finished.mp mem).1)
          (tiles.sorted other (mem_finished.mp otherMem).1) apart
      have erased := eraseIdx_eq_filter read continues unique
      rw [← finished_concat] at erased
      have length := congrArg List.length erased
      rw [List.length_eraseIdx_of_lt bound] at length
      simp only [vectorAfter, search, List.eraseIdx_append_of_lt_length bound, erased, length,
        tiles.extended_of_continues old continues, List.map_append, List.map_singleton,
        List.append_assoc]
    · rw [List.take_length] at none
      simp only [vectorAfter, search, unchanged none, alone none, List.map_append,
        List.map_singleton, List.append_assoc]

theorem pushLine_eq (tiles : Tiles lines rects) (ending : EndsWith lines line) :
    RectVector.pushLine deband ⟨rects, rects.length⟩ line =
      ⟨withLine deband rects line, (withLine deband rects line).length⟩ := by
  have distinct : line.spans.Nodup := by
    refine List.Pairwise.imp_of_mem ?_ ending.spans.ordered
    rintro span _ mem - ordered rfl
    exact absurd (ordered.trans_lt (ending.spans.filled span mem)) (lt_irrefl _)
  have pushed (rest done : List Span) (split : line.spans = done ++ rest) :
      rest.foldl (fun vector span => vector.push deband (line.rect span))
        (vectorAfter deband rects line done) = vectorAfter deband rects line line.spans := by
    induction rest generalizing done with
    | nil => rw [split, List.append_nil, List.foldl_nil]
    | cons span rest ih =>
      have fresh : span ∉ done := by
        rw [split] at distinct
        exact fun mem => (List.nodup_append.mp distinct).2.2 span mem span List.mem_cons_self rfl
      rw [List.foldl_cons, push_vectorAfter tiles ending fresh]
      exact ih (done ++ [span]) (by rw [split, List.append_assoc, List.singleton_append])
  have start : vectorAfter deband rects line [] = ⟨rects, rects.length⟩ := by
    simp [vectorAfter, finished]
  have whole := pushed line.spans [] rfl
  rw [start] at whole
  rw [RectVector.pushLine, whole]
  rfl

theorem CanonicalLines.front (canonical : CanonicalLines (lines ++ [line])) :
    CanonicalLines lines := by
  refine ⟨fun other mem => canonical.spans other (List.mem_append_left _ mem), ?_, ?_⟩
  · exact fun band mem => canonical.bands.filled band (by simp [List.map_append, mem])
  · exact canonical.bands.ordered.sublist ((List.sublist_append_left lines [line]).map _)

theorem tiles_nil : Tiles [] [] where
  sorted _ mem := absurd mem List.not_mem_nil
  apart := List.Pairwise.nil
  cover x y := by simp [linesCover_nil]
  ends _ _ _ mem := absurd mem List.not_mem_nil
  rising := List.Pairwise.nil

/-- A rectangle for each span of each line. -/
def rectsOfLines (lines : List SpanLine) : List SkIRect :=
  lines.flatMap fun line => line.spans.map line.rect

theorem withLine_false : withLine false rects line = rects ++ line.spans.map line.rect := by
  have all : finished false rects line line.spans = rects :=
    List.filter_eq_self.mpr fun rect _ => by simp [Continues]
  have each : extended false rects line = line.rect := by
    funext span
    obtain ⟨_, -, continues, -⟩ | ⟨-, same⟩ := extended_cases false rects line span
    · exact absurd continues.1 Bool.false_ne_true
    · exact same
  rw [withLine, all, each]

/-- What the loops over the lines leave. -/
structure Gives (deband : Bool) (lines : List SpanLine) (rects : List SkIRect) : Prop
    extends Tiles lines rects where
  lineByLine : deband = false → rects = rectsOfLines lines
  merged : deband = true → Merged rects

theorem Gives.withLine (gives : Gives deband lines rects)
    (canonical : CanonicalLines (lines ++ [line])) :
    Gives deband (lines ++ [line]) (withLine deband rects line) where
  toTiles := gives.toTiles.withLine canonical.endsWith
  lineByLine off := by
    subst off
    rw [withLine_false, gives.lineByLine rfl, rectsOfLines, rectsOfLines, List.flatMap_append,
      List.flatMap_singleton]
  merged on := by
    subst on
    exact (gives.merged rfl).withLine gives.toTiles canonical.endsWith

theorem gives_nil : Gives deband [] [] where
  toTiles := tiles_nil
  lineByLine _ := rfl
  merged _ _ mem := absurd mem List.not_mem_nil

theorem foldl_pushLine_gives (deband : Bool) (canonical : CanonicalLines lines) :
    ∃ rects, lines.foldl (RectVector.pushLine deband) ⟨[], 0⟩ = ⟨rects, rects.length⟩ ∧
      Gives deband lines rects := by
  induction lines using List.reverseRecOn with
  | nil => exact ⟨[], rfl, gives_nil⟩
  | append_singleton lines line ih =>
    obtain ⟨rects, pushed, gives⟩ := ih canonical.front
    refine ⟨_, ?_, gives.withLine canonical⟩
    rw [List.foldl_append, pushed]
    exact pushLine_eq gives.toTiles canonical.endsWith

namespace DlRegion

theorem getRects_gives {region : DlRegion} (exact' : region.Exact) (deband : Bool) :
    Gives deband region.lines (region.getRects deband) := by
  unfold getRects
  split
  · next empty =>
      rw [List.isEmpty_iff.mp empty]
      exact gives_nil
  next some =>
  rw [Bool.not_eq_true] at some
  split
  · next simple =>
      have same := eq_ofRect exact' some simple
      have canonical := exact'.canonical
      rw [same] at canonical ⊢
      have single : Gives deband ([] ++ [_]) _ := gives_nil.withLine canonical
      exact single
  · obtain ⟨rects, pushed, gives⟩ := foldl_pushLine_gives deband exact'.canonical
    rw [pushed]
    exact gives

/-- The rectangles of a region are filled, have no points in common and cover it. There is one for
each span of each line, or none goes on where another one ends. -/
theorem getRects_tile {region : DlRegion} (exact' : region.Exact) (deband : Bool) :
    (∀ rect ∈ region.getRects deband, rect.Sorted) ∧
      (region.getRects deband).Pairwise SkIRect.Apart ∧
      (∀ x y, (∃ rect ∈ region.getRects deband, rect.Covers x y) ↔ LinesCover region.lines x y) ∧
      (deband = false → region.getRects deband = rectsOfLines region.lines) ∧
      (deband = true → Merged (region.getRects deband)) := by
  have gives := getRects_gives exact' deband
  exact ⟨gives.sorted, gives.apart, gives.cover, gives.lineByLine, gives.merged⟩

/-- The region of two squares that overlap. -/
def squares : DlRegion := makeUnion .byEdges (ofRect ⟨0, 0, 2, 2⟩) (ofRect ⟨1, 1, 3, 3⟩)

theorem getRects_tile_squares :
    (∀ rect ∈ squares.getRects true, rect.Sorted) ∧
      (squares.getRects true).Pairwise SkIRect.Apart ∧
      (∀ x y, (∃ rect ∈ squares.getRects true, rect.Covers x y) ↔ LinesCover squares.lines x y) ∧
      (true = false → squares.getRects true = rectsOfLines squares.lines) ∧
      (true = true → Merged (squares.getRects true)) :=
  getRects_tile (makeUnion_exact (.ofRect (by decide +kernel)) (.ofRect (by decide +kernel))).1 true

end DlRegion

end FlutterEngine.DisplayList.Geometry
