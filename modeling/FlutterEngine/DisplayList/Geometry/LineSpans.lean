import FlutterEngine.DisplayList.Geometry.DlRegion

/-!
# The spans of a line

How the spans of two lines are united and intersected, and those of rectangles put together.
-/

namespace FlutterEngine.DisplayList.Geometry

open FlutterEngine.Std

variable {x : Int32} {span last : Span} {rest spans others front res : List Span}

@[simp]
theorem spansCover_nil : ¬SpansCover [] x := by
  rintro ⟨span, found, -⟩
  contradiction

@[simp]
theorem spansCover_cons :
    SpansCover (span :: rest) x ↔ (span.left ≤ x ∧ x < span.right) ∨ SpansCover rest x := by
  simp only [SpansCover, List.mem_cons, or_and_right, exists_or, exists_eq_left]

@[simp]
theorem spansCover_append :
    SpansCover (spans ++ others) x ↔ SpansCover spans x ∨ SpansCover others x := by
  simp only [SpansCover, List.mem_append, or_and_right, exists_or]

/-- Spans that are not empty and do not touch each other, in order. -/
def Separate (spans : List Span) : Prop := Band.Canonical (spans.map Span.band)

theorem Separate.filled (separate : Separate spans) :
    ∀ span ∈ spans, span.left < span.right :=
  fun span found => Band.Canonical.filled separate span.band (List.mem_map_of_mem found)

theorem Separate.tail (separate : Separate (span :: rest)) :
    Separate rest :=
  Band.Canonical.tail separate

theorem Separate.ahead (separate : Separate (span :: rest)) :
    ∀ next ∈ rest, span.right < next.left := by
  intro next found
  have before := (List.pairwise_cons.mp (Band.Canonical.ordered separate)).1 next.band
    (List.mem_map_of_mem found)
  exact before.1.lt_of_ne fun touches => before.2 touches rfl

theorem Separate.cons (separate : Separate rest)
    (filled : span.left < span.right) (ahead : ∀ next ∈ rest, span.right < next.left) :
    Separate (span :: rest) := by
  constructor
  · intro band found
    obtain rfl | later := List.mem_cons.mp found
    · exact filled
    · exact Band.Canonical.filled separate band later
  · refine List.pairwise_cons.mpr ⟨fun band found => ?_, Band.Canonical.ordered separate⟩
    obtain ⟨next, member, rfl⟩ := List.mem_map.mp found
    exact ⟨(ahead next member).le, fun touches => absurd touches (ahead next member).ne⟩

/-- What the later spans cover is beyond the first. -/
theorem Separate.beyond
    (separate : Separate (span :: rest)) (covered : SpansCover rest x) : span.right < x := by
  obtain ⟨next, found, starts, -⟩ := covered
  exact (separate.ahead next found).trans_le starts

theorem Separate.before_last
    (separate : Separate (front ++ [last])) : ∀ other ∈ front, other.right < last.left := by
  intro other found
  have ordered := Band.Canonical.ordered separate
  rw [List.map_append, List.map_singleton] at ordered
  have before := (List.pairwise_append.mp ordered).2.2 other.band (List.mem_map_of_mem found)
    last.band (List.mem_singleton_self _)
  exact before.1.lt_of_ne fun touches => before.2 touches rfl

/-- The last span grows. -/
theorem Separate.grow {right : Int32}
    (separate : Separate (front ++ [last])) (grows : last.right ≤ right) :
    Separate (front ++ [{ last with right := right }]) := by
  rw [Separate, List.map_append, List.map_singleton] at separate ⊢
  exact Band.Canonical.grow separate grows

theorem Separate.canonical (separate : Separate spans) (some : spans ≠ []) :
    CanonicalSpans spans :=
  ⟨some, separate⟩

/-- A span beyond all others. -/
theorem Separate.concat (separate : Separate spans)
    (filled : span.left < span.right) (beyond : ∀ other ∈ spans, other.right < span.left) :
    Separate (spans ++ [span]) := by
  rw [Separate, List.map_append, List.map_singleton]
  refine Band.Canonical.concat separate filled ?_ fun last found touches => ?_
  · intro band found
    obtain ⟨other, member, rfl⟩ := List.mem_map.mp found
    exact (beyond other member).le
  · obtain ⟨other, member, rfl⟩ := List.mem_map.mp (List.mem_of_mem_getLast? found)
    exact absurd touches (beyond other member).ne

/-! ## Union -/

/-- `OrderedSpanAccumulator::accumulate`, where the spans so far are those before the length. -/
def accumulate (res : List Span) (span : Span) : List Span :=
  match res.getLast? with
  | none => [span]
  | some last =>
    if last.right < span.left then res ++ [span]
    else if last.right < span.right then res.dropLast ++ [{ last with right := span.right }]
    else res

/-- `unionLineSpans`; neither line is without spans when it starts. -/
def unionLineSpans (res : List Span) : List Span → List Span → List Span
  | [], spans => spans.foldl accumulate res
  | spans, [] => spans.foldl accumulate res
  | first :: rest, second :: others =>
    if first.left < second.left then
      unionLineSpans (accumulate res first) rest (second :: others)
    else unionLineSpans (accumulate res second) (first :: rest) others

/-- No span so far starts after a place. -/
def StartBy (spans : List Span) (place : Int32) : Prop := ∀ span ∈ spans, span.left ≤ place

theorem StartBy.mono {place later : Int32} (starts : StartBy spans place)
    (after : place ≤ later) : StartBy spans later :=
  fun span found => (starts span found).trans after

/-- What is made of spans and more points. -/
structure Gathered (spans : List Span) (more : Int32 → Prop) (result : List Span) : Prop where
  separate : Separate result
  cover : ∀ x, SpansCover result x ↔ SpansCover spans x ∨ more x

theorem Gathered.some {result : List Span} {more : Int32 → Prop}
    (gathered : Gathered spans more result) (covered : more x) : result ≠ [] := by
  rintro rfl
  exact spansCover_nil ((gathered.cover x).mpr (.inr covered))

/-- One more span, that does not start before the others. -/
theorem accumulate_spec (separate : Separate res)
    (filled : span.left < span.right) (starts : StartBy res span.left) :
    Gathered res (fun x => span.left ≤ x ∧ x < span.right) (accumulate res span) ∧
      StartBy (accumulate res span) span.left := by
  obtain empty | ⟨front, last, split⟩ := List.eq_nil_or_concat res
  · subst empty
    refine ⟨⟨Band.canonical_singleton filled, by simp [accumulate]⟩, ?_⟩
    intro other found
    rw [List.mem_singleton.mp found]
  · rw [List.concat_eq_append] at split
    subst split
    have lastStarts := starts last (by simp)
    have lastFilled := separate.filled last (by simp)
    rw [accumulate, List.getLast?_concat]
    simp only [List.dropLast_concat]
    split
    case isTrue apart =>
      refine ⟨⟨separate.concat filled ?_, by simp [or_assoc]⟩, ?_⟩
      · intro other found
        obtain earlier | same := List.mem_append.mp found
        · exact ((separate.before_last other earlier).trans lastFilled).trans apart
        · rwa [List.mem_singleton.mp same]
      · intro other found
        obtain earlier | same := List.mem_append.mp found
        · exact starts other earlier
        · rw [List.mem_singleton.mp same]
    case isFalse touching =>
      rw [not_lt] at touching
      split
      case isTrue longer =>
        refine ⟨⟨separate.grow longer.le, fun x => ?_⟩, ?_⟩
        · simp only [spansCover_append, spansCover_cons, spansCover_nil, or_false, or_assoc]
          refine or_congr_right ⟨?_, ?_⟩
          · rintro ⟨after, before⟩
            obtain inside | beyond := lt_or_ge x last.right
            · exact .inl ⟨after, inside⟩
            · exact .inr ⟨touching.trans beyond, before⟩
          · rintro (⟨after, before⟩ | ⟨after, before⟩)
            · exact ⟨after, before.trans longer⟩
            · exact ⟨lastStarts.trans after, before⟩
        · intro other found
          obtain earlier | same := List.mem_append.mp found
          · exact starts other (List.mem_append_left _ earlier)
          · rwa [List.mem_singleton.mp same]
      case isFalse inside =>
        rw [not_lt] at inside
        refine ⟨⟨separate, fun x => (or_iff_left_of_imp ?_).symm⟩, starts⟩
        rintro ⟨after, before⟩
        exact ⟨last, by simp, lastStarts.trans after, before.trans_le inside⟩

/-- More spans, that start in order and not before those there are. -/
theorem foldl_accumulate_spec (separate : Separate res)
    (filled : ∀ span ∈ spans, span.left < span.right)
    (sorted : spans.Pairwise fun first second => first.left ≤ second.left)
    (starts : ∀ span ∈ spans, StartBy res span.left) :
    Gathered res (SpansCover spans) (spans.foldl accumulate res) := by
  induction spans generalizing res with
  | nil => exact ⟨separate, by simp⟩
  | cons span rest ih =>
    obtain ⟨before, sorted⟩ := List.pairwise_cons.mp sorted
    obtain ⟨⟨nextSeparate, cover⟩, nextStarts⟩ := accumulate_spec separate
      (filled span List.mem_cons_self) (starts span List.mem_cons_self)
    obtain ⟨finalSeparate, finalCover⟩ := ih nextSeparate
      (fun other found => filled other (List.mem_cons_of_mem _ found)) sorted
      fun other found => nextStarts.mono (before other found)
    refine ⟨finalSeparate, fun x => ?_⟩
    rw [List.foldl_cons, finalCover, cover, spansCover_cons, or_assoc]

theorem Separate.sorted (separate : Separate spans) :
    spans.Pairwise fun first second => first.left ≤ second.left := by
  induction spans with
  | nil => exact List.Pairwise.nil
  | cons span rest ih =>
    refine List.pairwise_cons.mpr ⟨fun next found => ?_, ih separate.tail⟩
    exact ((separate.filled span List.mem_cons_self).trans (separate.ahead next found)).le

/-- `unionLineSpans` goes on with two lines of which neither starts before the spans so far. -/
theorem unionLineSpans_gathered (separate : Separate res)
    (line : Separate spans) (other : Separate others)
    (starts : ∀ span ∈ spans, StartBy res span.left)
    (otherStarts : ∀ span ∈ others, StartBy res span.left) :
    Gathered res (fun x => SpansCover spans x ∨ SpansCover others x)
      (unionLineSpans res spans others) := by
  fun_induction unionLineSpans res spans others with
  | case1 res others =>
    obtain ⟨result, cover⟩ := foldl_accumulate_spec separate other.filled other.sorted otherStarts
    exact ⟨result, fun x => by rw [cover]; simp⟩
  | case2 res spans =>
    obtain ⟨result, cover⟩ := foldl_accumulate_spec separate line.filled line.sorted starts
    exact ⟨result, fun x => by rw [cover]; simp⟩
  | case3 res first rest second others less ih =>
    obtain ⟨⟨nextSeparate, cover⟩, nextStarts⟩ := accumulate_spec separate
      (line.filled first List.mem_cons_self) (starts first List.mem_cons_self)
    have ordered := List.pairwise_cons.mp line.sorted
    have otherOrdered := List.pairwise_cons.mp other.sorted
    obtain ⟨result, finalCover⟩ := ih nextSeparate line.tail other
      (fun span found => nextStarts.mono (ordered.1 span found)) fun span found => by
        obtain rfl | later := List.mem_cons.mp found
        · exact nextStarts.mono less.le
        · exact nextStarts.mono (less.le.trans (otherOrdered.1 span later))
    refine ⟨result, fun x => ?_⟩
    rw [finalCover, cover, @spansCover_cons _ first]
    tauto
  | case4 res first rest second others notLess ih =>
    rw [not_lt] at notLess
    obtain ⟨⟨nextSeparate, cover⟩, nextStarts⟩ := accumulate_spec separate
      (other.filled second List.mem_cons_self) (otherStarts second List.mem_cons_self)
    have ordered := List.pairwise_cons.mp line.sorted
    have otherOrdered := List.pairwise_cons.mp other.sorted
    obtain ⟨result, finalCover⟩ := ih nextSeparate line other.tail
      (fun span found => by
        obtain rfl | later := List.mem_cons.mp found
        · exact nextStarts.mono notLess
        · exact nextStarts.mono (notLess.trans (ordered.1 span later)))
      fun span found => nextStarts.mono (otherOrdered.1 span found)
    refine ⟨result, fun x => ?_⟩
    rw [finalCover, cover, @spansCover_cons _ second]
    tauto

theorem CanonicalSpans.union (line : CanonicalSpans spans) (other : CanonicalSpans others) :
    CanonicalSpans (unionLineSpans [] spans others) ∧
      ∀ x, SpansCover (unionLineSpans [] spans others) x ↔
        SpansCover spans x ∨ SpansCover others x := by
  have gathered := @unionLineSpans_gathered _ _ [] Band.canonical_nil line.bands other.bands
    (fun _ _ _ found => absurd found List.not_mem_nil)
    fun _ _ _ found => absurd found List.not_mem_nil
  obtain ⟨x, covered⟩ := line.exists_covered
  refine ⟨gathered.separate.canonical (gathered.some (x := x) (.inl covered)), fun x => ?_⟩
  rw [gathered.cover]
  simp

/-! ## Intersection -/

/-- `intersectLineSpans`. -/
def intersectLineSpans : List Span → List Span → List Span
  | first :: rest, second :: others =>
    if first.right ≤ second.left then intersectLineSpans rest (second :: others)
    else if second.right ≤ first.left then intersectLineSpans (first :: rest) others
    else
      ⟨max first.left second.left, min first.right second.right⟩ ::
        intersectLineSpans
          (if first.right = min first.right second.right then rest else first :: rest)
          (if second.right = min first.right second.right then others else second :: others)
  | _, _ => []
termination_by spans others => spans.length + others.length
decreasing_by
  all_goals simp only [List.length_cons]
  · omega
  · omega
  · obtain least | least := min_choice first.right second.right <;>
      rw [least] <;> split <;> split <;> simp_all <;> omega

/-- Two spans of which one ends before the other starts have no point in common. -/
theorem not_covered_of_apart {first second : Span}
    (other : Separate (second :: others)) (apart : first.right ≤ second.left)
    (covered : SpansCover (second :: others) x) : ¬x < first.right := by
  have after : second.left ≤ x := Band.Canonical.lower_le other (spansCover_iff.mp covered)
  exact not_lt.mpr (apart.trans after)

theorem Separate.intersect (line : Separate spans) (other : Separate others) :
    Separate (intersectLineSpans spans others) ∧
      ∀ x, SpansCover (intersectLineSpans spans others) x ↔
        SpansCover spans x ∧ SpansCover others x := by
  fun_induction intersectLineSpans spans others with
  | case1 first rest second others apart ih =>
    obtain ⟨result, cover⟩ := ih line.tail other
    refine ⟨result, fun x => ?_⟩
    rw [cover, @spansCover_cons _ first, or_and_right]
    refine (or_iff_right_of_imp ?_).symm
    rintro ⟨inside, covered⟩
    exact absurd inside.2 (not_covered_of_apart other apart covered)
  | case2 first rest second others _ apart ih =>
    obtain ⟨result, cover⟩ := ih line other.tail
    refine ⟨result, fun x => ?_⟩
    rw [cover, @spansCover_cons _ second, and_or_left]
    refine (or_iff_right_of_imp ?_).symm
    rintro ⟨covered, inside⟩
    exact absurd inside.2 (not_covered_of_apart line apart covered)
  | case3 first rest second others later earlier ih =>
    rw [not_le] at later earlier
    simp only [dite_eq_ite] at ih
    have filled := line.filled first List.mem_cons_self
    have otherFilled := other.filled second List.mem_cons_self
    obtain ⟨result, cover⟩ := ih
      (by split
          · exact line.tail
          · exact line)
      (by split
          · exact other.tail
          · exact other)
    refine ⟨result.cons (max_lt (lt_min filled earlier) (lt_min later otherFilled)) ?_, ?_⟩
    · -- What follows is beyond the span that ends first.
      intro next found
      have covered := (cover next.left).mp ⟨next, found, le_rfl, result.filled next found⟩
      obtain least | least := min_choice first.right second.right
      · have beyond := covered.1
        rw [if_pos least.symm] at beyond
        exact least.trans_lt (line.beyond beyond)
      · have beyond := covered.2
        rw [if_pos least.symm] at beyond
        exact least.trans_lt (other.beyond beyond)
    · intro x
      have beyond : SpansCover rest x → first.right < x := line.beyond
      have otherBeyond : SpansCover others x → second.right < x := other.beyond
      rw [spansCover_cons, cover, spansCover_cons, spansCover_cons]
      grind [spansCover_cons]
  | case4 spans others exhausted =>
    refine ⟨Band.canonical_nil, fun x => ?_⟩
    obtain _ | ⟨first, rest⟩ := spans
    · simp
    · obtain _ | ⟨second, others⟩ := others
      · simp
      · exact (exhausted first rest second others rfl rfl).elim

end FlutterEngine.DisplayList.Geometry
