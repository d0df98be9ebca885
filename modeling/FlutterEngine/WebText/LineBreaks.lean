import Mathlib.Data.List.Induction
import FlutterEngine.WebText.FragmentSplits
import FlutterEngine.WebText.LineBuilder

/-!
# Breaking a line

A line that overflows is broken: its fragments, one of them split perhaps, are shared between the
line and the next one. The line keeps some, and the next one gets less than the line had.
-/

namespace FlutterEngine.WebText

open FlutterEngine.Std

variable {Style Width : Type} [AddCommGroup Width] [LinearOrder Width]
  {spanometer : Spanometer Style Width} {fragment : LayoutFragment Style Width}
  {fragments : List (LayoutFragment Style Width)} {builder : LineBuilder Style Width}

/-! ## Measuring -/

namespace Spanometer

variable {span : ParagraphSpan Style Width} {start low high stop : Nat}
  {availableWidth : WithTop Width}

theorem le_breakWithin (spanometer : Spanometer Style Width) (span : ParagraphSpan Style Width)
    (start : Nat) (availableWidth : WithTop Width) (order : low ≤ high) :
    low ≤ spanometer.breakWithin span start availableWidth low high ∧
      spanometer.breakWithin span start availableWidth low high ≤ high := by
  fun_induction spanometer.breakWithin span start availableWidth low high with
  | case1 low high apart mid width less ih =>
    have middle := ih (by omega)
    omega
  | case2 low high apart mid width less more ih =>
    have middle := ih (by omega)
    omega
  | case3 low high apart mid width less more => omega
  | case4 low high apart => exact ⟨le_rfl, order⟩

/-- The point where a range is broken lies in it, and behind its start unless that is allowed. -/
theorem forceBreak_spec (spanometer : Spanometer Style Width) (availableWidth : WithTop Width)
    {allowEmpty : Bool} (within : isWithin span start stop = true)
    (filled : allowEmpty = true ∨ start < stop) :
    ∃ point, spanometer.forceBreak span start stop availableWidth allowEmpty = some point ∧
      start ≤ point ∧ point ≤ stop ∧ (allowEmpty = true ∨ start < point) := by
  have order : start ≤ stop := by
    simp only [isWithin, Bool.and_eq_true, decide_eq_true_iff] at within
    exact within.2
  unfold forceBreak
  rw [if_pos within]
  split
  · cases allowEmpty with
    | true => exact ⟨start, rfl, le_rfl, order, .inl rfl⟩
    | false =>
      have some := filled.resolve_left Bool.false_ne_true
      exact ⟨start + 1, rfl, Nat.le_succ start, some, .inr (Nat.lt_succ_self start)⟩
  · obtain ⟨begins, ends⟩ := spanometer.le_breakWithin span start availableWidth order
    refine ⟨_, rfl, ?_⟩
    split
    · next empty =>
        rw [Bool.and_eq_true, decide_eq_true_iff, Bool.not_eq_true'] at empty
        have some := filled.resolve_left (empty.2 ▸ Bool.false_ne_true)
        omega
    · next apart =>
        refine ⟨begins, ends, ?_⟩
        cases allowEmpty with
        | true => exact .inl rfl
        | false =>
          rw [Bool.not_false, Bool.and_true, decide_eq_true_iff] at apart
          exact .inr (lt_of_le_of_ne begins (Ne.symm apart))

omit [AddCommGroup Width] [LinearOrder Width] in
theorem canMeasure_of_isSound {bidis : List BidiFragment}
    {spans : List (ParagraphSpan Style Width)} (sound : fragment.IsSound bidis spans) :
    canMeasure fragment = true := by
  obtain ⟨newlines_le, spaces_le, -, -, span_start, span_stop⟩ := sound
  rw [canMeasure, Bool.or_eq_true]
  right
  simp only [isWithin, Bool.and_eq_true, decide_eq_true_iff]
  omega

section

variable [IsOrderedAddMonoid Width]

theorem measure_self (spanometer : Spanometer Style Width) (span : ParagraphSpan Style Width)
    (start : Nat) : spanometer.measure span start start = 0 :=
  left_eq_add.mp (spanometer.additive span start start start le_rfl le_rfl)

theorem measure_mono (begins : start ≤ low) (order : low ≤ high) :
    spanometer.measure span start low ≤ spanometer.measure span start high := by
  rw [spanometer.additive span start low high begins order]
  exact le_add_of_nonneg_right (spanometer.nonneg span low high)

/-- The widths of a fragment. -/
structure Measures (spanometer : Spanometer Style Width)
    (fragment : LayoutFragment Style Width) : Prop where
  nonneg : 0 ≤ spanometer.widthExcludingTrailingSpaces fragment
  le : spanometer.widthExcludingTrailingSpaces fragment ≤
    spanometer.widthIncludingTrailingSpaces fragment

theorem measures_of_isSound {bidis : List BidiFragment}
    {spans : List (ParagraphSpan Style Width)} (sound : fragment.IsSound bidis spans)
    (placeholders : ∀ span ∈ spans, ∀ width, span.placeholder = some width → 0 ≤ width) :
    spanometer.Measures fragment := by
  obtain ⟨newlines_le, spaces_le, -, span_mem, -, -⟩ := sound
  refine ⟨?_, ?_⟩
  · unfold widthExcludingTrailingSpaces
    split
    · next width found => exact placeholders _ span_mem width found
    · exact spanometer.nonneg _ _ _
  · unfold widthExcludingTrailingSpaces widthIncludingTrailingSpaces
    split
    · exact le_rfl
    · exact measure_mono (by omega) (by omega)

/-- Text that has a width has code units besides its trailing spaces. -/
theorem lt_of_pos_width (text : fragment.isPlaceholder = false)
    (pos : 0 < spanometer.widthExcludingTrailingSpaces fragment)
    (spaces_le : fragment.start + fragment.trailingSpaces ≤ fragment.stop) :
    fragment.start + fragment.trailingSpaces < fragment.stop := by
  refine lt_of_le_of_ne spaces_le fun same => ?_
  have none : fragment.span.placeholder = none := by
    simpa [LayoutFragment.isPlaceholder] using text
  have start : fragment.stop - fragment.trailingSpaces = fragment.start := by omega
  rw [widthExcludingTrailingSpaces, none] at pos
  dsimp only at pos
  rw [start, measure_self] at pos
  exact lt_irrefl 0 pos

end

end Spanometer

/-! ## The metrics of a line -/

/-- What `_recalculateMetrics` gives. -/
def lineMetrics (spanometer : Spanometer Style Width)
    (fragments : List (LayoutFragment Style Width)) : LineMetrics Width :=
  fragments.zipIdx.foldl
    (fun metrics (fragment, index) => metrics.add spanometer fragment index) {}

theorem lineMetrics_concat :
    lineMetrics spanometer (fragments ++ [fragment]) =
      (lineMetrics spanometer fragments).add spanometer fragment fragments.length := by
  simp [lineMetrics, List.zipIdx_append, List.foldl_append]

/-- Each break is counted. -/
theorem breakCount_lineMetrics (spanometer : Spanometer Style Width)
    (fragments : List (LayoutFragment Style Width)) :
    (lineMetrics spanometer fragments).breakCount =
      fragments.countP LayoutFragment.isBreak := by
  induction fragments using List.reverseRecOn with
  | nil => rfl
  | append_singleton fragments fragment ih =>
    rw [lineMetrics_concat, List.countP_append, List.countP_singleton, ← ih]
    unfold LineMetrics.add LineMetrics.update
    dsimp only
    split
    · rfl
    · rfl

theorem lastBreakableFragment_concat (breaks : fragment.isBreak = true) :
    (lineMetrics spanometer (fragments ++ [fragment])).lastBreakableFragment =
      fragments.length := by
  rw [lineMetrics_concat]
  unfold LineMetrics.add
  dsimp only
  rw [if_pos breaks]

theorem add_widths (spanometer : Spanometer Style Width) (metrics : LineMetrics Width)
    (fragment : LayoutFragment Style Width) (index : Nat) :
    (metrics.add spanometer fragment index).width =
        (if fragment.isSpaceOnly then metrics.width
        else metrics.widthIncludingSpace + spanometer.widthExcludingTrailingSpaces fragment) ∧
      (metrics.add spanometer fragment index).widthIncludingSpace =
        metrics.widthIncludingSpace + spanometer.widthIncludingTrailingSpaces fragment := by
  unfold LineMetrics.add
  dsimp only
  split
  · exact ⟨rfl, rfl⟩
  · exact ⟨rfl, rfl⟩

theorem width_le [IsOrderedAddMonoid Width]
    (measures : ∀ fragment ∈ fragments, spanometer.Measures fragment) :
    (lineMetrics spanometer fragments).width ≤
      (lineMetrics spanometer fragments).widthIncludingSpace := by
  induction fragments using List.reverseRecOn with
  | nil => exact le_rfl
  | append_singleton fragments fragment ih =>
    have earlier := ih fun fragment mem => measures fragment (List.mem_append_left _ mem)
    obtain ⟨nonneg, le⟩ := measures fragment (List.mem_append_right _ List.mem_cons_self)
    rw [lineMetrics_concat]
    obtain ⟨width, widthIncludingSpace⟩ :=
      add_widths spanometer (lineMetrics spanometer fragments) fragment fragments.length
    rw [width, widthIncludingSpace]
    split
    · exact earlier.trans (le_add_of_nonneg_right (nonneg.trans le))
    · exact add_le_add le_rfl le

/-- A line of one fragment has a width where that is not only spaces. -/
theorem width_singleton (fragment : LayoutFragment Style Width) :
    (lineMetrics spanometer [fragment]).width =
      if fragment.isSpaceOnly then 0
      else spanometer.widthExcludingTrailingSpaces fragment := by
  rw [← List.nil_append [fragment], lineMetrics_concat, (add_widths _ _ _ _).1]
  split
  · rfl
  · exact zero_add _

/-- The metrics of a builder are those of its fragments. -/
def LineBuilder.IsMeasured (spanometer : Spanometer Style Width)
    (builder : LineBuilder Style Width) : Prop :=
  builder.metrics = lineMetrics spanometer builder.fragments

theorem LineBuilder.isMeasured_recalculateMetrics (builder : LineBuilder Style Width) :
    (builder.recalculateMetrics spanometer).IsMeasured spanometer :=
  rfl

theorem LineBuilder.isMeasured_addFragment (measured : builder.IsMeasured spanometer)
    (fragment : LayoutFragment Style Width) :
    (builder.addFragment spanometer fragment).IsMeasured spanometer := by
  unfold LineBuilder.IsMeasured LineBuilder.addFragment
  dsimp only
  rw [lineMetrics_concat, measured]

/-! ## What is taken from a line -/

/-- The code units of fragments, and one more for each of them. -/
def weight (fragments : List (LayoutFragment Style Width)) : Nat :=
  (fragments.map fun fragment => fragment.length + 1).sum

/-- A line that is broken into what it keeps and what the next one gets. -/
structure LineBuilder.Breaks (spanometer : Spanometer Style Width)
    (builder broken : LineBuilder Style Width) (next : List (LayoutFragment Style Width)) :
    Prop where
  prepared : broken.fragmentsForNextLine = some next
  splits : ∃ indices, Splits indices builder.fragments (broken.fragments ++ next)
  keeps : broken.fragments ≠ []
  less : weight next < weight builder.fragments
  measured : broken.IsMeasured spanometer
  maxWidth : broken.maxWidth = builder.maxWidth

section

omit [AddCommGroup Width] [LinearOrder Width]

theorem weight_append (left right : List (LayoutFragment Style Width)) :
    weight (left ++ right) = weight left + weight right := by
  rw [weight, List.map_append, List.sum_append, weight, weight]

theorem weight_singleton (fragment : LayoutFragment Style Width) :
    weight [fragment] = fragment.length + 1 :=
  rfl

theorem weight_pos (some : fragments ≠ []) : 0 < weight fragments := by
  obtain ⟨fragment, fragments, rfl⟩ := List.exists_cons_of_ne_nil some
  rw [← List.singleton_append, weight_append, weight_singleton]
  omega

theorem lastBreakBelow_spec {index : Nat}
    (breaks : ∃ j < index, fragments[j]?.any LayoutFragment.isBreak = true) :
    ∃ i < index, LineBuilder.lastBreakBelow fragments index = some i := by
  induction index with
  | zero =>
    obtain ⟨j, below, -⟩ := breaks
    exact absurd below (Nat.not_lt_zero j)
  | succ index ih =>
    unfold LineBuilder.lastBreakBelow
    split
    · exact ⟨index, Nat.lt_succ_self index, rfl⟩
    · next passes =>
        obtain ⟨j, below, breaks⟩ := breaks
        have earlier : j < index :=
          lt_of_le_of_ne (Nat.le_of_lt_succ below) fun same => passes (same ▸ breaks)
        obtain ⟨i, below, found⟩ := ih ⟨j, earlier, breaks⟩
        exact ⟨i, Nat.lt_succ_of_lt below, found⟩

end

namespace LineBuilder

/-- A line that is breakable has a break before its last fragment. -/
theorem exists_break (measured : builder.IsMeasured spanometer)
    (breakable : builder.isBreakable = true) :
    ∃ j < builder.fragments.length - 1,
      builder.fragments[j]?.any LayoutFragment.isBreak = true := by
  have count := breakCount_lineMetrics spanometer builder.fragments
  rw [← measured] at count
  unfold isBreakable at breakable
  rcases List.eq_nil_or_concat builder.fragments with none | ⟨others, last, fragments_eq⟩
  · rw [none] at breakable
    cases breakable
  · rw [List.concat_eq_append] at fragments_eq
    rw [fragments_eq, List.countP_append, List.countP_singleton] at count
    rw [fragments_eq, List.getLast?_append, List.getLast?_singleton] at breakable
    have some : 0 < others.countP LayoutFragment.isBreak := by
      dsimp only [Option.some_or] at breakable
      split at breakable
      · next breaks =>
          rw [if_pos breaks] at count
          have many := of_decide_eq_true breakable
          omega
      · next passes =>
          rw [if_neg passes] at count
          have many := of_decide_eq_true breakable
          omega
    obtain ⟨fragment, mem, breaks⟩ := List.countP_pos_iff.mp some
    obtain ⟨j, below, at_j⟩ := List.getElem_of_mem mem
    refine ⟨j, ?_, ?_⟩
    · rw [fragments_eq, List.length_append, List.length_singleton, Nat.add_sub_cancel]
      exact below
    · rw [fragments_eq, List.getElem?_append_left below, List.getElem?_eq_getElem below, at_j]
      exact breaks

theorem revertToLastBreakOpportunity_spec (measured : builder.IsMeasured spanometer)
    (breakable : builder.isBreakable = true) :
    ∃ broken next, builder.revertToLastBreakOpportunity spanometer = some broken ∧
      builder.Breaks spanometer broken next := by
  obtain ⟨i, below, found⟩ := lastBreakBelow_spec (exists_break measured breakable)
  have parts := List.take_append_drop (i + 1) builder.fragments
  have keeps : builder.fragments.take (i + 1) ≠ [] := by
    intro none
    have length := congrArg List.length none
    rw [List.length_take, List.length_nil] at length
    omega
  have weights := congrArg weight parts
  rw [weight_append] at weights
  have pos := weight_pos keeps
  unfold revertToLastBreakOpportunity
  rw [if_pos breakable, found]
  refine ⟨_, builder.fragments.drop (i + 1), rfl, rfl, ⟨[], ?_⟩, keeps, by omega,
    isMeasured_recalculateMetrics _, rfl⟩
  change Splits [] builder.fragments
    (builder.fragments.take (i + 1) ++ builder.fragments.drop (i + 1))
  rw [parts]
  exact .nil _

variable {next : List (LayoutFragment Style Width)} {point : Nat} {bidis : List BidiFragment}
  {spans : List (ParagraphSpan Style Width)}

/-- The whole fragment goes to the next line. -/
theorem addSplit_start (sound : fragment.IsSound bidis spans) :
    builder.addSplit spanometer next (fragment.split fragment.start) =
      some { builder with fragmentsForNextLine := some (fragment :: next) } := by
  unfold addSplit LayoutFragment.split
  rw [if_pos rfl, if_pos]
  · rfl
  · exact Spanometer.canMeasure_of_isSound sound

/-- Each line gets a part of the fragment. -/
theorem addSplit_inside (sound : fragment.IsSound bidis spans) (begun : fragment.start < point)
    (more : point < fragment.stop) :
    builder.addSplit spanometer next (fragment.split point) =
      some { builder.addFragment spanometer (fragment.first point) with
        fragmentsForNextLine := some (fragment.second point :: next) } := by
  have parts := isSound_pieces sound begun.le more.le
  rw [LayoutFragment.pieces_inside begun more] at parts
  have first := Spanometer.canMeasure_of_isSound (parts _ List.mem_cons_self)
  have second := Spanometer.canMeasure_of_isSound
    (parts _ (List.mem_cons_of_mem _ List.mem_cons_self))
  unfold addSplit LayoutFragment.split
  rw [if_neg begun.ne, if_neg more.ne', if_pos]
  · rfl
  · exact (Bool.and_eq_true _ _).mpr ⟨first, second⟩

/-- What a line without its last fragment is. -/
def removed (spanometer : Spanometer Style Width) (builder : LineBuilder Style Width)
    (others : List (LayoutFragment Style Width)) : LineBuilder Style Width :=
  { builder with
    fragmentsForNextLine := some []
    fragments := others }.recalculateMetrics spanometer

section

variable {others : List (LayoutFragment Style Width)}
  (fragments_eq : builder.fragments = others ++ [fragment])

include fragments_eq

/-- The line keeps all it has. -/
theorem breaks_intact (measured : builder.IsMeasured spanometer) :
    builder.Breaks spanometer { builder with fragmentsForNextLine := some [] } [] := by
  have some : builder.fragments ≠ [] := by
    rw [fragments_eq]
    exact List.append_ne_nil_of_right_ne_nil others (List.cons_ne_nil _ _)
  refine ⟨rfl, ⟨[], ?_⟩, some, weight_pos some, measured, rfl⟩
  rw [List.append_nil]
  exact .nil _

/-- The last fragment goes to the next line. -/
theorem breaks_removed (some : others ≠ []) :
    builder.Breaks spanometer
      { builder.removed spanometer others with fragmentsForNextLine := Option.some [fragment] }
      [fragment] := by
  refine ⟨rfl, ⟨[], ?_⟩, some, ?_, isMeasured_recalculateMetrics _, rfl⟩
  · rw [fragments_eq]
    exact .nil _
  · rw [fragments_eq, weight_append]
    exact Nat.lt_add_of_pos_left (weight_pos some)

/-- The last fragment is split. -/
theorem breaks_split (begun : fragment.start < point) (more : point < fragment.stop) :
    builder.Breaks spanometer
      { (builder.removed spanometer others).addFragment spanometer (fragment.first point) with
        fragmentsForNextLine := some [fragment.second point] }
      [fragment.second point] := by
  have removed : (builder.removed spanometer others).IsMeasured spanometer := rfl
  refine ⟨rfl, ⟨[point], ?_⟩, List.append_ne_nil_of_right_ne_nil others (List.cons_ne_nil _ _),
    ?_, isMeasured_addFragment removed (fragment.first point), rfl⟩
  · have splits := Splits.of_pieces others begun.le more.le
    rw [LayoutFragment.pieces_inside begun more] at splits
    rw [fragments_eq]
    change Splits [point] _ ((others ++ [fragment.first point]) ++ [fragment.second point])
    rwa [List.append_assoc]
  · rw [fragments_eq, weight_append, weight_singleton, weight_singleton]
    change fragment.stop - point + 1 < _ + (fragment.stop - fragment.start + 1)
    omega

end

/-- Text that overflows alone has a code unit that can stay. -/
theorem lt_of_overflows [IsOrderedAddMonoid Width] (nonneg : 0 ≤ builder.maxWidth)
    (wide : builder.maxWidth < ((lineMetrics spanometer [fragment]).width : WithTop Width))
    (text : fragment.isPlaceholder = false) (sound : fragment.IsSound bidis spans) :
    fragment.start < fragment.stop - fragment.trailingNewlines := by
  rw [width_singleton] at wide
  split at wide
  · exact absurd wide nonneg.not_gt
  · have pos := WithTop.coe_lt_coe.mp (nonneg.trans_lt wide)
    have some := Spanometer.lt_of_pos_width text pos sound.spaces_le
    have newlines_le := sound.newlines_le
    omega

/-- A line that overflows has fragments, and its last one can be broken. -/
theorem forceBreakLastFragment_spec [IsOrderedAddMonoid Width]
    (measured : builder.IsMeasured spanometer) (fresh : builder.fragmentsForNextLine = none)
    (nonneg : 0 ≤ builder.maxWidth) (overflows : builder.isOverflowing = true)
    (sound : ∀ fragment ∈ builder.fragments, fragment.IsSound bidis spans)
    (placeholders : ∀ span ∈ spans, ∀ width, span.placeholder = some width → 0 ≤ width) :
    ∃ broken next,
      builder.forceBreakLastFragment spanometer builder.maxWidth false = some broken ∧
        builder.Breaks spanometer broken next := by
  have measures : ∀ fragment ∈ builder.fragments, spanometer.Measures fragment :=
    fun fragment mem => Spanometer.measures_of_isSound (sound fragment mem) placeholders
  have wide := of_decide_eq_true overflows
  rw [measured] at wide
  have wider : builder.maxWidth < (builder.metrics.widthIncludingSpace : WithTop Width) := by
    rw [measured]
    exact wide.trans_le (WithTop.coe_le_coe.mpr (width_le measures))
  rcases List.eq_nil_or_concat builder.fragments with none | ⟨others, last, fragments_eq⟩
  · rw [none] at wide
    exact absurd wide nonneg.not_gt
  · rw [List.concat_eq_append] at fragments_eq
    have last_mem : last ∈ builder.fragments := by
      rw [fragments_eq]
      exact List.mem_append_right _ List.mem_cons_self
    have last_sound := sound last last_mem
    have getLast : builder.fragments.getLast? = some last := by
      rw [fragments_eq, List.getLast?_append, List.getLast?_singleton]
      rfl
    have dropLast : builder.fragments.dropLast = others := by
      rw [fragments_eq, List.dropLast_concat]
    have hasOthers : decide (1 < builder.fragments.length) = true ↔ others ≠ [] := by
      rw [fragments_eq, List.length_append, List.length_singleton, decide_eq_true_iff,
        ← List.length_pos_iff]
      omega
    unfold forceBreakLastFragment
    rw [getLast]
    dsimp only
    rw [if_pos wider, fresh, dropLast, Option.getD_none, Bool.or_false]
    change ∃ broken next, (if last.isPlaceholder = true then
      if decide (1 < builder.fragments.length) = true then
        some { builder.removed spanometer others with fragmentsForNextLine := some [last] }
      else some { builder with fragmentsForNextLine := some [] }
      else _) = some broken ∧ _
    split
    · split
      · next some => exact ⟨_, _, rfl, breaks_removed fragments_eq (hasOthers.mp some)⟩
      · exact ⟨_, _, rfl, breaks_intact fragments_eq measured⟩
    · next text =>
        have filled : decide (1 < builder.fragments.length) = true ∨
            last.start < last.stop - last.trailingNewlines := by
          by_cases alone : others = []
          · rw [fragments_eq, alone, List.nil_append] at wide
            exact .inr (lt_of_overflows nonneg wide ((Bool.not_eq_true _).mp text) last_sound)
          · exact .inl (hasOthers.mpr alone)
        have within : Spanometer.isWithin last.span last.start
            (last.stop - last.trailingNewlines) = true := by
          obtain ⟨newlines_le, spaces_le, -, -, span_start, span_stop⟩ := last_sound
          simp only [Spanometer.isWithin, Bool.and_eq_true, decide_eq_true_iff]
          omega
        obtain ⟨point, found, begins, ends, progress⟩ :=
          spanometer.forceBreak_spec (builder.maxWidth.map fun width => width -
            (builder.metrics.widthIncludingSpace -
              spanometer.widthIncludingTrailingSpaces last)) within filled
        rw [found]
        dsimp only
        split
        · exact ⟨_, _, rfl, breaks_intact fragments_eq measured⟩
        · next parted =>
            have inside : point ≤ last.stop := ends.trans (Nat.sub_le _ _)
            rw [if_pos (by simp [begins, inside])]
            change ∃ broken next, (builder.removed spanometer others).addSplit spanometer []
              (last.split point) = some broken ∧ _
            rcases begins.eq_or_lt with rfl | begun
            · rw [addSplit_start last_sound]
              have some := hasOthers.mp (progress.resolve_right (lt_irrefl _))
              exact ⟨_, _, rfl, breaks_removed fragments_eq some⟩
            · have more : point < last.stop := by omega
              rw [addSplit_inside last_sound begun more]
              exact ⟨_, _, rfl, breaks_split fragments_eq begun more⟩

end LineBuilder

end FlutterEngine.WebText
