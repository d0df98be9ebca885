import FlutterEngine.WebText.LineBreaks

/-!
# The lines of a layout

The lines that are built, the current line and the fragments that are still to come are the
fragments of the text, some of them split. Each round of the inner loop leaves less in the
current line, and the end of the text ends the last line.
-/

namespace FlutterEngine.WebText

open FlutterEngine.Std

variable {Style Width : Type} [AddCommGroup Width] [LinearOrder Width]
  {spanometer : Spanometer Style Width} {fragment : LayoutFragment Style Width}
  {fragments next rest : List (LayoutFragment Style Width)} {builder : LineBuilder Style Width}
  {bidis : List BidiFragment} {spans : List (ParagraphSpan Style Width)}

namespace LineBuilder

/-- Fragments are appended only where none are kept for the next line. -/
theorem appendZeroWidthFragments_spec (rest : List (LayoutFragment Style Width))
    (measured : builder.IsMeasured spanometer)
    (prepared : builder.fragmentsForNextLine = some next) :
    (builder.appendZeroWidthFragments spanometer rest).1.fragmentsForNextLine = some next ∧
      (builder.appendZeroWidthFragments spanometer rest).1.IsMeasured spanometer ∧
      (builder.appendZeroWidthFragments spanometer rest).1.maxWidth = builder.maxWidth ∧
      (builder.fragments ≠ [] →
        (builder.appendZeroWidthFragments spanometer rest).1.fragments ≠ []) ∧
      (builder.appendZeroWidthFragments spanometer rest).1.fragments ++
          (next ++ rest.drop (builder.appendZeroWidthFragments spanometer rest).2) =
        builder.fragments ++ (next ++ rest) := by
  induction rest generalizing builder with
  | nil => exact ⟨prepared, measured, rfl, id, rfl⟩
  | cons fragment rest ih =>
    unfold appendZeroWidthFragments
    split
    · next appends =>
        have none : next = [] := by
          rw [Bool.and_eq_true] at appends
          have allowed := appends.1
          unfold canAppendEmptyFragments at allowed
          rw [prepared] at allowed
          split at allowed
          · cases allowed
          · split at allowed
            · cases allowed
            · next empty => simpa using empty
        have added : (builder.addFragment spanometer fragment).IsMeasured spanometer :=
          isMeasured_addFragment measured fragment
        obtain ⟨prepared', measured', maxWidth, keeps, same⟩ :=
          ih added (show (builder.addFragment spanometer fragment).fragmentsForNextLine =
            some next from prepared)
        refine ⟨prepared', measured', maxWidth, fun _ => keeps ?_, ?_⟩
        · exact List.append_ne_nil_of_right_ne_nil _ (List.cons_ne_nil _ _)
        · dsimp only
          rw [List.drop_succ_cons, same, none]
          exact List.append_assoc _ _ _
    · exact ⟨prepared, measured, rfl, id, rfl⟩

omit [LinearOrder Width] in
/-- A line that has fragments is built from them. -/
theorem build_spec {start stop : Nat} (prepared : builder.fragmentsForNextLine = some next)
    (some : builder.fragments ≠ []) (tiles : Tiles start stop builder.fragments)
    (sound : ∀ fragment ∈ builder.fragments, fragment.IsSound bidis spans) :
    ∃ line, builder.build = Option.some (line, builder) ∧ line.fragments = builder.fragments ∧
      line.startIndex = start ∧ line.endIndex = stop := by
  have begins : builder.startIndex = Option.some start := by
    unfold startIndex
    obtain ⟨first, fragments, fragments_eq⟩ := List.exists_cons_of_ne_nil some
    rw [fragments_eq] at tiles ⊢
    exact congrArg Option.some (tiles_cons.mp tiles).1
  have last_stop : (builder.fragments.getLast some).stop = stop := tiles.stop_getLast some
  have ends : builder.endIndex = Option.some stop := by
    unfold endIndex
    rw [List.getLast?_eq_some_getLast some, ← last_stop]
  have newlines : (builder.fragments.getLast some).trailingNewlines ≤ stop - start := by
    obtain ⟨newlines_le, spaces_le, -⟩ := sound _ (List.getLast_mem some)
    obtain ⟨later, -, -⟩ := tiles.mem (List.getLast_mem some)
    change start ≤ (builder.fragments.getLast some).start at later
    omega
  unfold build
  rw [prepared]
  dsimp only
  rw [begins, ends, List.getLast?_eq_some_getLast some]
  dsimp only [Option.map_some, Option.getD_some]
  rw [if_pos newlines]
  exact ⟨_, rfl, rfl, rfl, rfl⟩

/-- A line that ends in a hard break keeps nothing for the next one. -/
theorem build_of_isHardBreak (measured : builder.IsMeasured spanometer)
    (fresh : builder.fragmentsForNextLine = none) (hard : builder.isHardBreak = true) :
    builder.fragments ≠ [] ∧
      builder.build = { builder with fragmentsForNextLine := some [] }.build := by
  rcases List.eq_nil_or_concat builder.fragments with none | ⟨others, last, fragments_eq⟩
  · rw [isHardBreak, none] at hard
    cases hard
  · rw [List.concat_eq_append] at fragments_eq
    have breaks : last.isBreak = true := by
      rw [isHardBreak, fragments_eq, List.getLast?_append, List.getLast?_singleton] at hard
      change last.isHardBreak = true at hard
      unfold LayoutFragment.isHardBreak at hard
      rw [LayoutFragment.isBreak, decide_eq_true_iff]
      intro prohibited
      rw [prohibited] at hard
      exact absurd hard (by decide)
    have all : (builder.metrics.lastBreakableFragment + 1).toNat = builder.fragments.length := by
      rw [measured, fragments_eq, lastBreakableFragment_concat breaks, List.length_append,
        List.length_singleton]
      rfl
    refine ⟨by simp [fragments_eq], ?_⟩
    unfold build
    rw [fresh, all]
    dsimp only
    rw [List.drop_length, List.take_length]

theorem nextLine_spec (spanometer : Spanometer Style Width)
    (prepared : builder.fragmentsForNextLine = some next) :
    (builder.nextLine spanometer).fragments = next ∧
      (builder.nextLine spanometer).fragmentsForNextLine = none ∧
      (builder.nextLine spanometer).maxWidth = builder.maxWidth ∧
      (builder.nextLine spanometer).IsMeasured spanometer := by
  refine ⟨?_, rfl, rfl, isMeasured_recalculateMetrics _⟩
  change builder.fragmentsForNextLine.getD [] = next
  rw [prepared, Option.getD_some]

end LineBuilder

/-! ## The loops -/

namespace TextLayout

variable {layout : TextLayout Style Width} {length : Nat} {maxWidth : WithTop Width}

/-- The fragments of the lines that are built. -/
def lineFragments (lines : List (ParagraphLine Style Width)) :
    List (LayoutFragment Style Width) :=
  lines.flatMap ParagraphLine.fragments

/-- The lines, and what stands behind them, are the fragments of the text with some of them
split. -/
structure Lays (fragments : List (LayoutFragment Style Width)) (bidis : List BidiFragment)
    (spans : List (ParagraphSpan Style Width)) (length : Nat)
    (lines : List (ParagraphLine Style Width)) (behind : List (LayoutFragment Style Width)) :
    Prop where
  splits : ∃ indices, Splits indices fragments (lineFragments lines ++ behind)
  tiles : ∃ position, Tiles 0 position lines ∧ Tiles position length behind
  sound : ∀ fragment ∈ behind, fragment.IsSound bidis spans

/-- A current line that is as `nextLine` makes it. -/
structure IsFresh (spanometer : Spanometer Style Width) (maxWidth : WithTop Width)
    (line : LineBuilder Style Width) : Prop where
  fresh : line.fragmentsForNextLine = none
  measured : line.IsMeasured spanometer
  maxWidth : line.maxWidth = maxWidth

theorem isFresh_first (spanometer : Spanometer Style Width) (maxWidth : WithTop Width) :
    IsFresh spanometer maxWidth { maxWidth := maxWidth } :=
  ⟨rfl, rfl, rfl⟩

omit [AddCommGroup Width] [LinearOrder Width] in
/-- Splits behind the lines. -/
theorem Lays.split {lines : List (ParagraphLine Style Width)}
    {behind later : List (LayoutFragment Style Width)} {indices : List Nat}
    (lays : Lays fragments bidis spans length lines behind)
    (splits : Splits indices behind later) : Lays fragments bidis spans length lines later := by
  obtain ⟨⟨earlier, run⟩, ⟨position, built, tiles⟩, sound⟩ := lays
  refine ⟨⟨earlier ++ indices, run.append ?_⟩, ⟨position, built, splits.tiles tiles⟩,
    splits.sound sound⟩
  have whole := splits.within (lineFragments lines) []
  rwa [List.append_nil, List.append_nil] at whole

/-- The current line becomes a line, and what it has kept is the next one. -/
theorem buildLine_spec (layout : TextLayout Style Width)
    (prepared : layout.currentLine.fragmentsForNextLine = some next)
    (some : layout.currentLine.fragments ≠ []) (within : layout.currentLine.maxWidth = maxWidth)
    (lays : Lays fragments bidis spans length layout.lines
      (layout.currentLine.fragments ++ (next ++ rest))) :
    ∃ built, buildLine spanometer layout = Option.some built ∧ built.i = layout.i ∧
      built.currentLine.fragments = next ∧ IsFresh spanometer maxWidth built.currentLine ∧
      Lays fragments bidis spans length built.lines (built.currentLine.fragments ++ rest) := by
  obtain ⟨splits, ⟨position, lines_tile, tiles⟩, sound⟩ := lays
  obtain ⟨between, line_tiles, rest_tiles⟩ := tiles_append.mp tiles
  obtain ⟨line, build_eq, line_fragments, start_eq, stop_eq⟩ :=
    LineBuilder.build_spec prepared some line_tiles
      fun fragment mem => sound fragment (List.mem_append_left _ mem)
  obtain ⟨next_eq, fresh, width_eq, measured⟩ :=
    LineBuilder.nextLine_spec spanometer prepared
  unfold buildLine
  rw [build_eq]
  refine ⟨_, rfl, rfl, next_eq, ⟨fresh, measured, width_eq.trans within⟩, ?_, ?_, ?_⟩
  · rw [next_eq]
    unfold lineFragments at splits ⊢
    rw [List.flatMap_append, List.flatMap_singleton, line_fragments, List.append_assoc]
    exact splits
  · rw [next_eq]
    refine ⟨between, lines_tile.append ?_, rest_tiles⟩
    exact tiles_cons.mpr ⟨start_eq, start_eq.le.trans (line_tiles.le.trans stop_eq.ge),
      tiles_nil.mpr stop_eq⟩
  · rw [next_eq]
    exact fun fragment mem => sound fragment (List.mem_append_right _ mem)

/-- A line that ends in a hard break is built whole. -/
theorem buildHardBreak_spec (fresh : IsFresh spanometer maxWidth layout.currentLine)
    (lays : Lays fragments bidis spans length layout.lines
      (layout.currentLine.fragments ++ rest)) :
    ∃ built,
      (if layout.currentLine.isHardBreak then buildLine spanometer layout else some layout) =
        some built ∧ built.i = layout.i ∧ built.currentLine.isHardBreak = false ∧
      IsFresh spanometer maxWidth built.currentLine ∧
      Lays fragments bidis spans length built.lines (built.currentLine.fragments ++ rest) := by
  split
  · next hard =>
      obtain ⟨keeps, build_eq⟩ :=
        LineBuilder.build_of_isHardBreak fresh.measured fresh.fresh hard
      have same : buildLine spanometer layout = buildLine spanometer
          { layout with
            currentLine := { layout.currentLine with fragmentsForNextLine := some [] } } := by
        unfold buildLine
        rw [build_eq]
      obtain ⟨built, built_eq, i_eq, next_eq, built_fresh, built_lays⟩ :=
        buildLine_spec
          { layout with
            currentLine := { layout.currentLine with fragmentsForNextLine := some [] } }
          rfl keeps fresh.maxWidth lays
      refine ⟨built, same.trans built_eq, i_eq, ?_, built_fresh, built_lays⟩
      unfold LineBuilder.isHardBreak
      rw [next_eq]
      rfl
  · next soft => exact ⟨layout, rfl, rfl, (Bool.not_eq_true _).mp soft, fresh, lays⟩

variable [IsOrderedAddMonoid Width]
  (placeholders : ∀ span ∈ spans, ∀ width, span.placeholder = some width → 0 ≤ width)
  (nonneg : 0 ≤ maxWidth)

include placeholders nonneg

/-- A line that overflows is built, and the next one has less. -/
theorem breakLine_spec (fresh : IsFresh spanometer maxWidth layout.currentLine)
    (overflows : layout.currentLine.isOverflowing = true)
    (lays : Lays fragments bidis spans length layout.lines
      (layout.currentLine.fragments ++ fragments.drop (layout.i + 1))) :
    ∃ broken, breakLine spanometer fragments layout = some broken ∧ layout.i ≤ broken.i ∧
      weight broken.currentLine.fragments < weight layout.currentLine.fragments ∧
      IsFresh spanometer maxWidth broken.currentLine ∧
      Lays fragments bidis spans length broken.lines
        (broken.currentLine.fragments ++ fragments.drop (broken.i + 1)) := by
  obtain ⟨fresh, measured, rfl⟩ := fresh
  have breaks : ∃ broken next,
      (if layout.currentLine.isBreakable then
        layout.currentLine.revertToLastBreakOpportunity spanometer
      else
        layout.currentLine.forceBreakLastFragment spanometer layout.currentLine.maxWidth
          false) = some broken ∧ layout.currentLine.Breaks spanometer broken next := by
    split
    · next breakable =>
        exact LineBuilder.revertToLastBreakOpportunity_spec measured breakable
    · exact LineBuilder.forceBreakLastFragment_spec measured fresh nonneg overflows
        (fun fragment mem => lays.sound fragment (List.mem_append_left _ mem)) placeholders
  obtain ⟨broken, next, broken_eq, prepared, ⟨indices, splits⟩, keeps, less, measured,
    maxWidth⟩ := breaks
  obtain ⟨prepared, measured, width_eq, keeps', same⟩ :=
    LineBuilder.appendZeroWidthFragments_spec (fragments.drop (layout.i + 1)) measured prepared
  have whole := lays.split (splits.within [] (fragments.drop (layout.i + 1)))
  unfold breakLine
  dsimp only
  rw [broken_eq, Option.bind_some]
  generalize broken.appendZeroWidthFragments spanometer (fragments.drop (layout.i + 1)) =
    appended at *
  rw [List.nil_append, List.append_assoc, ← same, List.drop_drop] at whole
  obtain ⟨built, build_eq, i_eq, next_eq, fresh, lays⟩ :=
    buildLine_spec { layout with currentLine := appended.1, i := layout.i + appended.2 }
      prepared (keeps' keeps) (width_eq.trans maxWidth) whole
  refine ⟨built, build_eq, ?_, ?_, fresh, ?_⟩
  · rw [i_eq]
    exact Nat.le_add_right _ _
  · rw [next_eq]
    exact less
  · rw [i_eq]
    dsimp only
    rwa [Nat.add_right_comm]

/-- The inner loop ends: each line has less than the one before it. -/
theorem breakLines_spec (layout : TextLayout Style Width)
    (fresh : IsFresh spanometer maxWidth layout.currentLine)
    (lays : Lays fragments bidis spans length layout.lines
      (layout.currentLine.fragments ++ fragments.drop (layout.i + 1))) :
    ∃ bound broken,
      (∀ fuel, bound ≤ fuel → breakLines spanometer fragments fuel layout = some broken) ∧
      layout.i ≤ broken.i ∧ IsFresh spanometer maxWidth broken.currentLine ∧
      Lays fragments bidis spans length broken.lines
        (broken.currentLine.fragments ++ fragments.drop (broken.i + 1)) := by
  induction left : weight layout.currentLine.fragments using Nat.strong_induction_on
    generalizing layout with
  | _ left ih =>
    by_cases overflows : layout.currentLine.isOverflowing = true
    · obtain ⟨next, next_eq, next_i, less, next_fresh, next_lays⟩ :=
        breakLine_spec placeholders nonneg fresh overflows lays
      obtain ⟨bound, broken, run, broken_i, broken_fresh, broken_lays⟩ :=
        ih _ (left ▸ less) next next_fresh next_lays rfl
      refine ⟨bound + 1, broken, fun fuel enough => ?_, next_i.trans broken_i, broken_fresh,
        broken_lays⟩
      obtain ⟨fuel, rfl⟩ : ∃ before, fuel = before + 1 := ⟨fuel - 1, by omega⟩
      unfold breakLines
      rw [if_pos overflows, next_eq, Option.bind_some]
      exact run fuel (by omega)
    · refine ⟨1, layout, fun fuel enough => ?_, le_rfl, fresh, lays⟩
      obtain ⟨fuel, rfl⟩ : ∃ before, fuel = before + 1 := ⟨fuel - 1, by omega⟩
      unfold breakLines
      exact if_neg overflows

/-- The outer loop ends with all fragments taken. -/
theorem addFragments_spec (layout : TextLayout Style Width) (rounds : Nat)
    (fresh : IsFresh spanometer maxWidth layout.currentLine)
    (soft : layout.currentLine.isHardBreak = false)
    (enough : fragments.length ≤ layout.i + rounds)
    (lays : Lays fragments bidis spans length layout.lines
      (layout.currentLine.fragments ++ fragments.drop layout.i)) :
    ∃ bound result,
      (∀ fuel, bound ≤ fuel →
        addFragments spanometer fragments fuel rounds layout = some result) ∧
      result.currentLine.isHardBreak = false ∧
      Lays fragments bidis spans length result.lines result.currentLine.fragments := by
  induction rounds generalizing layout with
  | zero =>
    rw [Nat.add_zero] at enough
    rw [List.drop_eq_nil_of_le enough, List.append_nil] at lays
    exact ⟨0, layout, fun _ _ => rfl, soft, lays⟩
  | succ rounds ih =>
    by_cases more : layout.i < fragments.length
    · have at_i := List.getElem?_eq_getElem more
      have drop := List.drop_eq_getElem_cons more
      generalize fragments[layout.i] = fragment at at_i drop
      have added : IsFresh spanometer maxWidth
          (layout.currentLine.addFragment spanometer fragment) :=
        ⟨fresh.fresh, LineBuilder.isMeasured_addFragment fresh.measured fragment,
          fresh.maxWidth⟩
      rw [drop, ← List.singleton_append, ← List.append_assoc] at lays
      obtain ⟨breakBound, broken, broken_run, broken_i, broken_fresh, broken_lays⟩ :=
        breakLines_spec placeholders nonneg
          { layout with currentLine := layout.currentLine.addFragment spanometer fragment }
          added lays
      obtain ⟨built, built_eq, built_i, built_soft, built_fresh, built_lays⟩ :=
        buildHardBreak_spec broken_fresh broken_lays
      rw [← built_i] at built_lays
      have later : fragments.length ≤ built.i + 1 + rounds := by
        dsimp only at broken_i
        omega
      obtain ⟨bound, result, run, result_soft, result_lays⟩ :=
        ih { built with i := built.i + 1 } built_fresh built_soft later built_lays
      refine ⟨max breakBound bound, result, fun fuel enough => ?_, result_soft, result_lays⟩
      unfold addFragments
      rw [at_i]
      dsimp only
      rw [broken_run fuel ((le_max_left ..).trans enough), Option.bind_some, built_eq,
        Option.bind_some]
      exact run fuel ((le_max_right ..).trans enough)
    · have none := List.getElem?_eq_none (not_lt.mp more)
      rw [List.drop_eq_nil_of_le (not_lt.mp more), List.append_nil] at lays
      refine ⟨0, layout, fun fuel _ => ?_, soft, lays⟩
      unfold addFragments
      rw [none]

end TextLayout

/-- The lines of a text have its fragments, some of them split, and each begins where the one
before it ends. -/
theorem performLayout_lines [IsOrderedAddMonoid Width] (fragmenter : LineBreakFragmenter)
    (text : DartString) (spans : List (ParagraphSpan Style Width)) (some : spans ≠ [])
    (tiles : Tiles 0 text.length spans) (spanometer : Spanometer Style Width)
    (placeholders : ∀ span ∈ spans, ∀ width, span.placeholder = Option.some width → 0 ≤ width)
    (width : WithTop Width) (nonneg : 0 ≤ width) :
    ∃ fragments lines bound,
      LayoutFragmenter.fragment fragmenter text spans = Option.some fragments ∧
      (∀ fuel, bound ≤ fuel →
        performLayout spanometer width fragments fuel = Option.some lines) ∧
      (∃ indices, Splits indices fragments (lines.flatMap ParagraphLine.fragments)) ∧
      Tiles 0 text.length (lines.flatMap ParagraphLine.fragments) ∧
      Tiles 0 text.length lines := by
  obtain ⟨fragments, found, whole, sound, -, last, -⟩ :=
    LayoutFragmenter.fragment_spec fragmenter some tiles
  have lays : TextLayout.Lays fragments (computeBidiFragments text) spans text.length []
      ([] ++ fragments.drop 0) :=
    ⟨⟨[], .nil fragments⟩, ⟨0, .nil 0, whole⟩, sound⟩
  obtain ⟨bound, result, run, soft, lays⟩ :=
    TextLayout.addFragments_spec placeholders nonneg
      ({ currentLine := { maxWidth := width } } : TextLayout Style Width) fragments.length
      (TextLayout.isFresh_first spanometer width) rfl (Nat.le_add_left ..) lays
  have ended : result.currentLine.fragments = [] := by
    obtain ⟨indices, splits⟩ := lays.splits
    obtain ⟨before, fragment, same, type⟩ := splits.type_last last
    rcases List.eq_nil_or_concat result.currentLine.fragments with none | ⟨others, final, eq⟩
    · exact none
    · rw [eq, List.concat_eq_append, ← List.append_assoc] at same
      obtain ⟨-, final_eq⟩ := List.append_inj' same rfl
      obtain rfl := List.singleton_inj.mp final_eq
      rw [LineBuilder.isHardBreak, eq, List.concat_eq_append, List.getLast?_append,
        List.getLast?_singleton] at soft
      change final.isHardBreak = false at soft
      rw [LayoutFragment.isHardBreak, type] at soft
      exact absurd soft (by decide)
  obtain ⟨splits, ⟨position, lines_tile, behind⟩, -⟩ := lays
  rw [ended, List.append_nil] at splits
  rw [ended, tiles_nil] at behind
  rw [behind] at lines_tile
  refine ⟨fragments, result.lines, bound, found, fun fuel enough => ?_, splits, ?_, lines_tile⟩
  · unfold performLayout
    rw [if_pos, run fuel enough, Option.map_some]
    exact List.all_eq_true.mpr fun fragment mem =>
      Spanometer.canMeasure_of_isSound (sound fragment mem)
  · obtain ⟨indices, splits⟩ := splits
    exact splits.tiles whole

/-- Code units that are one wide. -/
def monospace : Spanometer Unit Int where
  measure _ start stop := (stop - start : Nat)
  additive _ start middle stop begins ends := by
    rw [← Int.natCast_add]
    exact congrArg Nat.cast (by omega)
  nonneg _ _ _ := Int.natCast_nonneg _

/-- A line of one code unit. -/
theorem performLayout_lines_ab :
    ∃ fragments lines bound,
      LayoutFragmenter.fragment (.fw [⟨0x20, 0x20, .SP⟩]) [0x61, 0x62]
          [(⟨0, 2, (), none⟩ : ParagraphSpan Unit Int)] = some fragments ∧
      (∀ fuel, bound ≤ fuel →
        performLayout monospace ((1 : Int) : WithTop Int) fragments fuel = some lines) ∧
      (∃ indices, Splits indices fragments (lines.flatMap ParagraphLine.fragments)) ∧
      Tiles 0 2 (lines.flatMap ParagraphLine.fragments) ∧ Tiles 0 2 lines := by
  refine performLayout_lines (.fw [⟨0x20, 0x20, .SP⟩]) [0x61, 0x62] _ (List.cons_ne_nil _ _) ?_
    monospace ?_ _ ?_
  · exact tiles_cons.mpr ⟨rfl, Nat.zero_le 2, tiles_nil.mpr rfl⟩
  · intro span mem width found
    rw [List.mem_singleton.mp mem] at found
    cases found
  · exact WithTop.coe_le_coe.mpr Int.one_nonneg

end FlutterEngine.WebText
