import FlutterEngine.WebText.Fragmentation

/-!
# Fragments that are split

The layout splits fragments where a line is too narrow. A split keeps a fragmentation where its
index does not lie in a surrogate pair. A fragmentation the fragmenter gives, unless more spans
than line-break fragments end where the text does.
-/

namespace FlutterEngine.WebText

open FlutterEngine.Std Utf16

variable {Style Width : Type} {chars : List Char} {lineBreaks : List LineBreakFragment}
  {bidis : List BidiFragment} {spans : List (ParagraphSpan Style Width)}
  {fragment : LayoutFragment Style Width}
  {fragments before after result : List (LayoutFragment Style Width)} {index : Nat}
  {indices : List Nat}

namespace LayoutFragment

/-- The fragments that a split gives. -/
def pieces (fragment : LayoutFragment Style Width) (index : Nat) :
    List (LayoutFragment Style Width) :=
  (fragment.split index).1.toList ++ (fragment.split index).2.toList

theorem pieces_start : fragment.pieces fragment.start = [fragment] := by
  unfold pieces split
  rw [if_pos rfl]
  rfl

theorem pieces_stop : fragment.pieces fragment.stop = [fragment] := by
  unfold pieces split
  split
  · rfl
  · rw [if_pos rfl]
    rfl

/-- The first of two fragments. -/
def first (fragment : LayoutFragment Style Width) (index : Nat) : LayoutFragment Style Width :=
  { fragment with
    stop := index
    type := .prohibited
    trailingNewlines :=
      fragment.trailingNewlines - min fragment.trailingNewlines (fragment.stop - index)
    trailingSpaces :=
      fragment.trailingSpaces - min fragment.trailingSpaces (fragment.stop - index) }

/-- The second of two fragments. -/
def second (fragment : LayoutFragment Style Width) (index : Nat) : LayoutFragment Style Width :=
  { fragment with
    start := index
    trailingNewlines := min fragment.trailingNewlines (fragment.stop - index)
    trailingSpaces := min fragment.trailingSpaces (fragment.stop - index) }

theorem pieces_inside (begun : fragment.start < index) (more : index < fragment.stop) :
    fragment.pieces index = [fragment.first index, fragment.second index] := by
  unfold pieces split
  rw [if_neg begun.ne, if_neg more.ne']
  rfl

/-- Each index within the fragment is at one of its ends or inside. -/
theorem pieces_cases (begun : fragment.start ≤ index) (more : index ≤ fragment.stop) :
    ((index = fragment.start ∨ index = fragment.stop) ∧ fragment.pieces index = [fragment]) ∨
      (fragment.start < index ∧ index < fragment.stop ∧
        fragment.pieces index = [fragment.first index, fragment.second index]) := by
  rcases begun.eq_or_lt with rfl | begun
  · exact .inl ⟨.inl rfl, pieces_start⟩
  · rcases more.eq_or_lt with rfl | more
    · exact .inl ⟨.inr rfl, pieces_stop⟩
    · exact .inr ⟨begun, more, pieces_inside begun more⟩

end LayoutFragment

/-- One split after the other, each of any of the fragments. -/
inductive Splits : List Nat → List (LayoutFragment Style Width) →
    List (LayoutFragment Style Width) → Prop where
  | nil (fragments : List (LayoutFragment Style Width)) : Splits [] fragments fragments
  | cons {fragment : LayoutFragment Style Width} {index : Nat} {indices : List Nat}
      {before after result : List (LayoutFragment Style Width)}
      (begun : fragment.start ≤ index) (more : index ≤ fragment.stop)
      (rest : Splits indices (before ++ fragment.pieces index ++ after) result) :
      Splits (index :: indices) (before ++ fragment :: after) result

namespace Splits

variable {final : List (LayoutFragment Style Width)} {more : List Nat}

theorem append (first : Splits indices fragments result) (second : Splits more result final) :
    Splits (indices ++ more) fragments final := by
  induction first with
  | nil fragments => exact second
  | cons begun within _ ih => exact .cons begun within (ih second)

/-- Fragments around those that are split stay. -/
theorem within (splits : Splits indices fragments result)
    (left right : List (LayoutFragment Style Width)) :
    Splits indices (left ++ fragments ++ right) (left ++ result ++ right) := by
  induction splits with
  | nil fragments => exact .nil _
  | @cons fragment index indices before after result begun more _ ih =>
    have step : Splits (index :: indices) ((left ++ before) ++ fragment :: (after ++ right))
        (left ++ result ++ right) := by
      refine .cons begun more ?_
      simpa only [List.append_assoc] using ih
    simpa only [List.append_assoc, List.cons_append] using step

/-- A split of one fragment in two. -/
theorem of_pieces (before : List (LayoutFragment Style Width)) (begun : fragment.start ≤ index)
    (more : index ≤ fragment.stop) :
    Splits [index] (before ++ [fragment]) (before ++ fragment.pieces index) := by
  have step : Splits [index] (before ++ fragment :: [])
      (before ++ fragment.pieces index ++ []) := .cons begun more (.nil _)
  rwa [List.append_nil] at step

/-- The last fragment keeps its type. -/
theorem type_last (splits : Splits indices fragments result) {type : LineBreakType}
    (last : ∃ before fragment, fragments = before ++ [fragment] ∧ fragment.type = type) :
    ∃ before fragment, result = before ++ [fragment] ∧ fragment.type = type := by
  induction splits with
  | nil fragments => exact last
  | @cons fragment index indices before after result begun more _ ih =>
    refine ih ?_
    obtain ⟨early, ending, same, type⟩ := last
    rcases List.eq_nil_or_concat after with rfl | ⟨middle, late, rfl⟩
    · obtain ⟨rfl, ending_eq⟩ := List.append_inj' same rfl
      obtain rfl := List.singleton_inj.mp ending_eq
      rw [List.append_nil]
      rcases LayoutFragment.pieces_cases begun more with ⟨-, pieces⟩ | ⟨-, -, pieces⟩
      · exact ⟨before, fragment, by rw [pieces], type⟩
      · exact ⟨before ++ [fragment.first index], fragment.second index,
          by rw [pieces, List.append_assoc]; rfl, type⟩
    · rw [List.concat_eq_append, ← List.cons_append, ← List.append_assoc] at same
      obtain ⟨-, late_eq⟩ := List.append_inj' same rfl
      obtain rfl := List.singleton_inj.mp late_eq
      exact ⟨before ++ fragment.pieces index ++ middle, late,
        by rw [List.concat_eq_append, ← List.append_assoc], type⟩

end Splits

/-! ## The ends of fragments -/

/-- A fragment begins or ends at the index. -/
def IsEdge (fragments : List (LayoutFragment Style Width)) (index : Nat) : Prop :=
  ∃ fragment ∈ fragments, index = fragment.start ∨ index = fragment.stop

theorem IsFragmentation.isBoundary
    (fragmentation : IsFragmentation chars lineBreaks bidis spans fragments)
    (edge : IsEdge fragments index) : IsBoundary chars index := by
  obtain ⟨fragment, mem, rfl | rfl⟩ := edge
  · exact (fragmentation.boundaries fragment mem).1
  · exact (fragmentation.boundaries fragment mem).2

variable {edge position last : Nat}

/-- A split keeps the ends and adds its index. -/
theorem isEdge_pieces (begun : fragment.start ≤ index) (more : index ≤ fragment.stop) : IsEdge (fragment.pieces index) edge ↔ edge = index ∨ IsEdge [fragment] edge := by
  have whole : IsEdge [fragment] edge ↔ edge = fragment.start ∨ edge = fragment.stop := by
    simp [IsEdge]
  rcases LayoutFragment.pieces_cases begun more with ⟨same, pieces⟩ | ⟨-, -, pieces⟩
  · rw [pieces, whole]
    rcases same with rfl | rfl
    · tauto
    · tauto
  · rw [pieces, whole]
    simp [IsEdge, LayoutFragment.first, LayoutFragment.second]
    tauto

theorem isEdge_append :
    IsEdge (before ++ after) edge ↔ IsEdge before edge ∨ IsEdge after edge := by
  simp only [IsEdge, List.mem_append, or_and_right, exists_or]

theorem isEdge_splits (splits : Splits indices fragments result)
    (mem : IsEdge fragments edge ∨ edge ∈ indices) : IsEdge result edge := by
  induction splits with
  | nil fragments =>
    rcases mem with edge | none
    · exact edge
    · cases none
  | @cons fragment index indices before after result begun more _ ih =>
    refine ih ?_
    rw [isEdge_append, isEdge_append, isEdge_pieces begun more]
    rw [← List.singleton_append, isEdge_append, isEdge_append, List.mem_cons] at mem
    tauto

/-! ## A split keeps a fragmentation -/

theorem tiles_pieces (begun : fragment.start ≤ index) (more : index ≤ fragment.stop) :
    Tiles fragment.start fragment.stop (fragment.pieces index) := by
  rcases LayoutFragment.pieces_cases begun more with ⟨-, pieces⟩ | ⟨-, -, pieces⟩
  · rw [pieces]
    exact tiles_cons.mpr ⟨rfl, begun.trans more, tiles_nil.mpr rfl⟩
  · rw [pieces]
    exact tiles_cons.mpr ⟨rfl, begun, tiles_cons.mpr ⟨rfl, more, tiles_nil.mpr rfl⟩⟩

/-- The fragments go on tiling. -/
theorem tiles_replace (begun : fragment.start ≤ index)
    (more : index ≤ fragment.stop) (tiles : Tiles position last (before ++ fragment :: after)) :
    Tiles position last (before ++ fragment.pieces index ++ after) := by
  obtain ⟨between, left, right⟩ := tiles_append.mp tiles
  obtain ⟨rfl, -, rest⟩ := tiles_cons.mp right
  exact (left.append (tiles_pieces begun more)).append rest

theorem isSound_pieces (sound : fragment.IsSound bidis spans) (begun : fragment.start ≤ index)
    (more : index ≤ fragment.stop) :
    ∀ piece ∈ fragment.pieces index, piece.IsSound bidis spans := by
  rcases LayoutFragment.pieces_cases begun more with ⟨-, pieces⟩ | ⟨-, -, pieces⟩
  · rw [pieces]
    intro piece mem
    rw [List.mem_singleton.mp mem]
    exact sound
  · obtain ⟨newlines_le, spaces_le, ⟨run, run_mem, run_start, run_stop, run_eq⟩, span_mem,
      span_start, span_stop⟩ := sound
    have first : (fragment.first index).IsSound bidis spans := by
      refine ⟨?_, ?_, ⟨run, run_mem, run_start, more.trans run_stop, run_eq⟩, span_mem,
        span_start, more.trans span_stop⟩
      · unfold LayoutFragment.first
        dsimp only
        omega
      · unfold LayoutFragment.first
        dsimp only
        omega
    have second : (fragment.second index).IsSound bidis spans := by
      refine ⟨?_, ?_, ⟨run, run_mem, run_start.trans begun, run_stop, run_eq⟩, span_mem,
        span_start.trans begun, span_stop⟩
      · unfold LayoutFragment.second
        dsimp only
        omega
      · unfold LayoutFragment.second
        dsimp only
        omega
    rw [pieces]
    intro piece mem
    rcases List.mem_cons.mp mem with rfl | mem
    · exact first
    · rw [List.mem_singleton.mp mem]
      exact second

theorem isPieces_pieces {lineBreak : LineBreakFragment} (begun : fragment.start ≤ index)
    (more : index ≤ fragment.stop) (whole : IsPieces lineBreak (before ++ fragment :: after)) :
    IsPieces lineBreak (before ++ fragment.pieces index ++ after) := by
  have tiles : Tiles lineBreak.start lineBreak.stop
      (before ++ fragment.pieces index ++ after) := tiles_replace begun more whole.tiles
  rcases LayoutFragment.pieces_cases begun more with ⟨-, pieces⟩ | ⟨begun, more, pieces⟩
  · rw [pieces, List.append_assoc, List.singleton_append]
    exact whole
  · obtain ⟨-, types, newlines, spaces⟩ := whole
    rw [pieces] at tiles ⊢
    refine ⟨tiles, ?_, ?_, ?_⟩
    · obtain ⟨early, last, same, type, prohibited⟩ := types
      rcases List.eq_nil_or_concat after with rfl | ⟨middle, late, rfl⟩
      · obtain ⟨rfl, fragment_eq⟩ := List.append_inj' same rfl
        obtain rfl := List.singleton_inj.mp fragment_eq
        refine ⟨before ++ [fragment.first index], fragment.second index, by simp, type, ?_⟩
        intro piece mem
        rcases List.mem_append.mp mem with mem | mem
        · exact prohibited piece mem
        · rw [List.mem_singleton.mp mem]
          rfl
      · rw [List.concat_eq_append, ← List.cons_append, ← List.append_assoc] at same
        obtain ⟨rfl, late_eq⟩ := List.append_inj' same rfl
        obtain rfl := List.singleton_inj.mp late_eq
        have inner : fragment.type = .prohibited :=
          prohibited fragment (List.mem_append_right _ List.mem_cons_self)
        refine ⟨before ++ [fragment.first index, fragment.second index] ++ middle, late,
          by simp, type, ?_⟩
        intro piece mem
        simp only [List.mem_append, List.mem_cons, List.not_mem_nil, or_false] at mem
        rcases mem with (mem | rfl | rfl) | mem
        · exact prohibited piece (List.mem_append_left _ mem)
        · rfl
        · exact inner
        · exact prohibited piece (List.mem_append_right _ (List.mem_cons_of_mem _ mem))
    · rw [← newlines]
      simp only [List.map_append, List.map_cons, List.sum_append, List.sum_cons, List.map_nil,
        List.sum_nil, LayoutFragment.first, LayoutFragment.second]
      omega
    · rw [← spaces]
      simp only [List.map_append, List.map_cons, List.sum_append, List.sum_cons, List.map_nil,
        List.sum_nil, LayoutFragment.first, LayoutFragment.second]
      omega

theorem countP_pieces (begun : fragment.start ≤ index) (more : index ≤ fragment.stop) :
    (fragment.pieces index).countP (fun piece => piece.type = .endOfText) =
      [fragment].countP fun piece => piece.type = .endOfText := by
  rcases LayoutFragment.pieces_cases begun more with ⟨-, pieces⟩ | ⟨-, -, pieces⟩
  · rw [pieces]
  · rw [pieces, List.countP_cons_of_neg]
    · rfl
    · exact of_decide_eq_false rfl

theorem isFragmentation_pieces
    (fragmentation : IsFragmentation chars lineBreaks bidis spans (before ++ fragment :: after))
    (begun : fragment.start ≤ index) (more : index ≤ fragment.stop)
    (boundary : IsBoundary chars index) :
    IsFragmentation chars lineBreaks bidis spans
      (before ++ fragment.pieces index ++ after) := by
  have whole : IsEdge (before ++ fragment.pieces index ++ after) = fun edge =>
      edge = index ∨ IsEdge (before ++ fragment :: after) edge := by
    funext edge
    rw [← List.singleton_append (l := after)]
    simp only [isEdge_append, isEdge_pieces begun more, eq_iff_iff]
    tauto
  have mem_fragment : fragment ∈ before ++ fragment :: after :=
    List.mem_append_right _ List.mem_cons_self
  refine ⟨tiles_replace begun more fragmentation.tiles, ?_, ?_, ?_, ?_⟩
  · intro piece mem
    have edges : ∀ edge, edge = piece.start ∨ edge = piece.stop → IsBoundary chars edge := by
      intro edge same
      have known : IsEdge (before ++ fragment.pieces index ++ after) edge := ⟨piece, mem, same⟩
      rw [whole] at known
      rcases known with rfl | known
      · exact boundary
      · exact fragmentation.isBoundary known
    exact ⟨edges _ (.inl rfl), edges _ (.inr rfl)⟩
  · intro piece mem
    rcases List.mem_append.mp mem with mem | mem
    · rcases List.mem_append.mp mem with mem | mem
      · exact fragmentation.sound piece (List.mem_append_left _ mem)
      · exact isSound_pieces (fragmentation.sound fragment mem_fragment) begun more piece mem
    · exact fragmentation.sound piece (List.mem_append_right _ (List.mem_cons_of_mem _ mem))
  · exact fragmentation.pieces.replace fun _ _ _ _ => isPieces_pieces begun more
  · rw [List.countP_append, List.countP_append, countP_pieces begun more, ← List.countP_append,
      ← List.countP_append, List.append_assoc, List.singleton_append]
    exact fragmentation.endOfText

/-- Any run of splits keeps what each fragment is, and the tiling. -/
theorem Splits.sound (splits : Splits indices fragments result)
    (sound : ∀ fragment ∈ fragments, fragment.IsSound bidis spans) :
    ∀ fragment ∈ result, fragment.IsSound bidis spans := by
  induction splits with
  | nil fragments => exact sound
  | @cons fragment index indices before after result begun more _ ih =>
    refine ih fun piece mem => ?_
    rcases List.mem_append.mp mem with mem | mem
    · rcases List.mem_append.mp mem with mem | mem
      · exact sound piece (List.mem_append_left _ mem)
      · exact isSound_pieces (sound fragment (List.mem_append_right _ List.mem_cons_self))
          begun more piece mem
    · exact sound piece (List.mem_append_right _ (List.mem_cons_of_mem _ mem))

theorem Splits.tiles (splits : Splits indices fragments result)
    (tiles : Tiles position last fragments) : Tiles position last result := by
  induction splits with
  | nil fragments => exact tiles
  | cons begun more _ ih => exact ih (tiles_replace begun more tiles)

theorem isFragmentation_splits (splits : Splits indices fragments result)
    (fragmentation : IsFragmentation chars lineBreaks bidis spans fragments) :
    IsFragmentation chars lineBreaks bidis spans result ↔
      ∀ index ∈ indices, IsBoundary chars index := by
  constructor
  · intro kept index mem
    exact kept.isBoundary (isEdge_splits splits (.inr mem))
  · intro boundaries
    induction splits with
    | nil fragments => exact fragmentation
    | cons begun more _ ih =>
      obtain ⟨boundary, boundaries⟩ := List.forall_mem_cons.mp boundaries
      exact ih (isFragmentation_pieces fragmentation begun more boundary) boundaries

/-! ## What the fragmenter gives -/

theorem countP_endOfText (types : ∃ before last, lineBreaks = before ++ [last] ∧
    last.type = .endOfText ∧
      ∀ fragment ∈ before, fragment.type = .opportunity ∨ fragment.type = .mandatory) :
    lineBreaks.countP (fun lineBreak => lineBreak.type = .endOfText) = 1 := by
  obtain ⟨before, last, rfl, type, others⟩ := types
  rw [List.countP_append, List.countP_eq_zero.mpr, List.countP_singleton, type, Nat.zero_add]
  · rfl
  · intro fragment mem
    rw [decide_eq_true_iff]
    rcases others fragment mem with other | other
    · rw [other]
      exact LineBreakType.noConfusion
    · rw [other]
      exact LineBreakType.noConfusion

/-- The end of the text is the end of one piece. -/
theorem countP_isCutting (cutting : IsCutting IsPieces lineBreaks fragments) :
    fragments.countP (fun fragment => fragment.type = .endOfText) =
      lineBreaks.countP fun lineBreak => lineBreak.type = .endOfText := by
  induction lineBreaks generalizing fragments with
  | nil =>
    obtain ⟨groups, rfl, all⟩ := cutting
    cases all
    rfl
  | cons lineBreak lineBreaks ih =>
    obtain ⟨group, rest, rfl, pieces, later⟩ := cutting.of_cons
    obtain ⟨before, last, rfl, type, prohibited⟩ := pieces.types
    rw [List.countP_append, ih later, List.countP_append, List.countP_eq_zero.mpr,
      List.countP_singleton, type, List.countP_cons, Nat.zero_add, Nat.add_comm]
    intro piece mem
    rw [prohibited piece mem, decide_eq_true_iff]
    exact LineBreakType.noConfusion

/-- The fragmenter gives a fragmentation unless spans without text are left at the end. -/
theorem isFragmentation_fragment (fragmenter : LineBreakFragmenter) (some : spans ≠ [])
    (tiles : Tiles 0 (units chars) spans)
    (boundaries : ∀ span ∈ spans, IsBoundary chars span.stop) :
    ∃ fragments,
      LayoutFragmenter.fragment fragmenter (encode chars) spans = Option.some fragments ∧
        (IsFragmentation chars (fragmenter.fragment (encode chars))
            (computeBidiFragments (encode chars)) spans fragments ↔
          spans.countP (fun span => span.stop = units chars) ≤
            (fragmenter.fragment (encode chars)).countP fun lineBreak =>
              lineBreak.stop = units chars) := by
  have breaking := fragmenter.isLineBreaking (encode chars)
  rw [← length_encode] at tiles
  obtain ⟨fragments, found, whole, sound, ends, -, pieces, extra, rfl, cutting, length_eq,
    types⟩ :=
    LayoutFragmenter.fragment_spec fragmenter some tiles
  rw [length_encode] at whole length_eq
  have count : (pieces ++ extra).countP (fun fragment => fragment.type = .endOfText) =
      1 + extra.length := by
    rw [List.countP_append, countP_isCutting cutting, countP_endOfText breaking.types,
      List.countP_eq_length.mpr fun fragment mem => decide_eq_true (types fragment mem)]
  refine ⟨_, found, ?_⟩
  constructor
  · intro fragmentation
    have one := fragmentation.endOfText
    omega
  · intro few
    obtain rfl : extra = [] := List.length_eq_zero_iff.mp (by omega)
    rw [List.append_nil] at *
    exact ⟨whole, ends chars rfl boundaries, sound, cutting, count⟩

/-- The fragments of any paragraph that is built. -/
theorem isFragmentation_build {builder : CanvasParagraphBuilder Style Width}
    (builds : builder.Builds chars) (rootStyle : Style) (fragmenter : LineBreakFragmenter) :
    ∃ fragments,
      LayoutFragmenter.fragment fragmenter builder.plainText (builder.build rootStyle) =
          some fragments ∧
        (IsFragmentation chars (fragmenter.fragment builder.plainText)
            (computeBidiFragments builder.plainText) (builder.build rootStyle) fragments ↔
          (builder.build rootStyle).countP (fun span => span.stop = units chars) ≤
            (fragmenter.fragment builder.plainText).countP fun lineBreak =>
              lineBreak.stop = units chars) := by
  obtain ⟨some, covers⟩ := builds.build rootStyle
  rw [builds.covers.1]
  exact isFragmentation_fragment fragmenter some covers.tiles covers.boundaries

theorem isFragmentation_build_ab :
    ∃ fragments, LayoutFragmenter.fragment (.fw [⟨0x20, 0x20, .SP⟩]) (encode ['a', 'b'])
      [(⟨0, 2, (), none⟩ : ParagraphSpan Unit Unit)] = Option.some fragments := by
  obtain ⟨fragments, found, -⟩ := isFragmentation_build
    (.addText .empty () ['a', 'b'] : @CanvasParagraphBuilder.Builds Unit Unit _ _) ()
    (.fw [⟨0x20, 0x20, .SP⟩])
  exact ⟨fragments, found⟩

/-- What the fragmenter gives, and what is left of it after any run of splits. -/
theorem fragment_splits_iff (fragmenter : LineBreakFragmenter) (some : spans ≠ [])
    (tiles : Tiles 0 (units chars) spans)
    (boundaries : ∀ span ∈ spans, IsBoundary chars span.stop) :
    ∃ fragments,
      LayoutFragmenter.fragment fragmenter (encode chars) spans = Option.some fragments ∧
        ∀ indices result, Splits indices fragments result →
          (IsFragmentation chars (fragmenter.fragment (encode chars))
              (computeBidiFragments (encode chars)) spans fragments ∧
            IsFragmentation chars (fragmenter.fragment (encode chars))
              (computeBidiFragments (encode chars)) spans result ↔
            spans.countP (fun span => span.stop = units chars) ≤
                ((fragmenter.fragment (encode chars)).countP fun lineBreak =>
                  lineBreak.stop = units chars) ∧
              ∀ index ∈ indices, IsBoundary chars index) := by
  obtain ⟨fragments, found, fragmentation_iff⟩ :=
    isFragmentation_fragment fragmenter some tiles boundaries
  refine ⟨fragments, found, fun indices result splits => ?_⟩
  rw [← fragmentation_iff]
  exact and_congr_right fun fragmentation => isFragmentation_splits splits fragmentation

/-- A text of one span. -/
theorem fragment_splits_iff_ab :
    ∃ fragments,
      LayoutFragmenter.fragment (.fw [⟨0x20, 0x20, .SP⟩]) (encode ['a', 'b'])
          [(⟨0, 2, (), none⟩ : ParagraphSpan Unit Unit)] = Option.some fragments ∧
        ∀ indices result, Splits indices fragments result →
          (IsFragmentation ['a', 'b']
              (LineBreakFragmenter.fragment (.fw [⟨0x20, 0x20, .SP⟩]) (encode ['a', 'b']))
              (computeBidiFragments (encode ['a', 'b'])) [⟨0, 2, (), none⟩] fragments ∧
            IsFragmentation ['a', 'b']
              (LineBreakFragmenter.fragment (.fw [⟨0x20, 0x20, .SP⟩]) (encode ['a', 'b']))
              (computeBidiFragments (encode ['a', 'b'])) [⟨0, 2, (), none⟩] result ↔
            [(⟨0, 2, (), none⟩ : ParagraphSpan Unit Unit)].countP
                (fun span => span.stop = units ['a', 'b']) ≤
                ((LineBreakFragmenter.fragment (.fw [⟨0x20, 0x20, .SP⟩])
                  (encode ['a', 'b'])).countP fun lineBreak =>
                    lineBreak.stop = units ['a', 'b']) ∧
              ∀ index ∈ indices, IsBoundary ['a', 'b'] index) := by
  refine fragment_splits_iff _ (List.cons_ne_nil _ _) ?_ ?_
  · exact tiles_cons.mpr ⟨rfl, Nat.zero_le 2, tiles_nil.mpr rfl⟩
  · intro span mem
    rw [List.mem_singleton.mp mem]
    exact ⟨['a', 'b'], [], rfl, rfl⟩

/-- Text without characters behind the text is a second end of it. -/
theorem emptySpan_not_isFragmentation :
    ∃ fragments,
      LayoutFragmenter.fragment (.fw [⟨0x20, 0x20, .SP⟩]) (encode ['a', 'b'])
          [(⟨0, 2, (), none⟩ : ParagraphSpan Unit Unit), ⟨2, 2, (), none⟩] =
        Option.some fragments ∧
      ¬ IsFragmentation ['a', 'b']
        (LineBreakFragmenter.fragment (.fw [⟨0x20, 0x20, .SP⟩]) (encode ['a', 'b']))
        (computeBidiFragments (encode ['a', 'b'])) [⟨0, 2, (), none⟩, ⟨2, 2, (), none⟩]
        fragments := by
  have spans_tile : Tiles 0 (units ['a', 'b'])
      [(⟨0, 2, (), none⟩ : ParagraphSpan Unit Unit), ⟨2, 2, (), none⟩] :=
    tiles_cons.mpr ⟨rfl, Nat.zero_le 2, tiles_cons.mpr ⟨rfl, le_rfl, tiles_nil.mpr rfl⟩⟩
  have boundaries : ∀ span ∈ [(⟨0, 2, (), none⟩ : ParagraphSpan Unit Unit), ⟨2, 2, (), none⟩],
      IsBoundary ['a', 'b'] span.stop := by
    intro span mem
    rcases List.mem_cons.mp mem with rfl | mem
    · exact ⟨['a', 'b'], [], rfl, rfl⟩
    · rw [List.mem_singleton.mp mem]
      exact ⟨['a', 'b'], [], rfl, rfl⟩
  obtain ⟨fragments, found, fragmentation_iff⟩ :=
    isFragmentation_fragment (.fw [⟨0x20, 0x20, .SP⟩]) (List.cons_ne_nil _ _) spans_tile
      boundaries
  refine ⟨fragments, found, fun fragmentation => ?_⟩
  exact absurd (fragmentation_iff.mp fragmentation) (by decide)

end FlutterEngine.WebText
