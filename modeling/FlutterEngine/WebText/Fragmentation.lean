import FlutterEngine.Std.Cuttings
import FlutterEngine.WebText.LayoutFragmenter
import FlutterEngine.WebText.LineBreaking

/-!
# What a fragmentation is

The fragmenter reads three tilings of a text at once, and its fragments are cut where any of them
is. The fragments of each line-break fragment are followed from its first to its last one, and
what is left at the end of the text belongs to spans without text.
-/

namespace FlutterEngine.WebText

open FlutterEngine.Std Utf16

variable {Style Width : Type}

/-- What a line-break fragment has been cut into. -/
structure IsPieces (lineBreak : LineBreakFragment) (pieces : List (LayoutFragment Style Width)) :
    Prop where
  tiles : Tiles lineBreak.start lineBreak.stop pieces
  types : ∃ before last, pieces = before ++ [last] ∧ last.type = lineBreak.type ∧
    ∀ piece ∈ before, piece.type = .prohibited
  newlines : (pieces.map LayoutFragment.trailingNewlines).sum = lineBreak.trailingNewlines
  spaces : (pieces.map LayoutFragment.trailingSpaces).sum = lineBreak.trailingSpaces

/-- What holds of one fragment: the assertions of its constructor, its run and its span. -/
structure LayoutFragment.IsSound (bidis : List BidiFragment)
    (spans : List (ParagraphSpan Style Width)) (fragment : LayoutFragment Style Width) : Prop where
  newlines_le : fragment.trailingNewlines ≤ fragment.trailingSpaces
  spaces_le : fragment.start + fragment.trailingSpaces ≤ fragment.stop
  bidi : ∃ run ∈ bidis, run.start ≤ fragment.start ∧ fragment.stop ≤ run.stop ∧
    fragment.textDirection = run.textDirection ∧ fragment.fragmentFlow = run.fragmentFlow
  span : fragment.span ∈ spans ∧ fragment.span.start ≤ fragment.start ∧
    fragment.stop ≤ fragment.span.stop

structure IsFragmentation (chars : List Char) (lineBreaks : List LineBreakFragment)
    (bidis : List BidiFragment) (spans : List (ParagraphSpan Style Width))
    (fragments : List (LayoutFragment Style Width)) : Prop where
  tiles : Tiles 0 (units chars) fragments
  boundaries : ∀ fragment ∈ fragments,
    IsBoundary chars fragment.start ∧ IsBoundary chars fragment.stop
  sound : ∀ fragment ∈ fragments, fragment.IsSound bidis spans
  pieces : IsCutting IsPieces lineBreaks fragments
  endOfText : fragments.countP (fun fragment => fragment.type = .endOfText) = 1

/-! ## Cursors -/

namespace Cursor

variable {Item : Type} [Ranged Item] {cursor : Cursor Item} {all : List Item}
  {position later last : Nat}

/-- The position is in the current item, and the items behind it tile the rest. -/
structure Covers (cursor : Cursor Item) (all : List Item) (position last : Nat) : Prop where
  begun : Ranged.start cursor.current ≤ position
  ends : position ≤ Ranged.stop cursor.current
  tiles : Tiles (Ranged.stop cursor.current) last cursor.rest
  mem : ∀ item ∈ cursor.items, item ∈ all

/-- Where a cursor begins. -/
theorem covers_of_tiles {item : Item} {items : List Item}
    (tiles : Tiles position last (item :: items)) :
    Covers ⟨item, items⟩ (item :: items) position last := by
  obtain ⟨begins, ordered, rest⟩ := tiles_cons.mp tiles
  exact ⟨begins.le, begins ▸ ordered, rest, fun _ mem => mem⟩

theorem Covers.current_mem (covers : cursor.Covers all position last) : cursor.current ∈ all :=
  covers.mem _ List.mem_cons_self

theorem Covers.stop_le (covers : cursor.Covers all position last) :
    Ranged.stop cursor.current ≤ last :=
  covers.tiles.le

theorem moveNextAt_of_ne (inside : Ranged.stop cursor.current ≠ later) :
    cursor.moveNextAt later = (cursor, false) :=
  if_neg inside

theorem moveNextAt_nil (none : cursor.rest = []) : cursor.moveNextAt later = (cursor, false) := by
  unfold moveNextAt
  split
  · rw [none]
  · rfl

theorem moveNextAt_cons {next : Item} {rest : List Item}
    (ended : Ranged.stop cursor.current = later) (some : cursor.rest = next :: rest) :
    cursor.moveNextAt later = (⟨next, rest⟩, true) := by
  unfold moveNextAt
  rw [if_pos ended, some]

theorem Covers.moveNextAt (covers : cursor.Covers all position last) (order : position ≤ later)
    (within : later ≤ Ranged.stop cursor.current) :
    (cursor.moveNextAt later).1.Covers all later last := by
  have stays : cursor.Covers all later last :=
    { covers with begun := covers.begun.trans order, ends := within }
  by_cases ended : Ranged.stop cursor.current = later
  · cases rest : cursor.rest with
    | nil =>
      rw [moveNextAt_nil rest]
      exact stays
    | cons next items =>
      have tiles := covers.tiles
      rw [rest, ended] at tiles
      rw [moveNextAt_cons ended rest]
      refine { covers_of_tiles tiles with mem := fun item mem => covers.mem item ?_ }
      rw [Cursor.items, rest]
      exact List.mem_cons_of_mem _ mem
  · rw [moveNextAt_of_ne ended]
    exact stays

/-- Only the last item does not move. -/
theorem Covers.moves (covers : cursor.Covers all position last)
    (ended : Ranged.stop cursor.current = later) (more : later < last) :
    (cursor.moveNextAt later).2 = true := by
  cases rest : cursor.rest with
  | nil =>
    have tiles := covers.tiles
    rw [rest, tiles_nil, ended] at tiles
    exact absurd tiles more.ne
  | cons next items => rw [moveNextAt_cons ended rest]

theorem rest_moveNextAt (ended : Ranged.stop cursor.current = later) :
    (cursor.moveNextAt later).1.rest = cursor.rest.tail := by
  cases rest : cursor.rest with
  | nil => rw [moveNextAt_nil rest, rest, List.tail_nil]
  | cons next items => rw [moveNextAt_cons ended rest, List.tail_cons]

theorem rest_eq_nil (ended : Ranged.stop cursor.current = later)
    (stays : (cursor.moveNextAt later).2 = false) : cursor.rest = [] := by
  cases rest : cursor.rest with
  | nil => rfl
  | cons next items =>
    rw [moveNextAt_cons ended rest] at stays
    cases stays

omit [Ranged Item] in
theorem getLast_nil (none : cursor.rest = []) :
    cursor.items.getLast (List.cons_ne_nil _ _) = cursor.current := by
  obtain ⟨current, rest⟩ := cursor
  obtain rfl : rest = [] := none
  rfl

omit [Ranged Item] in
theorem getLast_cons {next : Item} {rest : List Item} (some : cursor.rest = next :: rest) :
    cursor.items.getLast (List.cons_ne_nil _ _) =
      (Cursor.mk next rest).items.getLast (List.cons_ne_nil _ _) := by
  obtain ⟨current, items⟩ := cursor
  obtain rfl : items = next :: rest := some
  exact List.getLast_cons (List.cons_ne_nil next rest)

/-- How many items end where the tiling does. -/
def ending (cursor : Cursor Item) (last : Nat) : Nat :=
  cursor.items.countP fun item => Ranged.stop item = last

/-- Items that end before the end are not counted. -/
theorem ending_moveNextAt (more : later < last) :
    (cursor.moveNextAt later).1.ending last = cursor.ending last := by
  by_cases ended : Ranged.stop cursor.current = later
  · cases rest : cursor.rest with
    | nil => rw [moveNextAt_nil rest]
    | cons next items =>
      rw [moveNextAt_cons ended rest, ending, ending, Cursor.items, Cursor.items, rest]
      refine (List.countP_cons_of_neg ?_).symm
      rw [decide_eq_true_iff, ended]
      exact more.ne
  · rw [moveNextAt_of_ne ended]

/-- At the end, all items that are left are counted. -/
theorem Covers.ending_eq (covers : cursor.Covers all position last)
    (ended : Ranged.stop cursor.current = last) : cursor.ending last = cursor.rest.length + 1 := by
  have tiles := covers.tiles
  rw [ended] at tiles
  rw [ending, Cursor.items, List.countP_cons_of_pos (by simpa using ended),
    List.countP_eq_length.mpr fun item mem => by simpa using tiles.stop_eq mem]

theorem Covers.ending_pos (covers : cursor.Covers all position last) : 0 < cursor.ending last := by
  rw [ending, List.countP_pos_iff]
  refine ⟨cursor.items.getLast (List.cons_ne_nil _ _), List.getLast_mem _, ?_⟩
  have tiles : Tiles (Ranged.start cursor.current) last cursor.items :=
    tiles_cons.mpr ⟨rfl, covers.begun.trans covers.ends, covers.tiles⟩
  rw [decide_eq_true_iff]
  exact tiles.stop_getLast (List.cons_ne_nil _ _)

end Cursor

/-! ## The loop -/

namespace LayoutFragmenter

variable {state next : LayoutFragmenter Style Width} {lineBreaks : List LineBreakFragment}
  {bidis : List BidiFragment} {spans : List (ParagraphSpan Style Width)} {length : Nat}

/-- The three iterators are at the position. -/
structure Reads (lineBreaks : List LineBreakFragment) (bidis : List BidiFragment)
    (spans : List (ParagraphSpan Style Width)) (length : Nat)
    (state : LayoutFragmenter Style Width) : Prop where
  lineBreaks : state.lineBreakFragments.Covers lineBreaks state.fragmentStart length
  bidis : state.bidiFragments.Covers bidis state.fragmentStart length
  spans : state.spans.Covers spans state.fragmentStart length

theorem fragmentEnd_le_lineBreak : state.fragmentEnd ≤ state.lineBreakFragments.current.stop :=
  min_le_left ..

theorem fragmentEnd_le_bidi : state.fragmentEnd ≤ state.bidiFragments.current.stop :=
  (min_le_right ..).trans (min_le_left ..)

theorem fragmentEnd_le_span : state.fragmentEnd ≤ state.spans.current.stop :=
  (min_le_right ..).trans (min_le_right ..)

theorem fragmentEnd_eq (state : LayoutFragmenter Style Width) :
    state.lineBreakFragments.current.stop = state.fragmentEnd ∨
      state.bidiFragments.current.stop = state.fragmentEnd ∨
        state.spans.current.stop = state.fragmentEnd := by
  unfold fragmentEnd
  omega

namespace Reads

theorem le_fragmentEnd (reads : state.Reads lineBreaks bidis spans length) :
    state.fragmentStart ≤ state.fragmentEnd :=
  le_min reads.lineBreaks.ends (le_min reads.bidis.ends reads.spans.ends)

theorem fragmentEnd_le (reads : state.Reads lineBreaks bidis spans length) :
    state.fragmentEnd ≤ length :=
  fragmentEnd_le_lineBreak.trans reads.lineBreaks.stop_le

end Reads

/-- What the iterators are moved to. -/
theorem moved_eq_some (moves : state.moved = some next) :
    next = ⟨state.fragmentEnd, (state.lineBreakFragments.moveNextAt state.fragmentEnd).1,
      (state.bidiFragments.moveNextAt state.fragmentEnd).1,
      (state.spans.moveNextAt state.fragmentEnd).1⟩ := by
  unfold moved at moves
  dsimp only at moves
  split at moves
  · exact (Option.some.inj moves).symm
  · cases moves

theorem moved_eq_none (stays : state.moved = none) :
    (state.lineBreakFragments.moveNextAt state.fragmentEnd).2 = false ∧
      (state.bidiFragments.moveNextAt state.fragmentEnd).2 = false ∧
        (state.spans.moveNextAt state.fragmentEnd).2 = false := by
  unfold moved at stays
  dsimp only at stays
  split at stays
  · cases stays
  · next none =>
      simpa [and_assoc] using none

theorem Reads.moved (reads : state.Reads lineBreaks bidis spans length)
    (moves : state.moved = some next) : next.Reads lineBreaks bidis spans length := by
  rw [moved_eq_some moves]
  exact ⟨reads.lineBreaks.moveNextAt reads.le_fragmentEnd fragmentEnd_le_lineBreak,
    reads.bidis.moveNextAt reads.le_fragmentEnd fragmentEnd_le_bidi,
    reads.spans.moveNextAt reads.le_fragmentEnd fragmentEnd_le_span⟩

/-- The loop is left where all iterators are on their last items. -/
theorem Reads.last (reads : state.Reads lineBreaks bidis spans length)
    (stays : state.moved = none) : state.fragmentEnd = length := by
  obtain ⟨lineBreak, bidi, span⟩ := moved_eq_none stays
  refine le_antisymm reads.fragmentEnd_le (not_lt.mp fun more => ?_)
  obtain ended | ended | ended := fragmentEnd_eq state
  · exact Bool.false_ne_true (lineBreak.symm.trans (reads.lineBreaks.moves ended more))
  · exact Bool.false_ne_true (bidi.symm.trans (reads.bidis.moves ended more))
  · exact Bool.false_ne_true (span.symm.trans (reads.spans.moves ended more))

theorem run_of_none (stays : state.moved = none) : state.run = [state.current] := by
  rw [run]
  split
  · rfl
  · next some => cases stays.symm.trans some

theorem run_of_some (moves : state.moved = some next) : state.run = state.current :: next.run := by
  rw [run]
  split
  · next none => cases moves.symm.trans none
  · next some => rw [Option.some.inj (moves.symm.trans some)]

/-- Induction on the rounds that are left. -/
theorem run_induction {motive : LayoutFragmenter Style Width → Prop}
    (last : ∀ state, state.moved = none → motive state)
    (step : ∀ state next, state.moved = some next → motive next → motive state)
    (state : LayoutFragmenter Style Width) : motive state := by
  induction rounds : state.remaining using Nat.strong_induction_on generalizing state with
  | _ rounds ih =>
    cases moves : state.moved with
    | none => exact last state moves
    | some next =>
      exact step state next moves (ih _ (rounds ▸ remaining_moved moves) next rfl)

/-- What each round gives, each fragment has. -/
theorem forall_mem_run {invariant : LayoutFragmenter Style Width → Prop}
    {property : LayoutFragment Style Width → Prop}
    (holds : ∀ state, invariant state → property state.current)
    (kept : ∀ state next, invariant state → state.moved = some next → invariant next)
    (begins : invariant state) : ∀ fragment ∈ state.run, property fragment := by
  induction state using run_induction with
  | last state stays =>
    intro fragment mem
    rw [run_of_none stays] at mem
    rw [List.mem_singleton.mp mem]
    exact holds state begins
  | step state next moves ih =>
    intro fragment mem
    rw [run_of_some moves] at mem
    rcases List.mem_cons.mp mem with rfl | later
    · exact holds state begins
    · exact ih (kept state next begins moves) fragment later

variable (reads : state.Reads lineBreaks bidis spans length)

include reads

theorem tiles_run :
    Tiles state.fragmentStart length state.run := by
  induction state using run_induction with
  | last state stays =>
    rw [run_of_none stays]
    exact tiles_cons.mpr ⟨rfl, reads.le_fragmentEnd, tiles_nil.mpr (reads.last stays)⟩
  | step state next moves ih =>
    rw [run_of_some moves]
    have tiles := ih (reads.moved moves)
    rw [moved_eq_some moves] at tiles ⊢
    exact tiles_cons.mpr ⟨rfl, reads.le_fragmentEnd, tiles⟩

theorem isSound_current (newlines_le : ∀ lineBreak ∈ lineBreaks,
      lineBreak.trailingNewlines ≤ lineBreak.trailingSpaces) :
    state.current.IsSound bidis spans := by
  have order := reads.le_fragmentEnd
  have newlines := newlines_le _ reads.lineBreaks.current_mem
  refine ⟨?_, ?_, ?_, ?_⟩
  · unfold current
    dsimp only
    omega
  · unfold current
    dsimp only
    omega
  · exact ⟨_, reads.bidis.current_mem, reads.bidis.begun, fragmentEnd_le_bidi, rfl, rfl⟩
  · exact ⟨reads.spans.current_mem, reads.spans.begun, fragmentEnd_le_span⟩

theorem isSound_run (newlines_le : ∀ lineBreak ∈ lineBreaks,
      lineBreak.trailingNewlines ≤ lineBreak.trailingSpaces) :
    ∀ fragment ∈ state.run, fragment.IsSound bidis spans :=
  forall_mem_run (fun _ reads => isSound_current reads newlines_le)
    (fun _ _ reads moves => reads.moved moves) reads

/-- Fragments end where an item of a tiling does. -/
theorem isBoundary_run {chars : List Char} (begins : IsBoundary chars state.fragmentStart)
    (lineBreak_stops : ∀ lineBreak ∈ lineBreaks, IsBoundary chars lineBreak.stop)
    (bidi_stops : ∀ bidi ∈ bidis, IsBoundary chars bidi.stop)
    (span_stops : ∀ span ∈ spans, IsBoundary chars span.stop) :
    ∀ fragment ∈ state.run,
      IsBoundary chars fragment.start ∧ IsBoundary chars fragment.stop := by
  have ends : ∀ state : LayoutFragmenter Style Width,
      state.Reads lineBreaks bidis spans length → IsBoundary chars state.fragmentEnd := by
    intro state reads
    obtain ended | ended | ended := fragmentEnd_eq state
    · exact ended ▸ lineBreak_stops _ reads.lineBreaks.current_mem
    · exact ended ▸ bidi_stops _ reads.bidis.current_mem
    · exact ended ▸ span_stops _ reads.spans.current_mem
  have kept : ∀ state next : LayoutFragmenter Style Width,
      state.Reads lineBreaks bidis spans length ∧ IsBoundary chars state.fragmentStart →
      state.moved = some next →
      next.Reads lineBreaks bidis spans length ∧ IsBoundary chars next.fragmentStart := by
    rintro state next ⟨reads, -⟩ moves
    refine ⟨reads.moved moves, ?_⟩
    rw [moved_eq_some moves]
    exact ends state reads
  exact forall_mem_run (fun state both => ⟨both.2, ends state both.1⟩) kept ⟨reads, begins⟩

end LayoutFragmenter

/-! ## The pieces of a line-break fragment -/

/-- What is left of a line-break fragment from a position on. -/
def LineBreakFragment.since (lineBreak : LineBreakFragment) (position : Nat) :
    LineBreakFragment :=
  { lineBreak with
    start := position
    trailingNewlines := min lineBreak.trailingNewlines (lineBreak.stop - position)
    trailingSpaces := min lineBreak.trailingSpaces (lineBreak.stop - position) }

/-- The counts of a line-break fragment that the scanning has made. -/
def LineBreakFragment.Counts (lineBreak : LineBreakFragment) : Prop :=
  lineBreak.trailingNewlines ≤ lineBreak.trailingSpaces ∧
    lineBreak.start + lineBreak.trailingSpaces ≤ lineBreak.stop

theorem LineBreakFragment.since_start {lineBreak : LineBreakFragment} (counts : lineBreak.Counts) :
    lineBreak.since lineBreak.start = lineBreak := by
  obtain ⟨newlines_le, spaces_le⟩ := counts
  unfold since
  rw [Nat.min_eq_left (by omega), Nat.min_eq_left (by omega)]

namespace LayoutFragmenter

variable {state next : LayoutFragmenter Style Width} {lineBreaks : List LineBreakFragment}
  {bidis : List BidiFragment} {spans : List (ParagraphSpan Style Width)} {length : Nat}

/-- The last piece. -/
theorem isPieces_last (reads : state.Reads lineBreaks bidis spans length)
    (ended : state.lineBreakFragments.current.stop = state.fragmentEnd) :
    IsPieces (state.lineBreakFragments.current.since state.fragmentStart) [state.current] where
  tiles := tiles_cons.mpr ⟨rfl, reads.le_fragmentEnd, tiles_nil.mpr ended.symm⟩
  types := by
    refine ⟨[], state.current, rfl, if_pos ?_, fun _ mem => nomatch mem⟩
    rw [ended, Nat.sub_self]
  newlines := by
    unfold current LineBreakFragment.since
    simp [ended]
  spaces := by
    unfold current LineBreakFragment.since
    simp [ended]

/-- A piece before the last one. -/
theorem isPieces_inner (reads : state.Reads lineBreaks bidis spans length)
    (inside : state.fragmentEnd < state.lineBreakFragments.current.stop)
    {pieces : List (LayoutFragment Style Width)}
    (rest : IsPieces (state.lineBreakFragments.current.since state.fragmentEnd) pieces) :
    IsPieces (state.lineBreakFragments.current.since state.fragmentStart)
      (state.current :: pieces) := by
  have order := reads.le_fragmentEnd
  obtain ⟨tiles, ⟨before, last, rfl, type, prohibited⟩, newlines, spaces⟩ := rest
  refine ⟨tiles_cons.mpr ⟨rfl, order, tiles⟩, ⟨state.current :: before, last, rfl, type, ?_⟩,
    ?_, ?_⟩
  · intro piece mem
    rcases List.mem_cons.mp mem with rfl | later
    · exact if_neg (Nat.sub_pos_of_lt inside).ne'
    · exact prohibited piece later
  · rw [List.map_cons, List.sum_cons, newlines]
    unfold current LineBreakFragment.since
    dsimp only
    omega
  · rw [List.map_cons, List.sum_cons, spaces]
    unfold current LineBreakFragment.since
    dsimp only
    omega

/-- At the end of the text, all current items end. -/
theorem Reads.stops (reads : state.Reads lineBreaks bidis spans length)
    (ended : state.fragmentEnd = length) :
    state.lineBreakFragments.current.stop = state.fragmentEnd ∧
      state.bidiFragments.current.stop = state.fragmentEnd ∧
        state.spans.current.stop = state.fragmentEnd :=
  ⟨le_antisymm (ended ▸ reads.lineBreaks.stop_le) fragmentEnd_le_lineBreak,
    le_antisymm (ended ▸ reads.bidis.stop_le) fragmentEnd_le_bidi,
    le_antisymm (ended ▸ reads.spans.stop_le) fragmentEnd_le_span⟩

theorem type_current (ended : state.lineBreakFragments.current.stop = state.fragmentEnd) :
    state.current.type = state.lineBreakFragments.current.type :=
  if_pos (Nat.sub_eq_zero_of_le ended.le)

section

variable (reads : state.Reads lineBreaks bidis spans length)

include reads

/-- Behind the last line-break fragment and the last run, each span that is left gives one more
fragment. -/
theorem run_end
    (lineBreak : state.lineBreakFragments.rest = []) (bidi : state.bidiFragments.rest = [])
    (ended : state.fragmentEnd = length) :
    state.run.length = state.spans.rest.length + 1 ∧
      ∀ fragment ∈ state.run, fragment.type = state.lineBreakFragments.current.type := by
  induction state using run_induction with
  | last state stays =>
    obtain ⟨lineBreak_stop, -, span_stop⟩ := reads.stops ended
    rw [run_of_none stays, Cursor.rest_eq_nil span_stop (moved_eq_none stays).2.2]
    refine ⟨rfl, fun fragment mem => ?_⟩
    rw [List.mem_singleton.mp mem]
    exact type_current lineBreak_stop
  | step state next moves ih =>
    obtain ⟨lineBreak_stop, -, span_stop⟩ := reads.stops ended
    have fewer := remaining_moved moves
    have later := reads.moved moves
    have next_eq := moved_eq_some moves
    rw [Cursor.moveNextAt_nil lineBreak, Cursor.moveNextAt_nil bidi] at next_eq
    rw [run_of_some moves]
    subst next_eq
    have stays := le_antisymm later.fragmentEnd_le (ended ▸ later.le_fragmentEnd)
    obtain ⟨length_eq, types⟩ := ih later lineBreak bidi stays
    unfold remaining at fewer
    dsimp only at fewer length_eq
    rw [Cursor.rest_moveNextAt span_stop, List.length_tail] at fewer length_eq
    refine ⟨?_, fun fragment mem => ?_⟩
    · rw [List.length_cons, length_eq]
      omega
    · rcases List.mem_cons.mp mem with rfl | mem
      · exact type_current lineBreak_stop
      · exact types fragment mem

/-- One run only ends at the end of the text, before a round and after it. -/
theorem Reads.oneBidi (oneBidi : state.bidiFragments.ending length = 1) :
    (state.bidiFragments.moveNextAt state.fragmentEnd).1.ending length = 1 := by
  by_cases more : state.fragmentEnd < length
  · rw [Cursor.ending_moveNextAt more]
    exact oneBidi
  · have ended := le_antisymm reads.fragmentEnd_le (not_lt.mp more)
    have rest := reads.bidis.ending_eq ((reads.stops ended).2.1.trans ended)
    rw [Cursor.moveNextAt_nil (List.length_eq_zero_iff.mp (by omega))]
    exact oneBidi

/-- A round that closes a line-break fragment and not the last one takes as many spans as
line-break fragments from the end. -/
theorem Reads.ending_sub {lineBreak : LineBreakFragment} {rest : List LineBreakFragment}
    (some : state.lineBreakFragments.rest = lineBreak :: rest)
    (closes : state.lineBreakFragments.current.stop = state.fragmentEnd) :
    (state.spans.moveNextAt state.fragmentEnd).1.ending length -
        (Cursor.mk lineBreak rest).ending length =
      state.spans.ending length - state.lineBreakFragments.ending length := by
  have moves := Cursor.moveNextAt_cons closes some
  have lineBreaks_later := reads.lineBreaks.moveNextAt reads.le_fragmentEnd closes.ge
  have spans_later := reads.spans.moveNextAt reads.le_fragmentEnd fragmentEnd_le_span
  rw [moves] at lineBreaks_later
  change (Cursor.mk lineBreak rest).Covers lineBreaks state.fragmentEnd length at lineBreaks_later
  by_cases more : state.fragmentEnd < length
  · have same : (state.lineBreakFragments.moveNextAt state.fragmentEnd).1.ending length =
        state.lineBreakFragments.ending length := Cursor.ending_moveNextAt more
    rw [moves] at same
    rw [Cursor.ending_moveNextAt more, same]
  · have ended := le_antisymm reads.fragmentEnd_le (not_lt.mp more)
    obtain ⟨-, -, span_stop⟩ := reads.stops ended
    have span_ends := le_antisymm spans_later.stop_le (ended.symm.le.trans spans_later.ends)
    have lineBreak_ends :=
      le_antisymm lineBreaks_later.stop_le (ended.symm.le.trans lineBreaks_later.ends)
    rw [spans_later.ending_eq span_ends, Cursor.rest_moveNextAt span_stop,
      lineBreaks_later.ending_eq lineBreak_ends, reads.spans.ending_eq (span_stop.trans ended),
      reads.lineBreaks.ending_eq (closes.trans ended), some, List.length_tail, List.length_cons]
    dsimp only
    omega

/-- The pieces of the line-break fragments, and what the spans at the end add to them. -/
theorem cutting_run (counts : ∀ lineBreak ∈ lineBreaks, lineBreak.Counts)
    (oneBidi : state.bidiFragments.ending length = 1)
    (last : (state.lineBreakFragments.items.getLast (List.cons_ne_nil _ _)).type = .endOfText) :
    ∃ pieces extra, state.run = pieces ++ extra ∧
      IsCutting IsPieces (state.lineBreakFragments.current.since state.fragmentStart ::
        state.lineBreakFragments.rest) pieces ∧
      extra.length = state.spans.ending length - state.lineBreakFragments.ending length ∧
      ∀ fragment ∈ extra, fragment.type = .endOfText := by
  induction state using run_induction with
  | last state stays =>
    have ended := reads.last stays
    obtain ⟨lineBreak_stop, -, span_stop⟩ := reads.stops ended
    obtain ⟨lineBreak, -, span⟩ := moved_eq_none stays
    refine ⟨[state.current], [], run_of_none stays, ?_, ?_, fun _ mem => nomatch mem⟩
    · rw [Cursor.rest_eq_nil lineBreak_stop lineBreak]
      exact .cons (isPieces_last reads lineBreak_stop) .nil
    · rw [reads.spans.ending_eq (span_stop.trans ended), Cursor.rest_eq_nil span_stop span]
      have some := reads.lineBreaks.ending_pos
      rw [List.length_nil, List.length_nil]
      omega
  | step state next moves ih =>
    have later := reads.moved moves
    have run_eq := run_of_some moves
    have next_eq := moved_eq_some moves
    subst next_eq
    by_cases closes : state.lineBreakFragments.current.stop = state.fragmentEnd
    · cases rest : state.lineBreakFragments.rest with
      | nil =>
        have tiles := reads.lineBreaks.tiles
        rw [rest, tiles_nil] at tiles
        have ended := closes.symm.trans tiles
        obtain ⟨-, bidi_stop, span_stop⟩ := reads.stops ended
        have bidis := reads.bidis.ending_eq (bidi_stop.trans ended)
        obtain ⟨length_eq, types⟩ := run_end reads rest
          (List.length_eq_zero_iff.mp (by omega)) ended
        have type : state.lineBreakFragments.current.type = .endOfText := by
          rw [← last, Cursor.getLast_nil rest]
        rw [run_eq] at length_eq types ⊢
        refine ⟨[state.current], _, rfl, .cons (isPieces_last reads closes) .nil, ?_, ?_⟩
        · rw [List.length_cons] at length_eq
          rw [reads.spans.ending_eq (span_stop.trans ended), reads.lineBreaks.ending_eq tiles,
            rest, List.length_nil]
          omega
        · intro fragment mem
          rw [← type]
          exact types fragment (List.mem_cons_of_mem _ mem)
      | cons lineBreak lineBreaks' =>
        have ending_sub := reads.ending_sub rest closes
        rw [Cursor.moveNextAt_cons closes rest] at ih later run_eq
        rw [Cursor.getLast_cons rest] at last
        obtain ⟨pieces, extra, run, cutting, length_eq, types⟩ :=
          ih later (reads.oneBidi oneBidi) last
        have begins : lineBreak.start = state.fragmentEnd := by
          have tiles := reads.lineBreaks.tiles
          rw [rest] at tiles
          exact (tiles_cons.mp tiles).1.trans closes
        have whole := LineBreakFragment.since_start
          (counts lineBreak later.lineBreaks.current_mem)
        rw [begins] at whole
        dsimp only at cutting
        rw [whole] at cutting
        refine ⟨[state.current] ++ pieces, extra, ?_,
          cutting.cons (isPieces_last reads closes), ?_, types⟩
        · rw [run_eq, run]
          rfl
        · exact length_eq.trans ending_sub
    · have inside := lt_of_le_of_ne fragmentEnd_le_lineBreak (Ne.symm closes)
      have more : state.fragmentEnd < length := inside.trans_le reads.lineBreaks.stop_le
      rw [Cursor.moveNextAt_of_ne closes] at ih later run_eq
      obtain ⟨pieces, extra, run, cutting, length_eq, types⟩ :=
        ih later (reads.oneBidi oneBidi) last
      refine ⟨state.current :: pieces, extra, ?_, ?_, ?_, types⟩
      · rw [run_eq, run, List.cons_append]
      · exact cutting.consPiece fun group => isPieces_inner reads inside
      · rw [length_eq]
        dsimp only
        rw [Cursor.ending_moveNextAt more]

/-- The last fragment is the end of the text. -/
theorem getLast_run
    (last : (state.lineBreakFragments.items.getLast (List.cons_ne_nil _ _)).type = .endOfText) :
    ∃ before fragment, state.run = before ++ [fragment] ∧ fragment.type = .endOfText := by
  induction state using run_induction with
  | last state stays =>
    obtain ⟨lineBreak_stop, -, -⟩ := reads.stops (reads.last stays)
    have none := Cursor.rest_eq_nil lineBreak_stop (moved_eq_none stays).1
    rw [Cursor.getLast_nil none] at last
    exact ⟨[], _, run_of_none stays, (type_current lineBreak_stop).trans last⟩
  | step state next moves ih =>
    have later := reads.moved moves
    have next_eq := moved_eq_some moves
    have last_later :
        (next.lineBreakFragments.items.getLast (List.cons_ne_nil _ _)).type = .endOfText := by
      rw [next_eq]
      by_cases closes : state.lineBreakFragments.current.stop = state.fragmentEnd
      · cases rest : state.lineBreakFragments.rest with
        | nil =>
          rw [Cursor.moveNextAt_nil rest]
          exact last
        | cons lineBreak lineBreaks' =>
          rw [Cursor.moveNextAt_cons closes rest]
          rw [Cursor.getLast_cons rest] at last
          exact last
      · rw [Cursor.moveNextAt_of_ne closes]
        exact last
    obtain ⟨before, fragment, run_eq, type⟩ := ih later last_later
    refine ⟨state.current :: before, fragment, ?_, type⟩
    rw [run_of_some moves, run_eq, List.cons_append]

end

/-! ## The fragmenter -/

/-- The fragments of any text: those that the line-break fragments have been cut into, and one
more for each span that is left at the end. -/
theorem fragment_spec {text : DartString} (fragmenter : LineBreakFragmenter) (some : spans ≠ [])
    (tiles : Tiles 0 text.length spans) :
    ∃ fragments, fragment fragmenter text spans = Option.some fragments ∧
      Tiles 0 text.length fragments ∧
      (∀ fragment ∈ fragments, fragment.IsSound (computeBidiFragments text) spans) ∧
      (∀ chars, text = encode chars → (∀ span ∈ spans, IsBoundary chars span.stop) →
        ∀ fragment ∈ fragments,
          IsBoundary chars fragment.start ∧ IsBoundary chars fragment.stop) ∧
      (∃ before fragment, fragments = before ++ [fragment] ∧ fragment.type = .endOfText) ∧
      ∃ pieces extra, fragments = pieces ++ extra ∧
        IsCutting IsPieces (fragmenter.fragment text) pieces ∧
        extra.length = spans.countP (fun span => span.stop = text.length) -
          (fragmenter.fragment text).countP (fun lineBreak => lineBreak.stop = text.length) ∧
        ∀ fragment ∈ extra, fragment.type = .endOfText := by
  have breaking := fragmenter.isLineBreaking text
  have bidi_tiles := tiles_computeBidiFragments text
  have oneBidi := countP_stop_computeBidiFragments text
  have bidi_stops : ∀ chars, text = encode chars → ∀ bidi ∈ computeBidiFragments text,
      IsBoundary chars bidi.stop := by
    rintro chars rfl bidi mem
    exact isBoundary_stop_bidi mem
  unfold fragment
  generalize fragmenter.fragment text = lineBreaks at *
  generalize computeBidiFragments text = bidis at *
  obtain ⟨span, spans, rfl⟩ := List.exists_cons_of_ne_nil some
  obtain ⟨before, last, same, type, -⟩ := breaking.types
  obtain ⟨lineBreak, lineBreaks, rfl⟩ :=
    List.exists_cons_of_ne_nil (same ▸ List.append_ne_nil_of_right_ne_nil before (by simp))
  cases bidis with
  | nil => cases oneBidi
  | cons bidi bidis =>
    dsimp only
    let begins : LayoutFragmenter Style Width :=
      ⟨0, ⟨lineBreak, lineBreaks⟩, ⟨bidi, bidis⟩, ⟨span, spans⟩⟩
    have reads : begins.Reads (lineBreak :: lineBreaks) (bidi :: bidis) (span :: spans)
        text.length :=
      ⟨Cursor.covers_of_tiles breaking.tiles, Cursor.covers_of_tiles bidi_tiles,
        Cursor.covers_of_tiles tiles⟩
    have counts : ∀ lineBreak' ∈ lineBreak :: lineBreaks, lineBreak'.Counts := fun _ mem =>
      ⟨breaking.newlines_le _ mem, breaking.spaces_le _ mem⟩
    have ends : ((Cursor.mk lineBreak lineBreaks).items.getLast
        (List.cons_ne_nil _ _)).type = .endOfText := by
      have last_eq : (Cursor.mk lineBreak lineBreaks).items.getLast
          (List.cons_ne_nil _ _) = last := by
        simp only [Cursor.items, same, List.getLast_append_singleton]
      rw [last_eq]
      exact type
    refine ⟨begins.run, rfl, tiles_run reads, isSound_run reads breaking.newlines_le, ?_,
      getLast_run reads ends, ?_⟩
    · intro chars text_eq span_stops
      exact isBoundary_run reads ⟨[], chars, rfl, rfl⟩
        (fun lineBreak' mem => breaking.places lineBreak' mem chars text_eq)
        (bidi_stops chars text_eq) span_stops
    · obtain ⟨pieces, extra, run, cutting, length_eq, types⟩ :=
        cutting_run reads counts oneBidi ends
      have zero : lineBreak.start = 0 := (tiles_cons.mp breaking.tiles).1
      have whole := LineBreakFragment.since_start (counts lineBreak List.mem_cons_self)
      rw [zero] at whole
      change IsCutting IsPieces (lineBreak.since 0 :: lineBreaks) pieces at cutting
      rw [whole] at cutting
      exact ⟨pieces, extra, run, cutting, length_eq, types⟩

end LayoutFragmenter

end FlutterEngine.WebText
