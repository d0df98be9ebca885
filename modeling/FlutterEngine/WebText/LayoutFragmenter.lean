import FlutterEngine.WebText.LineBreaker
import FlutterEngine.WebText.TextDirection

/-!
# Layout fragments

`layout_fragmenter.dart`, and what builds the spans in `canvas_paragraph.dart`. The metrics and
the position of a fragment are set by the layout.
-/

namespace FlutterEngine.WebText

open FlutterEngine.Std Utf16

/-! ## Spans -/

/-- A placeholder, of a width, or text. -/
structure ParagraphSpan (Style Width : Type) where
  start : Nat
  stop : Nat
  style : Style
  placeholder : Option Width

variable {Style Width : Type}

instance : Ranged (ParagraphSpan Style Width) := ⟨ParagraphSpan.start, ParagraphSpan.stop⟩

/-- The text and the spans of `CanvasParagraphBuilder`. -/
structure CanvasParagraphBuilder (Style Width : Type) where
  plainText : DartString := []
  spans : List (ParagraphSpan Style Width) := []

namespace CanvasParagraphBuilder

variable (builder : CanvasParagraphBuilder Style Width)

/-- What is written takes a span. -/
def write (style : Style) (placeholder : Option Width) (text : DartString) :
    CanvasParagraphBuilder Style Width where
  plainText := builder.plainText ++ text
  spans := builder.spans ++
    [⟨builder.plainText.length, builder.plainText.length + text.length, style, placeholder⟩]

def addText (style : Style) (text : DartString) : CanvasParagraphBuilder Style Width :=
  builder.write style none text

/-- `placeholderChar`. -/
def placeholderChar : UInt16 := 0xFFFC

def addPlaceholder (style : Style) (width : Width) : CanvasParagraphBuilder Style Width :=
  builder.write style (some width) [placeholderChar]

/-- `build`: the spans of the paragraph. -/
def build (rootStyle : Style) : List (ParagraphSpan Style Width) :=
  if builder.spans.isEmpty then [⟨0, 0, rootStyle, none⟩] else builder.spans

/-- The builders that calls lead to, with the characters of their texts. -/
inductive Builds : List Char → CanvasParagraphBuilder Style Width → Prop where
  | empty : Builds [] {}
  | addText {chars : List Char} {builder : CanvasParagraphBuilder Style Width}
      (builds : Builds chars builder) (style : Style) (text : List Char) :
      Builds (chars ++ text) (builder.addText style (encode text))
  | addPlaceholder {chars : List Char} {builder : CanvasParagraphBuilder Style Width}
      (builds : Builds chars builder) (style : Style) (width : Width) :
      Builds (chars ++ ['\uFFFC']) (builder.addPlaceholder style width)

/-- Spans that cover a text and are cut at code points. -/
structure Covers (chars : List Char) (spans : List (ParagraphSpan Style Width)) : Prop where
  tiles : Tiles 0 (units chars) spans
  boundaries : ∀ span ∈ spans, IsBoundary chars span.stop

variable {chars : List Char}

theorem isBoundary_append (more : List Char) {index : Int}
    (boundary : IsBoundary chars index) : IsBoundary (chars ++ more) index := by
  obtain ⟨before, after, rfl, same⟩ := boundary
  exact ⟨before, after ++ more, List.append_assoc .., same⟩

theorem covers_write {builder : CanvasParagraphBuilder Style Width}
    (written : builder.plainText = encode chars) (covers : Covers chars builder.spans)
    (style : Style) (placeholder : Option Width) (text : List Char) :
    (builder.write style placeholder (encode text)).plainText = encode (chars ++ text) ∧
      Covers (chars ++ text) (builder.write style placeholder (encode text)).spans := by
  unfold write
  rw [written, length_encode, length_encode]
  refine ⟨(encode_append chars text).symm, ?_, fun span mem => ?_⟩
  · rw [units_append]
    exact covers.tiles.append
      (tiles_cons.mpr ⟨rfl, Nat.le_add_right _ _, tiles_nil.mpr rfl⟩)
  · rcases List.mem_append.mp mem with mem | mem
    · exact isBoundary_append text (covers.boundaries span mem)
    · rw [List.mem_singleton.mp mem]
      exact ⟨chars ++ text, [], (List.append_nil _).symm, by rw [units_append]⟩

variable {builder}

theorem Builds.covers (builds : Builds chars builder) :
    builder.plainText = encode chars ∧ Covers chars builder.spans := by
  induction builds with
  | empty => exact ⟨rfl, tiles_nil.mpr rfl, fun _ mem => nomatch mem⟩
  | addText _ style text ih => exact covers_write ih.1 ih.2 style none text
  | addPlaceholder _ style width ih => exact covers_write ih.1 ih.2 style (some width) ['\uFFFC']

/-- The spans of a paragraph are never none, and they cover its text. -/
theorem Builds.build (builds : Builds chars builder) (rootStyle : Style) :
    builder.build rootStyle ≠ [] ∧ Covers chars (builder.build rootStyle) := by
  obtain ⟨-, covers⟩ := builds.covers
  unfold CanvasParagraphBuilder.build
  split
  · next none =>
      have empty := covers.tiles
      rw [List.isEmpty_iff.mp none, tiles_nil] at empty
      refine ⟨List.cons_ne_nil _ _, ?_, fun span mem => ?_⟩
      · rw [← empty]
        exact tiles_cons.mpr ⟨rfl, le_rfl, tiles_nil.mpr rfl⟩
      · rw [List.mem_singleton.mp mem]
        exact ⟨[], chars, rfl, rfl⟩
  · next some => exact ⟨fun none => some (List.isEmpty_iff.mpr none), covers⟩

end CanvasParagraphBuilder

/-! ## Fragments -/

structure LayoutFragment (Style Width : Type) where
  start : Nat
  stop : Nat
  type : LineBreakType
  textDirection : Option TextDirection
  fragmentFlow : FragmentFlow
  span : ParagraphSpan Style Width
  trailingNewlines : Nat
  trailingSpaces : Nat

instance : Ranged (LayoutFragment Style Width) := ⟨LayoutFragment.start, LayoutFragment.stop⟩

namespace LayoutFragment

variable (fragment : LayoutFragment Style Width)

def length : Nat := fragment.stop - fragment.start

def isSpaceOnly : Bool := fragment.length = fragment.trailingSpaces

def isPlaceholder : Bool := fragment.span.placeholder.isSome

def isBreak : Bool := fragment.type ≠ .prohibited

def isHardBreak : Bool := fragment.type = .mandatory || fragment.type = .endOfText

/-- Called where `start ≤ index ≤ stop`, as it asserts. -/
def split (index : Nat) :
    Option (LayoutFragment Style Width) × Option (LayoutFragment Style Width) :=
  if fragment.start = index then (none, some fragment)
  else if fragment.stop = index then (some fragment, none)
  else
    let secondLength := fragment.stop - index
    let secondTrailingNewlines := min fragment.trailingNewlines secondLength
    let secondTrailingSpaces := min fragment.trailingSpaces secondLength
    (some { fragment with
      stop := index
      type := .prohibited
      trailingNewlines := fragment.trailingNewlines - secondTrailingNewlines
      trailingSpaces := fragment.trailingSpaces - secondTrailingSpaces },
    some { fragment with
      start := index
      trailingNewlines := secondTrailingNewlines
      trailingSpaces := secondTrailingSpaces })

end LayoutFragment

/-! ## The fragmenter -/

/-- An iterator on one of its items. -/
structure Cursor (Item : Type) where
  current : Item
  rest : List Item

namespace Cursor

variable {Item : Type} [Ranged Item] (cursor : Cursor Item)

/-- All that is still to be read. -/
def items : List Item := cursor.current :: cursor.rest

/-- `moveNext` where the current item ends at the position; the flag tells that it has moved. -/
def moveNextAt (position : Nat) : Cursor Item × Bool :=
  if Ranged.stop cursor.current = position then
    match cursor.rest with
    | [] => (cursor, false)
    | next :: rest => (⟨next, rest⟩, true)
  else (cursor, false)

end Cursor

/-- The variables of `LayoutFragmenter.fragment`. -/
structure LayoutFragmenter (Style Width : Type) where
  fragmentStart : Nat
  lineBreakFragments : Cursor LineBreakFragment
  bidiFragments : Cursor BidiFragment
  spans : Cursor (ParagraphSpan Style Width)

namespace LayoutFragmenter

variable (state : LayoutFragmenter Style Width)

def fragmentEnd : Nat :=
  min state.lineBreakFragments.current.stop
    (min state.bidiFragments.current.stop state.spans.current.stop)

/-- The fragment of one round. The differences end at 0, as `clampInt` makes them do. -/
def current : LayoutFragment Style Width :=
  let currentLineBreakFragment := state.lineBreakFragments.current
  let distanceFromLineBreak := currentLineBreakFragment.stop - state.fragmentEnd
  let fragmentLength := state.fragmentEnd - state.fragmentStart
  { start := state.fragmentStart
    stop := state.fragmentEnd
    type := if distanceFromLineBreak = 0 then currentLineBreakFragment.type else .prohibited
    textDirection := state.bidiFragments.current.textDirection
    fragmentFlow := state.bidiFragments.current.fragmentFlow
    span := state.spans.current
    trailingNewlines :=
      min (currentLineBreakFragment.trailingNewlines - distanceFromLineBreak) fragmentLength
    trailingSpaces :=
      min (currentLineBreakFragment.trailingSpaces - distanceFromLineBreak) fragmentLength }

/-- The iterators are moved; none where none of them has moved. -/
def moved : Option (LayoutFragmenter Style Width) :=
  let lineBreakFragments := state.lineBreakFragments.moveNextAt state.fragmentEnd
  let bidiFragments := state.bidiFragments.moveNextAt state.fragmentEnd
  let spans := state.spans.moveNextAt state.fragmentEnd
  if lineBreakFragments.2 || bidiFragments.2 || spans.2 then
    some ⟨state.fragmentEnd, lineBreakFragments.1, bidiFragments.1, spans.1⟩
  else none

/-- How many items the iterators have not come to. -/
def remaining : Nat :=
  state.lineBreakFragments.rest.length + state.bidiFragments.rest.length +
    state.spans.rest.length

end LayoutFragmenter

theorem Cursor.length_moveNextAt {Item : Type} [Ranged Item] (cursor : Cursor Item)
    (position : Nat) :
    (cursor.moveNextAt position).1.rest.length + (cursor.moveNextAt position).2.toNat =
      cursor.rest.length := by
  unfold moveNextAt
  split
  · split
    · next none => rw [none]; rfl
    · next some => rw [some]; rfl
  · rfl

/-- Each round that is not the last one leaves fewer items. -/
theorem LayoutFragmenter.remaining_moved {state next : LayoutFragmenter Style Width}
    (moves : state.moved = some next) : next.remaining < state.remaining := by
  have lineBreaks := state.lineBreakFragments.length_moveNextAt state.fragmentEnd
  have bidis := state.bidiFragments.length_moveNextAt state.fragmentEnd
  have spans := state.spans.length_moveNextAt state.fragmentEnd
  unfold moved at moves
  dsimp only at moves
  split at moves
  · next some =>
      cases moves
      unfold remaining
      rw [← lineBreaks, ← bidis, ← spans]
      rcases Bool.or_eq_true_iff.mp some with early | flag
      · rcases Bool.or_eq_true_iff.mp early with flag | flag <;> rw [flag, Bool.toNat_true] <;>
          dsimp only <;> omega
      · rw [flag, Bool.toNat_true]
        dsimp only
        omega
  · cases moves

/-- The loop. -/
def LayoutFragmenter.run (state : LayoutFragmenter Style Width) :
    List (LayoutFragment Style Width) :=
  state.current ::
    match _moves : state.moved with
    | none => []
    | some next => next.run
termination_by state.remaining
decreasing_by exact remaining_moved _moves

/-- `LayoutFragmenter.fragment`; an iterator without items has no current one. -/
def LayoutFragmenter.fragment (fragmenter : LineBreakFragmenter) (text : DartString)
    (paragraphSpans : List (ParagraphSpan Style Width)) :
    Option (List (LayoutFragment Style Width)) :=
  match fragmenter.fragment text, computeBidiFragments text, paragraphSpans with
  | lineBreak :: lineBreaks, bidi :: bidis, span :: spans =>
    some (LayoutFragmenter.run ⟨0, ⟨lineBreak, lineBreaks⟩, ⟨bidi, bidis⟩, ⟨span, spans⟩⟩)
  | _, _, _ => none

end FlutterEngine.WebText
