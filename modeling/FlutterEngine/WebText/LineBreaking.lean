import FlutterEngine.WebText.LineBreaker

/-!
# Line breaks tile the text

Both fragmenters keep a ledger: the fragments that are closed tile the text up to the one that is
open, and what has been counted of that one lies in it. Their fragments tile the text, and the
last one, and no other, is the end of the text.
-/

namespace FlutterEngine.WebText

open FlutterEngine.Std Utf16

/-- Where the text is well formed, the index does not lie in a surrogate pair. -/
def IsPlace (text : DartString) (index : Nat) : Prop :=
  ∀ chars, text = encode chars → IsBoundary chars index

structure IsLineBreaking (text : DartString) (fragments : List LineBreakFragment) : Prop where
  tiles : Tiles 0 text.length fragments
  newlines_le : ∀ fragment ∈ fragments, fragment.trailingNewlines ≤ fragment.trailingSpaces
  spaces_le : ∀ fragment ∈ fragments, fragment.start + fragment.trailingSpaces ≤ fragment.stop
  places : ∀ fragment ∈ fragments, IsPlace text fragment.stop
  types : ∃ before last, fragments = before ++ [last] ∧ last.type = .endOfText ∧
    ∀ fragment ∈ before, fragment.type = .opportunity ∨ fragment.type = .mandatory

/-- The fragments up to a position, the last of which is open. -/
structure Ledger (text : DartString) (fragments : List LineBreakFragment)
    (fragmentStart trailingNewlines trailingSpaces position : Nat) : Prop where
  tiles : Tiles 0 fragmentStart fragments
  newlines_le : ∀ fragment ∈ fragments, fragment.trailingNewlines ≤ fragment.trailingSpaces
  spaces_le : ∀ fragment ∈ fragments, fragment.start + fragment.trailingSpaces ≤ fragment.stop
  places : ∀ fragment ∈ fragments, IsPlace text fragment.stop
  types : ∀ fragment ∈ fragments, fragment.type = .opportunity ∨ fragment.type = .mandatory
  open_newlines_le : trailingNewlines ≤ trailingSpaces
  open_spaces_le : fragmentStart + trailingSpaces ≤ position

theorem isPlace_zero (text : DartString) : IsPlace text 0 :=
  fun chars _ => ⟨[], chars, rfl, rfl⟩

theorem isPlace_length (text : DartString) : IsPlace text text.length := by
  rintro chars rfl
  exact ⟨chars, [], (List.append_nil chars).symm, by rw [length_encode]⟩

namespace Ledger

variable {text : DartString} {fragments : List LineBreakFragment}
  {fragmentStart trailingNewlines trailingSpaces position : Nat}

theorem empty (text : DartString) (position : Nat) : Ledger text [] 0 0 0 position where
  tiles := .nil 0
  newlines_le _ mem := nomatch mem
  spaces_le _ mem := nomatch mem
  places _ mem := nomatch mem
  types _ mem := nomatch mem
  open_newlines_le := le_rfl
  open_spaces_le := Nat.zero_le _

section

variable (ledger : Ledger text fragments fragmentStart trailingNewlines trailingSpaces position)

include ledger

theorem mono {later : Nat} (le : position ≤ later) :
    Ledger text fragments fragmentStart trailingNewlines trailingSpaces later :=
  { ledger with open_spaces_le := ledger.open_spaces_le.trans le }

/-- A space is counted. -/
theorem countSpace :
    Ledger text fragments fragmentStart trailingNewlines (trailingSpaces + 1) (position + 1) :=
  { ledger with
    open_newlines_le := Nat.le_succ_of_le ledger.open_newlines_le
    open_spaces_le := Nat.succ_le_succ ledger.open_spaces_le }

/-- A newline is counted. -/
theorem countNewline :
    Ledger text fragments fragmentStart (trailingNewlines + 1) (trailingSpaces + 1)
      (position + 1) :=
  { ledger with
    open_newlines_le := Nat.succ_le_succ ledger.open_newlines_le
    open_spaces_le := Nat.succ_le_succ ledger.open_spaces_le }

end

theorem forall_mem_concat {property : LineBreakFragment → Prop} {last : LineBreakFragment}
    (before : ∀ fragment ∈ fragments, property fragment) (holds : property last) :
    ∀ fragment ∈ fragments ++ [last], property fragment := by
  intro fragment mem
  rcases List.mem_append.mp mem with early | late
  · exact before fragment early
  · rw [List.mem_singleton.mp late]
    exact holds

/-- The open fragment is closed. -/
theorem close {type : LineBreakType}
    (ledger : Ledger text fragments fragmentStart trailingNewlines trailingSpaces position)
    (allowed : type = .opportunity ∨ type = .mandatory) (place : IsPlace text position) :
    Ledger text
      (fragments ++ [⟨fragmentStart, position, type, trailingNewlines, trailingSpaces⟩])
      position 0 0 position where
  tiles := ledger.tiles.append
    (tiles_cons.mpr ⟨rfl, (Nat.le_add_right ..).trans ledger.open_spaces_le, tiles_nil.mpr rfl⟩)
  newlines_le := forall_mem_concat ledger.newlines_le ledger.open_newlines_le
  spaces_le := forall_mem_concat ledger.spaces_le ledger.open_spaces_le
  places := forall_mem_concat ledger.places place
  types := forall_mem_concat ledger.types allowed
  open_newlines_le := le_rfl
  open_spaces_le := le_rfl

/-- The end of the text closes the ledger. -/
theorem finish
    (ledger : Ledger text fragments fragmentStart trailingNewlines trailingSpaces text.length) :
    IsLineBreaking text
      (fragments ++ [⟨fragmentStart, text.length, .endOfText, trailingNewlines,
        trailingSpaces⟩]) where
  tiles := ledger.tiles.append
    (tiles_cons.mpr ⟨rfl, (Nat.le_add_right ..).trans ledger.open_spaces_le, tiles_nil.mpr rfl⟩)
  newlines_le := forall_mem_concat ledger.newlines_le ledger.open_newlines_le
  spaces_le := forall_mem_concat ledger.spaces_le ledger.open_spaces_le
  places := forall_mem_concat ledger.places (isPlace_length text)
  types := ⟨fragments, _, rfl, rfl, ledger.types⟩

end Ledger

/-! ## The fragmenter of V8 -/

namespace V8

variable {text : DartString} {scanned : Scan} {i : Nat}

/-- The ledger of a scan; where spaces have been counted, a fragment may end. -/
structure Sound (text : DartString) (scanned : Scan) (position : Nat) : Prop where
  ledger : Ledger text scanned.breaks scanned.fragmentStart scanned.trailingNewlines
    scanned.trailingSpaces position
  place : 0 < scanned.trailingSpaces → IsPlace text position

/-- No surrogate pair begins with a space. -/
theorem isPlace_succ {codeUnit : UInt16} (at_i : text[i]? = some codeUnit)
    (space : isNewline codeUnit ∨ isSpace codeUnit) : IsPlace text (i + 1) := by
  rintro chars rfl
  have within : i + 1 ≤ units chars := by
    rw [← length_encode]
    exact (List.getElem?_eq_some_iff.mp at_i).1
  obtain boundary | ⟨before, high, low, same, at_high, -, is_high, -⟩ :=
    isBoundary_or_inside within
  · exact boundary
  · obtain rfl : i = before := Nat.succ_inj.mp same
    obtain rfl : codeUnit = high := Option.some_inj.mp (at_i.symm.trans at_high)
    rw [isHighSurrogate, Bool.and_eq_true, decide_eq_true_iff, decide_eq_true_iff] at is_high
    simp only [isNewline, isSpace, List.mem_cons, List.not_mem_nil, or_false,
      decide_eq_true_iff] at space
    rcases space with (rfl | rfl | rfl | rfl | rfl | rfl | rfl) | (rfl | rfl) <;>
      exact absurd is_high.1 (by decide)

theorem sound_scan (within : i < text.length) (sound : Sound text scanned i) :
    Sound text (scan text scanned i) (i + 1) := by
  unfold scan
  split
  · next outside => exact absurd (List.getElem?_eq_none_iff.mp outside) (not_le.mpr within)
  · next codeUnit at_i =>
      split
      · next newline =>
          exact ⟨sound.ledger.countNewline, fun _ => isPlace_succ at_i (.inl newline)⟩
      · split
        · next space => exact ⟨sound.ledger.countSpace, fun _ => isPlace_succ at_i (.inr space)⟩
        · split
          · next spaces =>
              exact ⟨(sound.ledger.close (.inl rfl) (sound.place spaces)).mono (Nat.le_succ i),
                fun none => absurd none (lt_irrefl 0)⟩
          · next none =>
              exact ⟨sound.ledger.mono (Nat.le_succ i), fun spaces => absurd spaces none⟩

theorem sound_foldl_scan (units : Nat) (within : i + units ≤ text.length)
    (sound : Sound text scanned i) :
    Sound text ((List.range' i units).foldl (scan text) scanned) (i + units) := by
  induction units generalizing scanned i with
  | zero => exact sound
  | succ units ih =>
    rw [List.range'_succ, List.foldl_cons]
    have scans := ih (by omega) (sound_scan (by omega) sound)
    rwa [Nat.add_assoc, Nat.add_comm 1 units] at scans

/-- What is kept between two boundaries. -/
structure Closed (text : DartString) (scanned : Scan) (boundary : Nat) : Prop where
  ledger : Ledger text scanned.breaks scanned.fragmentStart 0 0 boundary
  start : scanned.fragmentStart = boundary

variable {boundary fragmentEnd : Nat}

theorem sound_upTo (closed : Closed text scanned boundary)
    (later : boundary ≤ fragmentEnd) (within : fragmentEnd ≤ text.length) :
    Sound text (upTo text scanned fragmentEnd) fragmentEnd := by
  have start := closed.start
  have begins : Sound text { scanned with trailingNewlines := 0, trailingSpaces := 0 }
      scanned.fragmentStart :=
    ⟨start ▸ closed.ledger, fun none => absurd none (lt_irrefl 0)⟩
  have scans := sound_foldl_scan (fragmentEnd - scanned.fragmentStart) (by omega) begins
  rwa [Nat.add_sub_cancel' (by omega)] at scans

/-- A boundary inside the text. -/
theorem closed_next (closed : Closed text scanned boundary)
    (later : boundary ≤ fragmentEnd) (within : fragmentEnd < text.length)
    (place : IsPlace text fragmentEnd) :
    Closed text (next text scanned fragmentEnd) fragmentEnd := by
  have sound := sound_upTo closed later within.le
  refine ⟨sound.ledger.close ?_ place, rfl⟩
  rw [if_neg within.ne]
  split
  · exact .inr rfl
  · exact .inl rfl

theorem closed_foldl_next {boundaries : List Nat}
    (closed : Closed text scanned boundary) (increasing : (boundary :: boundaries).Pairwise (· < ·))
    (within : ∀ next ∈ boundaries, next < text.length)
    (places : ∀ next ∈ boundaries, IsPlace text next) :
    Closed text (boundaries.foldl (next text) scanned)
      ((boundary :: boundaries).getLast (List.cons_ne_nil _ _)) := by
  induction boundaries generalizing scanned boundary with
  | nil => exact closed
  | cons later boundaries ih =>
    obtain ⟨first, rest⟩ := List.pairwise_cons.mp increasing
    have step := closed_next closed (first later List.mem_cons_self).le
      (within later List.mem_cons_self) (places later List.mem_cons_self)
    rw [List.getLast_cons (List.cons_ne_nil later boundaries)]
    exact ih step rest (fun next mem => within next (List.mem_cons_of_mem _ mem))
      fun next mem => places next (List.mem_cons_of_mem _ mem)

/-- The last boundary is the end of the text. -/
theorem isLineBreaking_next (closed : Closed text scanned boundary)
    (later : boundary ≤ text.length) :
    IsLineBreaking text
      (let breaks := (next text scanned text.length).breaks
      if breaks.getLast?.all fun last => last.type = .mandatory then
        breaks ++ [⟨text.length, text.length, .endOfText, 0, 0⟩]
      else breaks) := by
  let upTo := upTo text scanned text.length
  have ledger := (sound_upTo closed later le_rfl).ledger
  by_cases newlines : 0 < upTo.trailingNewlines
  · have breaks : (next text scanned text.length).breaks = upTo.breaks ++
        [⟨upTo.fragmentStart, text.length, .mandatory, upTo.trailingNewlines,
          upTo.trailingSpaces⟩] := by
      change upTo.breaks ++ [⟨_, _, if 0 < upTo.trailingNewlines then _ else _, _, _⟩] = _
      rw [if_pos newlines]
    dsimp only
    rw [breaks, if_pos (by simp)]
    exact (ledger.close (.inr rfl) (isPlace_length text)).finish
  · have breaks : (next text scanned text.length).breaks = upTo.breaks ++
        [⟨upTo.fragmentStart, text.length, .endOfText, upTo.trailingNewlines,
          upTo.trailingSpaces⟩] := by
      change upTo.breaks ++ [⟨_, _, if 0 < upTo.trailingNewlines then _ else _, _, _⟩] = _
      rw [if_neg newlines, if_pos rfl]
    dsimp only
    rw [breaks, if_neg (by simp)]
    exact ledger.finish

end V8

theorem isLineBreaking_v8 (iterator : V8BreakIterator) (text : DartString) :
    IsLineBreaking text (breakLinesUsingV8BreakIterator iterator text) := by
  have increasing := iterator.increasing text
  have ends := iterator.ends text
  have begins : V8.Closed text {} 0 := ⟨.empty text 0, rfl⟩
  have places : ∀ boundary ∈ iterator.boundaries text, IsPlace text boundary := by
    rintro boundary mem chars rfl
    exact iterator.wellFormed chars boundary mem
  unfold breakLinesUsingV8BreakIterator
  generalize iterator.boundaries text = boundaries at *
  rcases List.eq_nil_or_concat boundaries with rfl | ⟨before, last, rfl⟩
  · have empty : text.length = 0 := ends.symm
    have closes := (Ledger.empty text text.length).finish
    rw [empty] at *
    exact closes
  · rw [List.concat_eq_append] at *
    have last_eq : last = text.length := by
      rw [← ends, List.getLast_cons (by simp), List.getLast_append_singleton]
    obtain ⟨early, -, below⟩ := List.pairwise_append.mp (List.cons_append ▸ increasing)
    have within : ∀ boundary ∈ 0 :: before, boundary < text.length :=
      fun boundary mem => last_eq ▸ below boundary mem last List.mem_cons_self
    have closed := V8.closed_foldl_next begins early
      (fun boundary mem => within boundary (List.mem_cons_of_mem 0 mem))
      fun boundary mem => places boundary (List.mem_append_left _ mem)
    rw [List.foldl_append, last_eq]
    exact V8.isLineBreaking_next closed (within _ (List.getLast_mem _)).le

/-! ## The fragmenter of Flutter -/

namespace LineBreaker

variable {text : DartString} {lineLookup : LineLookup} {state : LineBreaker}

/-- The ledger of a state, up to a position. -/
def Sound (text : DartString) (state : LineBreaker) (position : Nat) : Prop :=
  Ledger text state.fragments state.fragmentStart state.trailingNewlines state.trailingSpaces
    position

variable {position : Nat}

/-- What `setBreak` counts is one character. -/
theorem sound_count (sound : state.Sound text position) :
    state.count.Sound text (position + 1) := by
  unfold count
  split
  · exact Ledger.countSpace sound
  · split
    · exact Ledger.countNewline sound
    · exact Ledger.mono sound (Nat.le_succ position)

variable {type : LineBreakType}

@[simp] theorem index_count : state.count.index = state.index := by
  unfold count
  split
  · rfl
  · split <;> rfl

@[simp] theorem codePoint_count : state.count.codePoint = state.codePoint := by
  unfold count
  split
  · rfl
  · split <;> rfl

@[simp] theorem index_setBreak (type : LineBreakType) :
    (state.setBreak text type).index = state.index := by
  unfold setBreak
  dsimp only
  split
  · exact index_count
  · exact index_count

@[simp] theorem codePoint_setBreak (type : LineBreakType) :
    (state.setBreak text type).codePoint = state.codePoint := by
  unfold setBreak
  dsimp only
  split
  · exact codePoint_count
  · exact codePoint_count

/-- Before the end, a break closes the ledger at the index or leaves it open. -/
theorem sound_setBreak (sound : state.Sound text position) (index : state.index = position + 1)
    (place : IsPlace text state.index) (inner : type ≠ .endOfText) :
    (state.setBreak text type).Sound text state.index := by
  have counted := sound_count sound
  rw [← index] at counted
  unfold setBreak
  dsimp only
  split
  · exact counted
  · next breaks =>
      have allowed : type = .opportunity ∨ type = .mandatory := by
        cases type with
        | opportunity => exact .inl rfl
        | mandatory => exact .inr rfl
        | prohibited => exact absurd rfl breaks
        | endOfText => exact absurd rfl inner
      have closed := Ledger.close counted allowed place
      unfold Sound
      rwa [index_count]

theorem setBreak_prohibited : state.setBreak text .prohibited = state.count := rfl

/-- The code point before an index, and whether it takes two units. -/
theorem isPlace_after (within : position < text.length) (place : IsPlace text position) :
    IsPlace text
      (position + if isSurrogatePair (getCodePoint text position) then 2 else 1) := by
  rintro chars rfl
  obtain ⟨before, after, rfl, same⟩ := place chars rfl
  obtain rfl : position = units before := Int.natCast_inj.mp same
  cases after with
  | nil =>
    rw [List.append_nil, length_encode] at within
    exact absurd within (lt_irrefl _)
  | cons char after =>
    obtain ⟨codePoint, found, pair_iff⟩ := getCodePoint_encode before after char
    have two_iff : isSurrogatePair (some codePoint) = true ↔ width char = 2 := by
      rw [← pair_iff, isSurrogatePair, Option.any_some, decide_eq_true_iff]
    have units_eq : (if isSurrogatePair (some codePoint) then 2 else 1) = width char := by
      obtain ⟨one, -⟩ | ⟨two, -⟩ := width_eq char
      · rw [if_neg (fun two => by rw [two_iff] at two; omega), one]
      · rw [if_pos (two_iff.mpr two), two]
    refine ⟨before ++ [char], after, by simp, ?_⟩
    rw [found, units_eq, units_append, units_cons, units_nil, Nat.add_zero]

/-- A code point of two units is not the last unit. -/
theorem lt_of_isSurrogatePair (pair : isSurrogatePair (getCodePoint text position) = true) :
    position + 1 < text.length := by
  unfold getCodePoint at pair
  split at pair
  · cases pair
  · next char drop =>
      rw [isSurrogatePair, Option.any_some, decide_eq_true_iff] at pair
      have bound := char.toNat_lt
      omega
  · next char later rest drop =>
      have length := congrArg List.length drop
      rw [List.length_drop, List.length_cons, List.length_cons] at length
      omega

/-- What holds when a round of the loop begins. -/
structure Begins (text : DartString) (state : LineBreaker) (position : Nat) : Prop where
  index : state.index = position + 1
  within : position < text.length
  sound : state.Sound text position
  place : IsPlace text position
  codePoint : state.codePoint = getCodePoint text position

/-- What holds when the next character has been read. -/
structure Reads (text : DartString) (state : LineBreaker) (position : Nat) : Prop where
  index : state.index = position + 1
  within : position < text.length
  sound : state.Sound text position
  place : IsPlace text state.index
  codePoint : state.codePoint = getCodePoint text state.index

theorem curr_read :
    (state.read text lineLookup).curr =
      lineLookup.property (getCodePoint text (state.read text lineLookup).index) :=
  rfl

theorem reads_read (lineLookup : LineLookup) (begins : Begins text state position) :
    ∃ later, position ≤ later ∧ Reads text (state.read text lineLookup) later := by
  have after := isPlace_after begins.within begins.place
  rw [← begins.codePoint] at after
  by_cases pair : isSurrogatePair state.codePoint
  · have within := lt_of_isSurrogatePair (begins.codePoint ▸ pair)
    rw [if_pos pair] at after
    refine ⟨position + 1, Nat.le_succ position, ?_⟩
    unfold read
    dsimp only
    rw [if_pos pair, setBreak_prohibited]
    have shifted : Sound text
        { state with prev2 := state.prev1, prev1 := some state.curr } position := begins.sound
    refine ⟨?_, within, sound_count shifted, ?_, rfl⟩
    · rw [index_count]
      exact congrArg Nat.succ begins.index
    · rw [index_count]
      change IsPlace text (state.index + 1)
      rwa [begins.index]
  · rw [if_neg pair] at after
    refine ⟨position, le_rfl, ?_⟩
    unfold read
    dsimp only
    rw [if_neg pair]
    refine ⟨begins.index, begins.within, begins.sound, ?_, rfl⟩
    change IsPlace text state.index
    rwa [begins.index]

/-- The loop goes on: either with the next character, or the text has ended in a hard break. -/
inductive Goes (text : DartString) (state : LineBreaker) : Prop where
  | on (position : Nat) (begins : Begins text { state with index := state.index + 1 } position)
  | ended (index : state.index = text.length)
      (ledger : Ledger text state.fragments text.length 0 0 text.length)
      (open_eq : state.fragmentStart = text.length ∧ state.trailingNewlines = 0 ∧
        state.trailingSpaces = 0 ∧ state.prev1 = none)

theorem open_setBreak (text : DartString) (state : LineBreaker) (breaks : type ≠ .prohibited) :
    (state.setBreak text type).fragmentStart = state.index ∧
      (state.setBreak text type).trailingNewlines = 0 ∧
        (state.setBreak text type).trailingSpaces = 0 ∧
          (state.setBreak text type).prev1 = none := by
  unfold setBreak
  rw [if_neg breaks]
  exact ⟨index_count, rfl, rfl, rfl⟩

theorem goes_setBreak (reads : Reads text state position) (inner : type ≠ .endOfText)
    (last : text.length = position + 1 → type ≠ .prohibited) :
    Goes text (state.setBreak text type) := by
  have sound := sound_setBreak reads.sound reads.index reads.place inner
  by_cases ended : text.length = position + 1
  · have ends : state.index = text.length := reads.index.trans ended.symm
    have opened := open_setBreak text state (last ended)
    unfold Sound at sound
    rw [opened.1, opened.2.1, opened.2.2.1, ends] at sound
    refine .ended ((index_setBreak type).trans ends) sound ⟨?_, opened.2⟩
    exact opened.1.trans ends
  · refine .on (position + 1) ⟨?_, ?_, ?_, ?_, ?_⟩
    · exact congrArg Nat.succ ((index_setBreak type).trans reads.index)
    · have within := reads.within
      omega
    · exact reads.index ▸ sound
    · exact reads.index ▸ reads.place
    · exact (codePoint_setBreak type).trans (reads.index ▸ reads.codePoint)

theorem spaceRule_ne (rule : state.spaceRule = some type) : type ≠ .endOfText := by
  rintro rfl
  unfold spaceRule at rule
  split_ifs at rule <;> cases rule

theorem ite_ne {condition : Prop} [Decidable condition] {other unwanted : LineBreakType}
    (left : type ≠ unwanted) (right : other ≠ unwanted) :
    (if condition then type else other) ≠ unwanted := by
  split
  · exact left
  · exact right

theorem pairRule_ne (prev2 prev1 : Option LineCharProperty) (curr : LineCharProperty)
    (index : Nat) (regionalIndicatorCount : Int) :
    pairRule text prev2 prev1 curr index regionalIndicatorCount ≠ .endOfText := by
  unfold pairRule
  dsimp only
  repeat' apply ite_ne
  all_goals exact LineBreakType.noConfusion

/-- A break inside the text. -/
theorem goes_inside (reads : Reads text state position) (more : state.index < text.length)
    (inner : type ≠ .endOfText) : Goes text (state.setBreak text type) := by
  refine goes_setBreak reads inner fun ended => absurd more ?_
  rw [reads.index, ← ended]
  exact lt_irrefl _

theorem goes_breakByRules (reads : Reads text state position)
    (more : state.index < text.length) : Goes text (state.breakByRules text) := by
  unfold breakByRules
  split
  · next type rule => exact goes_inside reads more (spaceRule_ne rule)
  · extract_lets based combines resolved joined
    have based_reads : Reads text based position ∧ based.index < text.length := by
      dsimp only [based]
      split
      · exact ⟨⟨reads.index, reads.within, reads.sound, reads.place, reads.codePoint⟩, more⟩
      · exact ⟨reads, more⟩
    split
    · obtain ⟨index, within, sound, place, codePoint⟩ := based_reads.1
      exact goes_inside ⟨index, within, sound, place, codePoint⟩ based_reads.2
        LineBreakType.noConfusion
    · have resolved_reads : Reads text resolved position ∧ resolved.index < text.length := by
        dsimp only [resolved]
        split
        · obtain ⟨index, within, sound, place, codePoint⟩ := based_reads.1
          exact ⟨⟨index, within, sound, place, codePoint⟩, based_reads.2⟩
        · exact based_reads
      have joined_reads : Reads text joined position ∧ joined.index < text.length := by
        dsimp only [joined]
        split
        · obtain ⟨index, within, sound, place, codePoint⟩ := resolved_reads.1
          exact ⟨⟨index, within, sound, place, codePoint⟩, resolved_reads.2⟩
        · exact resolved_reads
      exact goes_inside joined_reads.1 joined_reads.2 (pairRule_ne _ _ _ _ _)

theorem index_breakByRules : (state.breakByRules text).index = state.index := by
  unfold breakByRules
  split
  · exact index_setBreak _
  · extract_lets based combines resolved joined
    have based_index : based.index = state.index := by
      dsimp only [based]
      split <;> rfl
    split
    · rw [index_setBreak]
      exact based_index
    · rw [index_setBreak]
      have resolved_index : resolved.index = based.index := by
        dsimp only [resolved]
        split <;> rfl
      have joined_index : joined.index = resolved.index := by
        dsimp only [joined]
        split <;> rfl
      exact joined_index.trans (resolved_index.trans based_index)

theorem index_breakAt : (state.breakAt text).1.index = state.index := by
  unfold breakAt
  split
  · exact index_setBreak _
  · split
    · exact index_setBreak _
    · split
      · exact index_setBreak _
      · split
        · rfl
        · exact index_breakByRules

/-- At the end of the text there is no character. -/
theorem property_end (lineLookup : LineLookup) :
    lineLookup.property (getCodePoint text text.length) = .AL := by
  unfold getCodePoint
  rw [List.drop_length]
  rfl

theorem goes_breakAt (reads : Reads text state position)
    (curr : state.curr = lineLookup.property (getCodePoint text state.index)) :
    ((state.breakAt text).2 = false ∧ Goes text (state.breakAt text).1) ∨
      state.breakAt text = (state, true) ∧ state.index = text.length := by
  have last : text.length = position + 1 → state.curr = .AL := by
    intro ended
    rw [curr, reads.index, ← ended, property_end]
  unfold breakAt
  split
  · have goes : Goes text (state.setBreak text .mandatory) :=
      goes_setBreak reads LineBreakType.noConfusion fun _ => nofun
    exact .inl ⟨rfl, goes⟩
  · split
    · refine .inl ⟨rfl, goes_setBreak reads ?_ fun ended => ?_⟩
      · split <;> exact LineBreakType.noConfusion
      · rw [last ended]
        exact LineBreakType.noConfusion
    · split
      · next before =>
          have goes : Goes text (state.setBreak text .prohibited) := by
            refine goes_setBreak reads LineBreakType.noConfusion fun ended => ?_
            rw [last ended] at before
            exact absurd before (by decide)
          exact .inl ⟨rfl, goes⟩
      · split
        · next ended =>
            have within := reads.within
            exact .inr ⟨rfl, le_antisymm (reads.index ▸ within) ended⟩
        · next more => exact .inl ⟨rfl, goes_breakByRules reads (not_le.mp more)⟩

/-- What holds of the state whenever the loop is entered. -/
def Stands (text : DartString) (state : LineBreaker) : Prop :=
  (∃ position, Begins text state position) ∨
    (state.index = text.length + 1 ∧ state.prev1 = none ∧
      Ledger text state.fragments state.fragmentStart state.trailingNewlines state.trailingSpaces
        text.length)

theorem Goes.stands (goes : Goes text state) :
    Stands text { state with index := state.index + 1 } := by
  cases goes with
  | on position begins => exact .inl ⟨position, begins⟩
  | ended index ledger opened =>
    obtain ⟨start, newlines, spaces, before⟩ := opened
    refine .inr ⟨congrArg Nat.succ index, before, ?_⟩
    change Ledger text state.fragments state.fragmentStart state.trailingNewlines
      state.trailingSpaces text.length
    rwa [start, newlines, spaces]

/-- The loop is left in front of the last character, which is counted. -/
theorem isLineBreaking_setBreak (sound : state.Sound text position)
    (last : text.length = position + 1) :
    IsLineBreaking text (state.setBreak text .endOfText).fragments := by
  have counted := sound_count sound
  rw [← last] at counted
  exact Ledger.finish counted

/-- The loop is left behind the last hard break: nothing is counted. -/
theorem isLineBreaking_over (before : state.prev1 = none)
    (ledger : Ledger text state.fragments state.fragmentStart state.trailingNewlines
      state.trailingSpaces text.length) :
    IsLineBreaking text (state.setBreak text .endOfText).fragments := by
  have counted : state.count = state := by
    unfold count
    rw [before]
    rfl
  unfold setBreak
  dsimp only
  rw [if_neg LineBreakType.noConfusion, if_pos rfl, counted]
  exact ledger.finish

/-- What the loop leaves is closed by the end of the text. -/
theorem isLineBreaking_run {rounds : Nat} (stands : Stands text state)
    (enough : text.length < state.index + rounds) :
    IsLineBreaking text
      ((state.run text lineLookup rounds).setBreak text .endOfText).fragments := by
  induction rounds generalizing state with
  | zero =>
    obtain ⟨position, begins⟩ | ⟨-, before, ledger⟩ := stands
    · have index := begins.index
      have within := begins.within
      omega
    · exact isLineBreaking_over before ledger
  | succ rounds ih =>
    unfold run
    obtain ⟨position, begins⟩ | ⟨index, before, ledger⟩ := stands
    · have within := begins.within
      rw [if_neg (by rw [begins.index]; omega)]
      obtain ⟨later, order, reads⟩ := reads_read lineLookup begins
      dsimp only
      obtain ⟨stays, goes⟩ | ⟨leaves, ended⟩ := goes_breakAt reads curr_read
      · rw [stays, if_neg Bool.false_ne_true]
        refine ih goes.stands ?_
        dsimp only
        rw [index_breakAt, reads.index]
        have index := begins.index
        omega
      · rw [leaves, if_pos rfl]
        exact isLineBreaking_setBreak reads.sound (ended.symm.trans reads.index)
    · rw [if_pos (by omega)]
      exact isLineBreaking_over before ledger

end LineBreaker

theorem isLineBreaking_fw (lineLookup : LineLookup) (text : DartString) :
    IsLineBreaking text (computeLineBreakFragments lineLookup text) := by
  refine LineBreaker.isLineBreaking_run ?_ ?_
  · by_cases empty : text.length = 0
    · refine .inr ⟨?_, rfl, ?_⟩
      · rw [empty]
        rfl
      · exact Ledger.empty text text.length
    · exact .inl ⟨0, rfl, Nat.pos_of_ne_zero empty, Ledger.empty text 0, isPlace_zero text, rfl⟩
  · exact Nat.lt_one_add_iff.mpr le_rfl

theorem LineBreakFragmenter.isLineBreaking (fragmenter : LineBreakFragmenter) (text : DartString) :
    IsLineBreaking text (fragmenter.fragment text) := by
  cases fragmenter with
  | v8 iterator => exact isLineBreaking_v8 iterator text
  | fw lineLookup => exact isLineBreaking_fw lineLookup text

end FlutterEngine.WebText
