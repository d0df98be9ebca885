import FlutterEngine.WebText.LineBreakCuts
import Mathlib.Data.List.Chain
import Mathlib.Data.List.DropRight

/-!
# Line breaks and the ends of lines

The fragments of a text keep its lines and count what trails in each of them. The fragmenter
takes every surrogate together with the next unit, and it never breaks between a space and a
zero width space.
-/

namespace FlutterEngine.WebText

open FlutterEngine.Std Utf16 Verdicts

/-! ## The lines of a text -/

/-- A high surrogate makes a character with a low one behind it. Any other unit makes its own. -/
def wholeCharacters (lineLookup : LineLookup) : DartString → List Character
  | [] => []
  | [char] => [⟨1, lineLookup.property (some char.toNat), char, char⟩]
  | char :: next :: rest =>
    if isHighSurrogate char && isLowSurrogate next then
      ⟨2, lineLookup.property (some (combine char next)), char, next⟩ ::
        wholeCharacters lineLookup rest
    else
      ⟨1, lineLookup.property (some char.toNat), char, char⟩ ::
        wholeCharacters lineLookup (next :: rest)

/-- The class of the character that each unit is of. -/
def unitClasses (chars : List Character) : List LineCharProperty :=
  chars.flatMap fun character => List.replicate character.units character.property

/-- A place between the units of a surrogate pair. -/
def InsidePair (text : DartString) (place : Nat) : Prop :=
  ∃ before high low, place = before + 1 ∧ text[before]? = some high ∧
    text[before + 1]? = some low ∧ isHighSurrogate high = true ∧ isLowSurrogate low = true

/-- A line ends after BK, LF or NL, and after a CR that is not before LF. -/
def LineEnds (prop : LineCharProperty) (next : Option LineCharProperty) : Prop :=
  isHardBreak (some prop) = true ∨ prop = .CR ∧ next ≠ some .LF

/-- A line of a text with these classes ends at a place. -/
def EndsLine (classes : List LineCharProperty) (place : Nat) : Prop :=
  ∃ before prop, place = before + 1 ∧ classes[before]? = some prop ∧
    LineEnds prop classes[before + 1]?

/-- The last units that are counted are the run of spaces and newlines. -/
def LineBreakFragment.CountsRun (classes : List LineCharProperty) (fragment : LineBreakFragment) :
    Prop :=
  ((classes.extract fragment.start fragment.stop).rtakeWhile (·.isTrailing)).length =
    fragment.trailingSpaces

/-- The fragments keep the lines of a text and count what trails. -/
structure KeepsLines (lineLookup : LineLookup) (text : DartString)
    (fragments : List LineBreakFragment) : Prop where
  tiles : Tiles 0 text.length fragments
  whole : ∀ fragment ∈ fragments,
    ¬InsidePair text fragment.start ∧ ¬InsidePair text fragment.stop
  ends : ∃ before last, fragments = before ++ [last] ∧ last.type = .endOfText ∧
    ∀ fragment ∈ before, fragment.type ≠ .endOfText
  mandatory : ∀ fragment ∈ fragments, fragment.type = .mandatory ↔
    fragment.start < fragment.stop ∧
      EndsLine (unitClasses (wholeCharacters lineLookup text)) fragment.stop
  lines : ∀ place, EndsLine (unitClasses (wholeCharacters lineLookup text)) place →
    ∃ fragment ∈ fragments, fragment.type = .mandatory ∧ fragment.stop = place
  newlines_le : ∀ fragment ∈ fragments, fragment.trailingNewlines ≤ fragment.trailingSpaces
  spaces_le : ∀ fragment ∈ fragments, fragment.trailingSpaces ≤ fragment.stop - fragment.start
  run : ∀ fragment ∈ fragments,
    fragment.CountsRun (unitClasses (wholeCharacters lineLookup text))

/-- No supplementary code point is a space or a newline. -/
def LineLookup.SparesSupplementary (lineLookup : LineLookup) : Prop :=
  ∀ codePoint, 0x10000 ≤ codePoint → codePoint ≤ 0x10FFFF →
    (lineLookup.property (some codePoint)).isTrailing = false

/-- Every surrogate is one of a pair, or the last unit. -/
def isPaired : DartString → Bool
  | [] => true
  | [_] => true
  | char :: next :: rest =>
    if isUtf16Surrogate char then
      isHighSurrogate char && isLowSurrogate next && isPaired rest
    else isPaired (next :: rest)

/-! ## Runs -/

/-- All that is counted trails, if what follows it does. -/
theorem length_rtakeWhile_eq_countP {α : Type} (p : α → Bool) (items : List α) :
    (items.rtakeWhile p).length = items.countP p ↔
      items.IsChain fun item next => p item = true → p next = true := by
  induction items using List.reverseRecOn with
  | nil => exact iff_of_true rfl .nil
  | append_singleton items last ih =>
    rw [List.rtakeWhile_concat, List.countP_append, List.countP_singleton, List.isChain_append]
    by_cases counted : p last = true
    · rw [if_pos counted, if_pos counted, List.length_append, List.length_singleton,
        Nat.add_left_inj, ih]
      refine ⟨fun chain => ⟨chain, .singleton last, ?_⟩, fun chain => chain.1⟩
      rintro item - next ⟨⟩ -
      exact counted
    · rw [if_neg counted, if_neg counted, Nat.add_zero, eq_comm, List.length_nil,
        List.countP_eq_zero]
      constructor
      · intro none
        refine ⟨?_, .singleton last, ?_⟩
        · refine List.isChain_iff_forall_rel_of_append_cons_cons.mpr ?_
          rintro item next before after rfl here
          exact absurd here (none item (List.mem_append_right before List.mem_cons_self))
        · intro item mem next _ here
          exact absurd here (none item (List.mem_of_mem_getLast? mem))
      · rintro ⟨chain, -, junction⟩
        have none : items.rtakeWhile p = [] := by
          refine List.rtakeWhile_eq_nil_iff.mpr fun some here => counted ?_
          exact junction _ (List.getLast?_eq_getLast_of_ne_nil some) last rfl here
        have count := ih.mpr chain
        rw [none, List.length_nil, eq_comm, List.countP_eq_zero] at count
        exact count

/-! ## Classes of units -/

theorem unitClasses_append (left right : List Character) :
    unitClasses (left ++ right) = unitClasses left ++ unitClasses right :=
  List.flatMap_append

theorem unitClasses_cons (character : Character) (right : List Character) :
    unitClasses (character :: right) =
      List.replicate character.units character.property ++ unitClasses right :=
  List.flatMap_cons

/-- The classes of the units of characters with verdicts. -/
def Verdicts.classes (judged : Verdicts) : List LineCharProperty :=
  unitClasses (judged.map Prod.fst)

namespace Verdicts

theorem classes_append (left right : Verdicts) :
    classes (left ++ right) = classes left ++ classes right := by
  rw [classes, List.map_append, unitClasses_append]
  rfl

theorem classes_cons (pair : Character × LineBreakType) (right : Verdicts) :
    classes (pair :: right) =
      List.replicate pair.1.units pair.1.property ++ classes right :=
  unitClasses_cons ..

theorem length_classes (judged : Verdicts) : (classes judged).length = extent judged := by
  induction judged with
  | nil => rfl
  | cons pair judged ih =>
    rw [classes_cons, List.length_append, List.length_replicate, ih, extent_cons]

/-- The spaces of characters are their units that trail. -/
theorem countP_classes (judged : Verdicts) :
    (classes judged).countP (·.isTrailing) = spaces judged := by
  induction judged with
  | nil => rfl
  | cons pair judged ih =>
    rw [classes_cons, List.countP_append, List.countP_replicate, ih]
    rfl

/-- The units of a row of characters. -/
theorem extract_classes (before row after : Verdicts) :
    (classes (before ++ row ++ after)).extract (extent before) (extent (before ++ row)) =
      classes row := by
  rw [List.extract_eq_take_drop, classes_append, classes_append, List.append_assoc,
    ← length_classes before, List.drop_left, extent_append, ← length_classes before,
    Nat.add_sub_cancel_left, ← length_classes row, List.take_left]

variable {judged : Verdicts}

theorem head?_classes (solid : IsSolid judged) :
    (classes judged).head? = judged.head?.map (·.1.property) := by
  cases judged with
  | nil => rfl
  | cons next judged =>
    obtain ⟨others, others_eq⟩ := Nat.exists_eq_add_of_lt (solid next List.mem_cons_self)
    rw [Nat.zero_add] at others_eq
    rw [classes_cons, others_eq, List.replicate_succ]
    rfl

/-- The classes next to the end of a character. -/
theorem classes_beside {before after : Verdicts} {pair : Character × LineBreakType}
    (solid : IsSolid (pair :: after)) :
    ∃ place, extent (before ++ [pair]) = place + 1 ∧
      (classes (before ++ pair :: after))[place]? = some pair.1.property ∧
      (classes (before ++ pair :: after))[place + 1]? = after.head?.map (·.1.property) := by
  have later : IsSolid after := fun other mem => solid other (List.mem_cons_of_mem pair mem)
  obtain ⟨fewer, units_eq⟩ := Nat.exists_eq_add_of_lt (solid pair List.mem_cons_self)
  rw [Nat.zero_add] at units_eq
  have front : (classes before ++ List.replicate fewer pair.1.property).length =
      extent before + fewer := by
    rw [List.length_append, length_classes, List.length_replicate]
  have split : classes (before ++ pair :: after) =
      (classes before ++ List.replicate fewer pair.1.property) ++
        pair.1.property :: classes after := by
    rw [classes_append, classes_cons, units_eq, List.replicate_succ', List.append_assoc,
      List.append_assoc]
    rfl
  refine ⟨extent before + fewer, by rw [extent_concat, units_eq, Nat.add_assoc], ?_, ?_⟩
  · rw [split, ← front, List.getElem?_append_right le_rfl, Nat.sub_self]
    rfl
  · rw [split, ← front, List.getElem?_append_right (Nat.le_add_right _ 1),
      Nat.add_sub_cancel_left, ← head?_classes later]
    exact List.head?_eq_getElem?.symm

/-- A unit is one of a character. -/
theorem exists_character {place : Nat} {prop : LineCharProperty}
    (at_place : (classes judged)[place]? = some prop) :
    ∃ before pair after, judged = before ++ pair :: after ∧ pair.1.property = prop ∧
      extent before ≤ place ∧ place < extent (before ++ [pair]) := by
  induction judged generalizing place with
  | nil => cases at_place
  | cons pair judged ih =>
    rw [classes_cons] at at_place
    by_cases within : place < pair.1.units
    · rw [List.getElem?_append_left (by rw [List.length_replicate]; exact within),
        List.getElem?_replicate, if_pos within] at at_place
      refine ⟨[], pair, judged, rfl, Option.some.inj at_place, Nat.zero_le _, ?_⟩
      rw [List.nil_append, extent_singleton]
      exact within
    · have length := List.length_replicate (n := pair.1.units) (a := pair.1.property)
      rw [List.getElem?_append_right (by omega), length] at at_place
      obtain ⟨before, other, after, rfl, property, low, high⟩ := ih at_place
      refine ⟨pair :: before, other, after, rfl, property, ?_, ?_⟩
      · rw [extent_cons]
        omega
      · rw [List.cons_append, extent_cons]
        omega

/-- Units of one character are related to each other. -/
theorem isChain_classes {Related : LineCharProperty → LineCharProperty → Prop}
    (self : ∀ prop, Related prop prop) (solid : IsSolid judged) :
    (classes judged).IsChain Related ↔
      judged.IsChain fun pair next => Related pair.1.property next.1.property := by
  induction judged with
  | nil => exact iff_of_true .nil .nil
  | cons pair judged ih =>
    have units := solid pair List.mem_cons_self
    have later : IsSolid judged := fun other mem => solid other (List.mem_cons_of_mem pair mem)
    obtain ⟨fewer, units_eq⟩ := Nat.exists_eq_add_of_lt units
    rw [Nat.zero_add] at units_eq
    have last : (List.replicate pair.1.units pair.1.property).getLast? =
        some pair.1.property := by
      rw [units_eq, List.replicate_succ', List.getLast?_concat]
    have chain := List.isChain_replicate_of_rel pair.1.units (self pair.1.property)
    rw [classes_cons, List.isChain_append, ih later, last, List.isChain_cons]
    rw [head?_classes later]
    constructor
    · rintro ⟨-, rest, junction⟩
      refine ⟨fun next mem => junction _ rfl _ ?_, rest⟩
      exact Option.mem_map_of_mem _ mem
    · rintro ⟨junction, rest⟩
      refine ⟨chain, rest, ?_⟩
      rintro prop ⟨⟩ other mem
      obtain ⟨next, here, rfl⟩ := Option.mem_map.mp mem
      exact junction next here

end Verdicts

/-! ## What a fragment counts -/

/-- The first character trails only if the second does, or is broken off. -/
def Carries (pair next : Character × LineBreakType) : Prop :=
  pair.2 = .prohibited → pair.1.property.isTrailing = true → next.1.property.isTrailing = true

/-- In a row that is open up to its last character none is broken off. -/
theorem isChain_carries {row : Verdicts} (isOpen : StaysOpen row.dropLast) :
    (row.IsChain fun pair next =>
      pair.1.property.isTrailing = true → next.1.property.isTrailing = true) ↔
      row.IsChain Carries := by
  induction row with
  | nil => exact iff_of_true .nil .nil
  | cons pair row ih =>
    cases row with
    | nil => exact iff_of_true (.singleton pair) (.singleton pair)
    | cons next row =>
      rw [List.dropLast_cons_cons] at isOpen
      have prohibited := isOpen pair List.mem_cons_self
      rw [List.isChain_cons_cons, List.isChain_cons_cons,
        ih fun other mem => isOpen other (List.mem_cons_of_mem pair mem)]
      exact and_congr_left fun _ => ⟨fun carries _ => carries, fun carries => carries prohibited⟩

theorem countsRun_iff {before row after : Verdicts} {fragment : LineBreakFragment}
    (solid : IsSolid row) (isOpen : StaysOpen row.dropLast) (start : fragment.start = extent before)
    (stop : fragment.stop = extent (before ++ row)) (count : fragment.trailingSpaces = spaces row) :
    fragment.CountsRun (classes (before ++ row ++ after)) ↔ row.IsChain Carries := by
  rw [LineBreakFragment.CountsRun, start, stop, count, extract_classes, ← countP_classes,
    length_rtakeWhile_eq_countP, isChain_classes (fun _ => id) solid, isChain_carries isOpen]

/-- All fragments count the run at their end if no character in one of them stops to trail. -/
theorem forall_countsRun_iff {before opened rest : Verdicts} (isOpen : StaysOpen opened)
    (solid : IsSolid (before ++ opened ++ rest)) :
    (∀ fragment ∈ assemble (extent before) (extent (before ++ opened)) (newlines opened)
      (spaces opened) rest, fragment.CountsRun (classes (before ++ opened ++ rest))) ↔
      (opened ++ rest).IsChain Carries := by
  induction rest generalizing before opened with
  | nil =>
    rw [assemble, List.forall_mem_singleton, List.append_nil opened]
    refine countsRun_iff ?_ ?_ rfl rfl rfl
    · exact fun pair mem => solid pair
        (List.mem_append_left _ (List.mem_append_right before mem))
    · exact fun pair mem => isOpen pair (List.dropLast_subset opened mem)
  | cons pair rest ih =>
    have row : opened ++ pair :: rest = opened ++ [pair] ++ rest := by
      rw [List.append_assoc]
      rfl
    rw [append_cons_eq] at solid ⊢
    rw [assemble_cons, row]
    split
    · next prohibited => exact ih (staysOpen_concat isOpen prohibited) solid
    · next breaks =>
      have following := @ih (before ++ (opened ++ [pair])) [] staysOpen_nil
      rw [List.append_nil] at following
      have first := @countsRun_iff before (opened ++ [pair]) rest
        ⟨extent before, extent (before ++ (opened ++ [pair])), pair.2,
          Verdicts.newlines (opened ++ [pair]), Verdicts.spaces (opened ++ [pair])⟩ ?_ ?_ rfl rfl rfl
      · rw [List.append_nil, List.forall_mem_cons, List.isChain_append, first]
        refine and_congr_right fun _ => (following solid).trans ?_
        refine ⟨fun chain => ⟨chain, ?_⟩, And.left⟩
        intro last mem next _ prohibited
        rw [List.getLast?_concat] at mem
        obtain rfl := Option.some.inj mem
        exact absurd prohibited breaks
      · exact fun pair mem => solid pair
          (List.mem_append_left _ (List.mem_append_right before mem))
      · rw [List.dropLast_concat]
        exact isOpen

/-! ## The verdict at the end of a line -/

theorem LineBreaker.pairRule_soft (text : DartString) (prev2 prev1 : Option LineCharProperty)
    (curr : LineCharProperty) (index : Nat) (regionalIndicatorCount : Int) :
    LineBreaker.pairRule text prev2 prev1 curr index regionalIndicatorCount ≠ .mandatory := by
  unfold LineBreaker.pairRule
  dsimp only
  repeat' apply LineBreaker.ite_ne
  all_goals exact LineBreakType.noConfusion

namespace Memory

variable {memory : Memory} {character : Character}

theorem soft_spaceRule {next : LineCharProperty} {type : LineBreakType}
    (rule : memory.spaceRule next = some type) : type ≠ .mandatory := by
  rintro rfl
  rw [spaceRule] at rule
  split_ifs at rule <;> contradiction

theorem soft_judgeMarks (last first : UInt16) (next : LineCharProperty) :
    (memory.judgeMarks last first next).type ≠ .mandatory := by
  unfold judgeMarks
  dsimp only
  split
  · exact LineBreakType.noConfusion
  · exact LineBreaker.pairRule_soft _ _ _ _ _ _

theorem judge_mandatory_iff (last first : UInt16) (next : LineCharProperty) :
    (memory.judge last first next).type = .mandatory ↔ LineEnds memory.curr (some next) := by
  unfold judge LineEnds
  split
  · next hard => exact iff_of_true rfl (.inl hard)
  · next soft =>
    rw [or_iff_right soft]
    split
    · next carriage =>
      rw [keeping]
      dsimp only
      rw [and_iff_right carriage]
      split
      · next feed => exact iff_of_false LineBreakType.noConfusion fun other => other (by rw [feed])
      · next other => exact iff_of_true rfl fun feed => other (Option.some.inj feed)
    · next other =>
      refine iff_of_false ?_ fun ends => other ends.1
      split
      · exact LineBreakType.noConfusion
      · cases rule : memory.spaceRule next with
        | some type => exact soft_spaceRule rule
        | none => exact soft_judgeMarks last first next

theorem lineEnds_iff {prop : LineCharProperty} (tracks : memory.Tracks prop)
    (next : Option LineCharProperty) : LineEnds memory.curr next ↔ LineEnds prop next := by
  have feed := @CountAlike.eq_iff _ _ tracks.alike .LF rfl
  have hard := @CountAlike.eq_iff _ _ tracks.alike .BK rfl
  have carriage := @CountAlike.eq_iff _ _ tracks.alike .CR rfl
  unfold LineEnds isHardBreak
  simp only [Option.some.injEq, feed, hard, carriage]

/-- The verdict is mandatory where a line ends. -/
theorem verdict_mandatory_iff (tracks : memory.Tracks character.property)
    (next : Option Character) : memory.verdict character next = .mandatory ↔
      LineEnds character.property (next.map Character.property) := by
  rw [← lineEnds_iff tracks]
  cases next with
  | none =>
    have ends : (none : Option LineCharProperty) ≠ some .LF := (Option.some_ne_none _).symm
    rw [verdict, LineEnds, LineCharProperty.isNewline, Option.map_none, and_iff_left ends]
    simp only [Bool.or_eq_true, decide_eq_true_iff]
    split
    · next ends => exact iff_of_true rfl ends
    · next ends => exact iff_of_false LineBreakType.noConfusion ends
  | some next => exact judge_mandatory_iff ..

/-- Only a zero width space keeps a space that does not trail. -/
theorem trailing_of_verdict (tracks : memory.Tracks character.property) {next : Character}
    (prohibited : memory.verdict character (some next) = .prohibited)
    (trailing : character.property.isTrailing = true) :
    next.property.isTrailing = true ∨ character.property = .SP ∧ next.property = .ZW := by
  have curr : memory.curr = character.property := by
    refine tracks.plain ?_ ?_ <;> rintro same <;> rw [same] at trailing <;> cases trailing
  rw [verdict, judge, curr] at prohibited
  split at prohibited
  · cases prohibited
  · next soft =>
    split at prohibited
    · split at prohibited
      · next feed =>
        rw [feed]
        exact .inl rfl
      · cases prohibited
    · next other =>
      have space : character.property = .SP := by
        rw [LineCharProperty.isTrailing, LineCharProperty.isNewline, decide_eq_false other,
          Bool.eq_false_iff.mpr soft, Bool.or_false, Bool.or_false, decide_eq_true_iff] at trailing
        exact trailing
      split at prohibited
      · next newline => exact .inl (by rw [LineCharProperty.isTrailing, newline, Bool.or_true])
      · rw [spaceRule, curr, space] at prohibited
        by_cases before : next.property = .SP
        · rw [before]
          exact .inl rfl
        by_cases zero : next.property = .ZW
        · exact .inr ⟨space, zero⟩
        rw [decide_eq_false before, decide_eq_false zero] at prohibited
        cases prohibited

/-- A space is kept with a zero width space. -/
theorem verdict_space (tracks : memory.Tracks character.property) {next : Character}
    (space : character.property = .SP) (zero : next.property = .ZW) :
    memory.verdict character (some next) = .prohibited := by
  have curr : memory.curr = .SP := by
    rw [← space]
    refine tracks.plain ?_ ?_ <;> rw [space] <;> exact LineCharProperty.noConfusion
  rw [verdict, judge, spaceRule, curr, zero]
  rfl

end Memory

/-! ## The characters of a text -/

/-- A pair of surrogates is combined to its code point. -/
theorem combineSurrogatePair_eq {hi lo : UInt16} (high : isHighSurrogate hi = true)
    (low : isLowSurrogate lo = true) : combineSurrogatePair hi lo = combine hi lo := by
  rw [isHighSurrogate, Bool.and_eq_true, decide_eq_true_iff, decide_eq_true_iff] at high
  rw [isLowSurrogate, Bool.and_eq_true, decide_eq_true_iff, decide_eq_true_iff] at low
  have lower : lo.toNat &&& 1023 = lo.toNat % 2 ^ 10 := Nat.and_two_pow_sub_one_eq_mod _ 10
  have upper : hi.toNat &&& 63 = hi.toNat % 2 ^ 6 := Nat.and_two_pow_sub_one_eq_mod _ 6
  have plane : (hi.toNat >>> 6) &&& 31 = hi.toNat / 2 ^ 6 % 2 ^ 5 := by
    rw [Nat.shiftRight_eq_div_pow]
    exact Nat.and_two_pow_sub_one_eq_mod _ 5
  unfold combineSurrogatePair combine
  dsimp only
  rw [lower, upper, plane, ← Nat.shiftLeft_add_eq_or_of_lt (Nat.mod_lt _ (by decide)),
    ← Nat.shiftLeft_add_eq_or_of_lt, Nat.shiftLeft_eq, Nat.shiftLeft_eq]
  · omega
  · rw [Nat.shiftLeft_eq]
    omega

theorem combine_range {hi lo : UInt16} (high : isHighSurrogate hi = true)
    (low : isLowSurrogate lo = true) : 0x10000 ≤ combine hi lo ∧ combine hi lo ≤ 0x10FFFF := by
  rw [isHighSurrogate, Bool.and_eq_true, decide_eq_true_iff, decide_eq_true_iff] at high
  rw [isLowSurrogate, Bool.and_eq_true, decide_eq_true_iff, decide_eq_true_iff] at low
  unfold combine
  omega

/-- Where surrogates are paired, the characters are read as they are. -/
theorem characters_eq_whole (lineLookup : LineLookup) {text : DartString}
    (paired : isPaired text = true) :
    characters lineLookup text = wholeCharacters lineLookup text := by
  induction text using isPaired.induct with
  | case1 => rfl
  | case2 char => rfl
  | case3 char next rest surrogate ih =>
    rw [isPaired, if_pos surrogate, Bool.and_eq_true, Bool.and_eq_true] at paired
    obtain ⟨⟨high, low⟩, later⟩ := paired
    rw [characters, if_pos surrogate, wholeCharacters, high, low, combineSurrogatePair_eq high low,
      ih later]
    rfl
  | case4 char next rest basic ih =>
    rw [isPaired, if_neg basic] at paired
    have low : isHighSurrogate char = false := by
      refine Bool.eq_false_iff.mpr fun high => basic ?_
      exact (isUtf16Surrogate_iff char).mpr (.inl high)
    rw [characters, if_neg basic, wholeCharacters, low, ih paired]
    rfl

/-- A character that is read whole is one unit, or a pair of surrogates. -/
theorem mem_wholeCharacters {lineLookup : LineLookup} {text : DartString} {character : Character}
    (mem : character ∈ wholeCharacters lineLookup text) :
    (∃ char, character = ⟨1, lineLookup.property (some char.toNat), char, char⟩) ∨
      ∃ high low, (isHighSurrogate high && isLowSurrogate low) = true ∧
        character = ⟨2, lineLookup.property (some (combine high low)), high, low⟩ := by
  induction text using wholeCharacters.induct with
  | case1 => cases mem
  | case2 char => exact .inl ⟨char, List.mem_singleton.mp mem⟩
  | case3 char next rest pair ih =>
    rw [wholeCharacters, if_pos pair] at mem
    rcases List.mem_cons.mp mem with here | later
    · exact .inr ⟨char, next, pair, here⟩
    · exact ih later
  | case4 char next rest single ih =>
    rw [wholeCharacters, if_neg single] at mem
    rcases List.mem_cons.mp mem with here | later
    · exact .inl ⟨char, here⟩
    · exact ih later

/-- A character that trails is one unit. -/
theorem units_of_isTrailing {lineLookup : LineLookup} (spares : lineLookup.SparesSupplementary)
    {text : DartString} {character : Character}
    (mem : character ∈ wholeCharacters lineLookup text)
    (trailing : character.property.isTrailing = true) : character.units = 1 := by
  rcases mem_wholeCharacters mem with ⟨char, rfl⟩ | ⟨high, low, pair, rfl⟩
  · rfl
  · obtain ⟨high, low⟩ := (Bool.and_eq_true ..).mp pair
    have range := combine_range high low
    exact absurd trailing (Bool.eq_false_iff.mp (spares _ range.1 range.2))

theorem length_unitClasses_cons (character : Character) (right : List Character) :
    (unitClasses (character :: right)).length =
      character.units + (unitClasses right).length := by
  rw [unitClasses_cons, List.length_append, List.length_replicate]

/-- Behind the first units the places are those of the rest. -/
theorem InsidePair.of_append (first : DartString) {rest : DartString} {place : Nat} (later : 0 < place)
    (inside : InsidePair (first ++ rest) (first.length + place)) : InsidePair rest place := by
  obtain ⟨before, high, low, place_eq, at_high, at_low, pair⟩ := inside
  have index : before = first.length + (place - 1) := by omega
  have next : before + 1 = first.length + place := by omega
  rw [index, List.getElem?_append_right (Nat.le_add_right ..), Nat.add_sub_cancel_left] at at_high
  rw [next, List.getElem?_append_right (Nat.le_add_right ..), Nat.add_sub_cancel_left] at at_low
  refine ⟨place - 1, high, low, by omega, at_high, ?_, pair⟩
  rw [Nat.sub_add_cancel later]
  exact at_low

theorem not_high_of_low {unit : UInt16} (low : isLowSurrogate unit = true) :
    isHighSurrogate unit = false := by
  rw [isLowSurrogate, Bool.and_eq_true, decide_eq_true_iff, decide_eq_true_iff] at low
  rw [isHighSurrogate, Bool.and_eq_false_iff, decide_eq_false_iff_not, decide_eq_false_iff_not]
  omega

theorem not_insidePair_zero (text : DartString) : ¬InsidePair text 0 := by
  rintro ⟨before, high, low, place, -⟩
  cases place

/-- Between characters no pair is split. -/
theorem not_insidePair {lineLookup : LineLookup} {text : DartString} {left right : List Character}
    (eq : wholeCharacters lineLookup text = left ++ right) :
    ¬InsidePair text (unitClasses left).length := by
  induction text using wholeCharacters.induct generalizing left with
  | case1 =>
    rw [(List.append_eq_nil_iff.mp eq.symm).1]
    exact not_insidePair_zero []
  | case2 char =>
    rintro ⟨before, high, low, -, -, at_low, -⟩
    cases at_low
  | case3 char next rest pair ih =>
    cases left with
    | nil => exact not_insidePair_zero _
    | cons first left =>
      rw [wholeCharacters, if_pos pair] at eq
      obtain ⟨rfl, later⟩ := List.cons.inj eq
      rw [length_unitClasses_cons]
      intro inside
      rcases Nat.eq_zero_or_pos (unitClasses left).length with none | some
      · rw [none] at inside
        obtain ⟨before, high, low, place, at_high, -, is_high, -⟩ := inside
        obtain rfl : before = 1 := by
          change 2 = before + 1 at place
          omega
        obtain rfl := Option.some.inj at_high
        have is_low := ((Bool.and_eq_true ..).mp pair).2
        exact Bool.false_ne_true ((not_high_of_low is_low).symm.trans is_high)
      · exact ih later (InsidePair.of_append [char, next] some inside)
  | case4 char next rest single ih =>
    cases left with
    | nil => exact not_insidePair_zero _
    | cons first left =>
      rw [wholeCharacters, if_neg single] at eq
      obtain ⟨rfl, later⟩ := List.cons.inj eq
      rw [length_unitClasses_cons]
      intro inside
      rcases Nat.eq_zero_or_pos (unitClasses left).length with none | some
      · rw [none] at inside
        obtain ⟨before, high, low, place, at_high, at_low, is_high, is_low⟩ := inside
        obtain rfl : before = 0 := by
          change 1 = before + 1 at place
          omega
        obtain rfl := Option.some.inj at_high
        obtain rfl := Option.some.inj at_low
        exact single ((Bool.and_eq_true ..).mpr ⟨is_high, is_low⟩)
      · exact ih later (InsidePair.of_append [char] some inside)

/-! ## Where the fragments keep the lines -/

section

variable {lineLookup : LineLookup} {text : DartString}

theorem classes_judged (paired : isPaired text = true) :
    (judged lineLookup text).classes = unitClasses (wholeCharacters lineLookup text) := by
  rw [Verdicts.classes, map_fst_judged, characters_eq_whole lineLookup paired]

/-- The verdict on a character is mandatory where a line ends. -/
theorem mandatory_iff_endsLine {before after : Verdicts} {pair : Character × LineBreakType}
    (eq : judged lineLookup text = before ++ pair :: after) :
    pair.2 = .mandatory ↔
      EndsLine (judged lineLookup text).classes (extent (before ++ [pair])) := by
  have solid : IsSolid (pair :: after) := fun other mem =>
    isSolid_judged lineLookup text other (by rw [eq]; exact List.mem_append_right before mem)
  obtain ⟨memory, tracks, verdict⟩ := verdict_judged eq
  obtain ⟨place, extent, here, next⟩ := @classes_beside before after pair solid
  rw [verdict, Memory.verdict_mandatory_iff tracks, extent, eq]
  have following : Option.map Character.property (after.head?.map Prod.fst) =
      after.head?.map (·.1.property) := Option.map_map ..
  rw [following, ← next]
  constructor
  · exact fun ends => ⟨place, pair.1.property, rfl, here, ends⟩
  · rintro ⟨other, prop, same, at_place, ends⟩
    obtain rfl := Nat.succ.inj same
    rw [here] at at_place
    obtain rfl := Option.some.inj at_place
    exact ends

/-- The first character of the row is broken off where a zero width space follows a space. -/
theorem isChain_carries_iff :
    (judged lineLookup text).IsChain Carries ↔
      (judged lineLookup text).IsChain fun pair next =>
        ¬(pair.1.property = .SP ∧ next.1.property = .ZW) := by
  rw [List.isChain_iff_forall_rel_of_append_cons_cons,
    List.isChain_iff_forall_rel_of_append_cons_cons]
  refine forall_congr' fun pair => forall_congr' fun next => forall_congr' fun before =>
    forall_congr' fun after => forall_congr' fun eq => ?_
  obtain ⟨memory, tracks, verdict⟩ := verdict_judged eq
  constructor
  · rintro carries ⟨space, zero⟩
    have prohibited := Memory.verdict_space tracks space zero
    have trails := carries (verdict.trans prohibited) (by rw [space]; rfl)
    rw [zero] at trails
    cases trails
  · intro apart prohibited trailing
    rw [verdict] at prohibited
    exact (Memory.trailing_of_verdict tracks prohibited trailing).resolve_right apart

theorem isChain_iff_not_infix (classes : List LineCharProperty) :
    (classes.IsChain fun prop next => ¬(prop = .SP ∧ next = .ZW)) ↔ ¬[.SP, .ZW] <:+: classes := by
  rw [List.isChain_iff_forall_rel_of_append_cons_cons]
  constructor
  · rintro apart ⟨before, after, rfl⟩
    refine @apart .SP .ZW before after ?_ ⟨rfl, rfl⟩
    rw [List.append_assoc]
    rfl
  · rintro apart prop next before after rfl ⟨rfl, rfl⟩
    refine apart ⟨before, after, ?_⟩
    rw [List.append_assoc]
    rfl

/-- All fragments count the run at their end, if no space is before a zero width space. -/
theorem forall_countsRun (paired : isPaired text = true) :
    (∀ fragment ∈ computeLineBreakFragments lineLookup text,
      fragment.CountsRun (unitClasses (wholeCharacters lineLookup text))) ↔
      ¬[.SP, .ZW] <:+: unitClasses (wholeCharacters lineLookup text) := by
  have solid := isSolid_judged lineLookup text
  have runs := @forall_countsRun_iff [] [] (judged lineLookup text) staysOpen_nil solid
  have self (prop : LineCharProperty) : ¬(prop = .SP ∧ prop = .ZW) := by
    rintro ⟨rfl, zero⟩
    cases zero
  rw [← classes_judged paired, computeLineBreakFragments_eq, ← isChain_iff_not_infix,
    isChain_classes self solid, ← isChain_carries_iff]
  exact runs

/-- A fragment is mandatory if it ends with a line. -/
theorem mandatory_iff {fragment : LineBreakFragment}
    (mem : fragment ∈ computeLineBreakFragments lineLookup text) :
    fragment.type = .mandatory ↔ fragment.start < fragment.stop ∧
      EndsLine (judged lineLookup text).classes fragment.stop := by
  rw [computeLineBreakFragments_eq] at mem
  obtain ⟨before, inner, after, cuts⟩ := cuts_of_mem mem
  rcases List.eq_nil_or_concat' inner with rfl | ⟨front, last, rfl⟩
  · have stop := cuts.stop
    rw [List.append_nil, ← cuts.start] at stop
    refine iff_of_false ?_ fun ends => absurd ends.1 (by rw [stop]; exact lt_irrefl _)
    obtain ⟨-, -, type⟩ | ⟨front, last, none, -⟩ := cuts.closed
    · rw [type]
      exact LineBreakType.noConfusion
    · exact absurd none.symm (List.append_ne_nil_of_right_ne_nil front (List.cons_ne_nil _ _))
  · have eq : judged lineLookup text = (before ++ front) ++ last :: after := by
      rw [cuts.eq, List.append_assoc, List.append_assoc, List.append_assoc]
      rfl
    have units : 0 < last.1.units := isSolid_judged lineLookup text last <| by
      rw [eq]
      exact List.mem_append_right _ List.mem_cons_self
    have stop := cuts.stop
    rw [← List.append_assoc] at stop
    have within : fragment.start < fragment.stop := by
      rw [cuts.start, stop, extent_concat, extent_append]
      omega
    rw [and_iff_right within, stop, ← mandatory_iff_endsLine eq]
    obtain ⟨isOpen, -, type⟩ | ⟨_, _, same, -, type, -⟩ := cuts.closed
    · have prohibited := isOpen last (List.mem_append_right front List.mem_cons_self)
      rw [type, prohibited]
      exact iff_of_false LineBreakType.noConfusion LineBreakType.noConfusion
    · rw [← type, List.singleton_inj.mp (List.append_inj' same rfl).2]

/-- Every line ends with a fragment. -/
theorem exists_mandatory (spares : lineLookup.SparesSupplementary) (paired : isPaired text = true)
    {place : Nat} (ends : EndsLine (unitClasses (wholeCharacters lineLookup text)) place) :
    ∃ fragment ∈ computeLineBreakFragments lineLookup text,
      fragment.type = .mandatory ∧ fragment.stop = place := by
  rw [← classes_judged paired] at ends
  have ⟨index, prop, place_eq, here, line⟩ := ends
  obtain ⟨before, pair, after, eq, rfl, low, high⟩ := exists_character here
  have trailing : pair.1.property.isTrailing = true := by
    obtain hard | ⟨carriage, -⟩ := line
    · rw [LineCharProperty.isTrailing, LineCharProperty.isNewline, hard, Bool.true_or, Bool.or_true]
    · rw [carriage]
      rfl
  have units : pair.1.units = 1 := by
    refine @units_of_isTrailing _ spares text _ ?_ trailing
    rw [← characters_eq_whole lineLookup paired, ← map_fst_judged, eq]
    exact List.mem_map_of_mem (List.mem_append_right before List.mem_cons_self)
  have place_extent : place = extent (before ++ [pair]) := by
    rw [extent_concat] at high ⊢
    omega
  rw [place_extent] at ends ⊢
  have mandatory := (mandatory_iff_endsLine eq).mpr ends
  obtain ⟨fragment, mem, type, stop⟩ := @exists_stop before after .mandatory 0 0 0 0 pair.1
    LineBreakType.noConfusion
  have same : (pair.1, LineBreakType.mandatory) = pair := by rw [← mandatory]
  rw [same, Nat.zero_add] at stop
  rw [same, ← eq, ← computeLineBreakFragments_eq] at mem
  exact ⟨fragment, mem, type, stop⟩

/-- No fragment splits a pair. -/
theorem not_insidePair_of_mem (paired : isPaired text = true) {fragment : LineBreakFragment}
    (mem : fragment ∈ computeLineBreakFragments lineLookup text) :
    ¬InsidePair text fragment.start ∧ ¬InsidePair text fragment.stop := by
  rw [computeLineBreakFragments_eq] at mem
  obtain ⟨before, inner, after, cuts⟩ := cuts_of_mem mem
  have whole (left right : Verdicts) (eq : judged lineLookup text = left ++ right) :
      ¬InsidePair text (extent left) := by
    rw [← length_classes]
    refine @not_insidePair lineLookup text _ (right.map Prod.fst) ?_
    rw [← characters_eq_whole lineLookup paired, ← map_fst_judged, eq, List.map_append]
  rw [cuts.start, cuts.stop]
  refine ⟨whole before (inner ++ after) ?_, whole (before ++ inner) after cuts.eq⟩
  rw [cuts.eq, List.append_assoc]

/-- The fragments of a text whose surrogates are paired. -/
theorem keepsLines_iff_of_paired (spares : lineLookup.SparesSupplementary)
    (paired : isPaired text = true) :
    KeepsLines lineLookup text (computeLineBreakFragments lineLookup text) ↔
      ¬[.SP, .ZW] <:+: unitClasses (wholeCharacters lineLookup text) := by
  rw [← forall_countsRun paired]
  refine ⟨KeepsLines.run, fun runs => ?_⟩
  have breaking := isLineBreaking_fw lineLookup text
  obtain ⟨before, last, eq, ended, types⟩ := breaking.types
  refine ⟨breaking.tiles, fun fragment => not_insidePair_of_mem paired,
    ⟨before, last, eq, ended, fun fragment mem => ?_⟩, fun fragment mem => ?_,
    fun place => exists_mandatory spares paired, breaking.newlines_le, fun fragment mem => ?_, runs⟩
  · rcases types fragment mem with type | type <;> rw [type] <;> exact LineBreakType.noConfusion
  · rw [← classes_judged paired]
    exact mandatory_iff mem
  · exact Nat.le_sub_of_add_le' (breaking.spaces_le fragment mem)

end

/-! ## Surrogates that are not paired -/

/-- The lookup that knows one code point. -/
def LineLookup.only (value : Nat) (property : LineCharProperty) : LineLookup :=
  [⟨value, value, property⟩]

theorem LineLookup.property_only (value : Nat) (property : LineCharProperty) (codePoint : Nat) :
    (LineLookup.only value property).property (some codePoint) =
      if codePoint = value then property else .AL := by
  have search : (UnicodePropertyLookup.mk (LineLookup.only value property) .AL).binarySearch
      codePoint 1 0 1 = if codePoint = value then some ⟨value, value, property⟩ else none := by
    rw [UnicodePropertyLookup.binarySearch, if_pos Nat.zero_lt_one]
    change (if codePoint < value then none else if value < codePoint then none
      else some _) = _
    rcases lt_trichotomy codePoint value with less | same | more
    · rw [if_pos less, if_neg less.ne]
    · rw [if_neg (not_lt.mpr same.ge), if_neg (not_lt.mpr same.le), if_pos same]
    · rw [if_neg more.not_gt, if_pos more, if_neg more.ne']
  have length : (LineLookup.only value property).length = 1 := rfl
  unfold LineLookup.property UnicodePropertyLookup.findForChar
  dsimp only
  rw [length, search]
  by_cases same : codePoint = value
  · rw [if_pos same, if_pos same]
  · rw [if_neg same, if_neg same]

/-- The first surrogate that is read with a unit that is not its own. -/
structure Misreads (text before : DartString) (first second : UInt16) (rest : DartString) :
    Prop where
  eq : text = before ++ first :: second :: rest
  unpaired : ¬(isHighSurrogate first && isLowSurrogate second) = true
  chars : ∀ lineLookup : LineLookup, ∃ left, (unitClasses left).length = before.length ∧
    characters lineLookup text = left ++
      ⟨2, lineLookup.property (some (combineSurrogatePair first second)), first, second⟩ ::
        characters lineLookup rest ∧
    wholeCharacters lineLookup text =
      left ++ wholeCharacters lineLookup (first :: second :: rest)

theorem exists_misreads {text : DartString} (unpaired : isPaired text = false) :
    ∃ before first second rest, Misreads text before first second rest := by
  induction text using isPaired.induct with
  | case1 => cases unpaired
  | case2 char => cases unpaired
  | case3 char next rest surrogate ih =>
    rw [isPaired, if_pos surrogate] at unpaired
    by_cases pair : (isHighSurrogate char && isLowSurrogate next) = true
    · rw [pair] at unpaired
      obtain ⟨before, first, second, later, reads⟩ := ih unpaired
      refine ⟨char :: next :: before, first, second, later, ?_, reads.unpaired, fun lineLookup => ?_⟩
      · rw [reads.eq]
        rfl
      obtain ⟨left, length, chars, whole⟩ := reads.chars lineLookup
      obtain ⟨high, low⟩ := (Bool.and_eq_true ..).mp pair
      refine ⟨⟨2, lineLookup.property (some (combine char next)), char, next⟩ :: left, ?_, ?_, ?_⟩
      · rw [length_unitClasses_cons, length, List.length_cons, List.length_cons]
        exact Nat.add_comm 2 _
      · rw [characters, if_pos surrogate, chars, combineSurrogatePair_eq high low]
        rfl
      · rw [wholeCharacters, if_pos pair, whole]
        rfl
    · refine ⟨[], char, next, rest, rfl, pair, fun lineLookup => ⟨[], rfl, ?_, rfl⟩⟩
      rw [characters, if_pos surrogate]
      rfl
  | case4 char next rest basic ih =>
    rw [isPaired, if_neg basic] at unpaired
    obtain ⟨before, first, second, later, reads⟩ := ih unpaired
    have single : ¬(isHighSurrogate char && isLowSurrogate next) = true := by
      intro pair
      refine basic ((isUtf16Surrogate_iff char).mpr (.inl ?_))
      exact ((Bool.and_eq_true ..).mp pair).1
    refine ⟨char :: before, first, second, later, ?_, reads.unpaired, fun lineLookup => ?_⟩
    · rw [reads.eq]
      rfl
    obtain ⟨left, length, chars, whole⟩ := reads.chars lineLookup
    refine ⟨⟨1, lineLookup.property (some char.toNat), char, char⟩ :: left, ?_, ?_, ?_⟩
    · rw [length_unitClasses_cons, length, List.length_cons]
      exact Nat.add_comm 1 _
    · rw [characters, if_neg basic, chars]
      rfl
    · rw [wholeCharacters, if_neg single, whole]
      rfl

/-- The characters with verdicts up to one of the characters. -/
theorem exists_judged {lineLookup : LineLookup} {text : DartString} {left right : List Character}
    {character : Character} (eq : characters lineLookup text = left ++ character :: right) :
    ∃ before type after, judged lineLookup text = before ++ (character, type) :: after ∧
      before.map Prod.fst = left ∧ after.map Prod.fst = right := by
  rw [← map_fst_judged] at eq
  obtain ⟨before, later, judged_eq, rfl, rest⟩ := List.map_eq_append_iff.mp eq
  obtain ⟨pair, after, rfl, rfl, rfl⟩ := List.map_eq_cons_iff.mp rest
  exact ⟨before, pair.2, after, judged_eq, rfl, rfl⟩

variable {rest before : DartString} {value : Nat} {property : LineCharProperty}
  {first second : UInt16}

/-- A unit that is read with a surrogate before it makes its own character. -/
theorem whole_of_alone {lineLookup : LineLookup} {unit : UInt16}
    (alone : ∀ low ∈ rest.head?, ¬(isHighSurrogate unit && isLowSurrogate low) = true) :
    ∃ later, wholeCharacters lineLookup (unit :: rest) =
      ⟨1, lineLookup.property (some unit.toNat), unit, unit⟩ :: later := by
  cases rest with
  | nil => exact ⟨[], rfl⟩
  | cons low rest =>
    rw [wholeCharacters, if_neg (alone low rfl)]
    exact ⟨_, rfl⟩

theorem property_supplementary {lineLookup : LineLookup} (eq : lineLookup = .only value property)
    (basic : value < 0x10000) (first second : UInt16) :
    lineLookup.property (some (combineSurrogatePair first second)) = .AL := by
  have above := le_combineSurrogatePair first second
  rw [eq, LineLookup.property_only, if_neg (by omega)]

/-- A newline that is read with a surrogate before it ends no fragment. -/
theorem not_keepsLines_of_newline {text : DartString}
    (reads : Misreads text before first second rest)
    (alone : ∀ low ∈ rest.head?, ¬(isHighSurrogate second && isLowSurrogate low) = true) :
    ¬KeepsLines (.only second.toNat .LF) text
      (computeLineBreakFragments (.only second.toNat .LF) text) := by
  intro keeps
  obtain ⟨left, length, chars, whole⟩ := reads.chars (.only second.toNat .LF)
  rw [property_supplementary rfl second.toNat_lt] at chars
  obtain ⟨later, second_eq⟩ := @whole_of_alone rest (.only second.toNat .LF) second alone
  rw [wholeCharacters, if_neg reads.unpaired, second_eq, LineLookup.property_only _ _ second.toNat,
    if_pos rfl] at whole
  have newline : (unitClasses (wholeCharacters (.only second.toNat .LF) text))[before.length + 1]? =
      some .LF := by
    rw [whole, unitClasses_append, ← length, List.getElem?_append_right (Nat.le_add_right _ 1),
      Nat.add_sub_cancel_left]
    rfl
  obtain ⟨fragment, mem, mandatory, stop⟩ := keeps.lines (before.length + 1 + 1)
    ⟨before.length + 1, .LF, rfl, newline, .inl rfl⟩
  obtain ⟨earlier, type, after, eq, left_eq, -⟩ := exists_judged chars
  have place : extent (earlier ++ [(⟨2, .AL, first, second⟩, type)]) = before.length + 1 + 1 := by
    rw [extent_concat, ← length_classes, Verdicts.classes, left_eq, length]
    rfl
  have ends := ((mandatory_iff mem).mp mandatory).2
  rw [stop, ← place] at ends
  have hard := (mandatory_iff_endsLine eq).mpr ends
  obtain ⟨memory, tracks, verdict⟩ := verdict_judged eq
  rw [verdict, Memory.verdict_mandatory_iff tracks] at hard
  obtain hard | ⟨carriage, -⟩ := hard
  · cases hard
  · cases carriage

/-- A place before CB is one to break at, and so is one behind it. -/
theorem Memory.judge_contingent {memory : Memory} (contingent : memory.curr = .CB)
    (last first : UInt16) {next : LineCharProperty} (other : next = .CB ∨ next = .AL) :
    (memory.judge last first next).type = .opportunity := by
  have pair : LineBreaker.pairRule [last, first] memory.prev1 (some .CB) next 1
      memory.indicators = .opportunity := by
    obtain rfl | rfl := other <;> rfl
  obtain rfl | rfl := other <;>
    · unfold judge spaceRule judgeMarks base
      rw [contingent]
      exact pair

/-- A surrogate before a pair takes its first unit, and the pair is split. -/
theorem not_keepsLines_of_pair {text : DartString} {low : UInt16}
    (reads : Misreads text before first second (low :: rest))
    (pair : (isHighSurrogate second && isLowSurrogate low) = true) :
    ¬KeepsLines (.only (combineSurrogatePair first second) .CB) text
      (computeLineBreakFragments (.only (combineSurrogatePair first second) .CB) text) := by
  intro keeps
  obtain ⟨left, length, chars, -⟩ :=
    reads.chars (.only (combineSurrogatePair first second) .CB)
  rw [LineLookup.property_only, if_pos rfl] at chars
  obtain ⟨earlier, type, after, eq, left_eq, after_eq⟩ := exists_judged chars
  have place : extent (earlier ++ [(⟨2, .CB, first, second⟩, type)]) = before.length + 2 := by
    rw [extent_concat, ← length_classes, Verdicts.classes, left_eq, length]
  obtain ⟨next, later, next_eq, property⟩ : ∃ next later, after = next :: later ∧
      (next.1.property = .CB ∨ next.1.property = .AL) := by
    cases after with
    | nil => cases characters_eq_nil after_eq.symm
    | cons next later =>
      refine ⟨next, later, rfl, ?_⟩
      have mem : next.1 ∈ characters (.only (combineSurrogatePair first second) .CB)
          (low :: rest) := by
        rw [← after_eq]
        exact List.mem_cons_self
      have known (codePoint : Nat) {property : LineCharProperty} (known : property =
          (LineLookup.only (combineSurrogatePair first second) .CB).property (some codePoint)) :
          property = .CB ∨ property = .AL := by
        rw [known, LineLookup.property_only]
        split
        · exact .inl rfl
        · exact .inr rfl
      rcases mem_characters mem with ⟨char, eq⟩ | ⟨one, two, eq⟩ <;> exact known _ (by rw [eq])
  have breaks : type = .opportunity := by
    obtain ⟨memory, tracks, verdict⟩ := verdict_judged eq
    rw [next_eq] at verdict
    refine verdict.trans (Memory.judge_contingent ?_ _ _ property)
    exact tracks.plain LineCharProperty.noConfusion LineCharProperty.noConfusion
  rw [breaks] at eq place
  obtain ⟨fragment, mem, -, stop⟩ := @exists_stop earlier after .opportunity 0 0 0 0
    ⟨2, .CB, first, second⟩ LineBreakType.noConfusion
  rw [← eq, ← computeLineBreakFragments_eq] at mem
  refine (keeps.whole fragment mem).2 ?_
  rw [stop, place, Nat.zero_add, reads.eq]
  refine ⟨before.length + 1, second, low, rfl, ?_, ?_, (Bool.and_eq_true ..).mp pair⟩
  · rw [List.getElem?_append_right (Nat.le_add_right _ 1), Nat.add_sub_cancel_left]
    rfl
  · rw [List.getElem?_append_right (Nat.le_add_right _ 2), Nat.add_sub_cancel_left]
    rfl

/-- With such a lookup no space is before a zero width space. -/
theorem not_infix_only (other : property ≠ .SP) (text : DartString) :
    ¬[.SP, .ZW] <:+: unitClasses (wholeCharacters (.only value property) text) := by
  intro both
  have space : .SP ∈ unitClasses (wholeCharacters (.only value property) text) :=
    both.subset List.mem_cons_self
  obtain ⟨character, mem, here⟩ := List.mem_flatMap.mp space
  have unknown (codePoint : Nat) :
      .SP ≠ (LineLookup.only value property).property (some codePoint) := by
    rw [LineLookup.property_only]
    split
    · exact other.symm
    · exact LineCharProperty.noConfusion
  rw [List.mem_replicate] at here
  rcases mem_wholeCharacters mem with ⟨char, rfl⟩ | ⟨high, low, -, rfl⟩ <;>
    exact unknown _ here.2

/-- The fragments keep the lines of a text whose surrogates are paired, unless a space is before a
zero width space. Where a surrogate is not paired, there is a lookup with which they do not. -/
theorem keepsLines_iff (text : DartString) :
    (isPaired text = true → ∀ lineLookup : LineLookup, lineLookup.SparesSupplementary →
      (KeepsLines lineLookup text (computeLineBreakFragments lineLookup text) ↔
        ¬[.SP, .ZW] <:+: unitClasses (wholeCharacters lineLookup text))) ∧
    (isPaired text = false → ∃ lineLookup : LineLookup, lineLookup.SparesSupplementary ∧
      ¬[.SP, .ZW] <:+: unitClasses (wholeCharacters lineLookup text) ∧
      ¬KeepsLines lineLookup text (computeLineBreakFragments lineLookup text)) := by
  refine ⟨fun paired lineLookup spares => keepsLines_iff_of_paired spares paired,
    fun unpaired => ?_⟩
  obtain ⟨before, first, second, rest, reads⟩ := exists_misreads unpaired
  by_cases alone : ∀ low ∈ rest.head?, ¬(isHighSurrogate second && isLowSurrogate low) = true
  · refine ⟨.only second.toNat .LF, fun codePoint supplementary _ => ?_,
      not_infix_only LineCharProperty.noConfusion text, not_keepsLines_of_newline reads alone⟩
    have basic := second.toNat_lt
    rw [LineLookup.property_only, if_neg (by omega)]
    rfl
  · push Not at alone
    obtain ⟨low, mem, pair⟩ := alone
    obtain ⟨later, rfl⟩ := List.head?_eq_some_iff.mp mem
    refine ⟨.only (combineSurrogatePair first second) .CB, fun codePoint _ _ => ?_,
      not_infix_only LineCharProperty.noConfusion text, not_keepsLines_of_pair reads pair⟩
    rw [LineLookup.property_only]
    split <;> rfl

/-- A lookup that knows a space and a zero width space. -/
def spacesLookup : LineLookup := [⟨0x20, 0x20, .SP⟩, ⟨0x200B, 0x200B, .ZW⟩]

theorem spares_spacesLookup : spacesLookup.SparesSupplementary := by
  intro codePoint supplementary _
  have outside : spacesLookup.property (some codePoint) = .AL := by
    refine UnicodePropertyLookup.findForChar_eq_default _ fun range mem within => ?_
    rcases List.mem_cons.mp mem with rfl | mem
    · exact absurd (within.2.trans (by decide)) (not_le.mpr supplementary)
    · rw [List.mem_singleton.mp mem] at within
      exact absurd (within.2.trans (by decide)) (not_le.mpr supplementary)
  rw [outside]
  rfl

/-- "a b", and a newline behind a surrogate. -/
theorem keepsLines_iff_spaces :
    KeepsLines spacesLookup [0x61, 0x20, 0x62]
      (computeLineBreakFragments spacesLookup [0x61, 0x20, 0x62]) ∧
    ∃ lineLookup : LineLookup, lineLookup.SparesSupplementary ∧
      ¬KeepsLines lineLookup [0xD800, 0x0A]
        (computeLineBreakFragments lineLookup [0xD800, 0x0A]) := by
  refine ⟨(((keepsLines_iff [0x61, 0x20, 0x62]).1 rfl spacesLookup spares_spacesLookup).mpr
    (by decide)), ?_⟩
  obtain ⟨lineLookup, spares, -, breaks⟩ := (keepsLines_iff [0xD800, 0x0A]).2 rfl
  exact ⟨lineLookup, spares, breaks⟩

/-- In "a", a space, a zero width space, "b" one space is counted, but the zero width space
trails. Behind a lone surrogate a newline ends no line. -/
theorem zeroWidth_not_keepsLines :
    (spacesLookup.SparesSupplementary ∧
      ¬KeepsLines spacesLookup [0x61, 0x20, 0x200B, 0x62]
        (computeLineBreakFragments spacesLookup [0x61, 0x20, 0x200B, 0x62])) ∧
    ¬KeepsLines (.only 0x0A .LF) [0xD800, 0x0A]
      (computeLineBreakFragments (.only 0x0A .LF) [0xD800, 0x0A]) := by
  have spaces : computeLineBreakFragments spacesLookup [0x61, 0x20, 0x200B, 0x62] =
      [⟨0, 3, .opportunity, 0, 1⟩, ⟨3, 4, .endOfText, 0, 0⟩] := by decide
  have newline : computeLineBreakFragments (.only 0x0A .LF) [0xD800, 0x0A] =
      [⟨0, 2, .endOfText, 0, 0⟩] := by decide
  refine ⟨⟨spares_spacesLookup, fun keeps => ?_⟩, fun keeps => ?_⟩
  · have run := keeps.run ⟨0, 3, .opportunity, 0, 1⟩ (by rw [spaces]; exact List.mem_cons_self)
    exact absurd run (by unfold LineBreakFragment.CountsRun; decide)
  · obtain ⟨fragment, mem, type, -⟩ := keeps.lines 2 ⟨1, .LF, rfl, by decide, .inl rfl⟩
    rw [newline, List.mem_singleton] at mem
    rw [mem] at type
    cases type

end FlutterEngine.WebText
