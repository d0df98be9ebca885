import FlutterEngine.WebText.LineBreaking

/-!
# Line breaks as verdicts on characters

What `_computeLineBreakFragments` reads of a text is a row of characters, and what it remembers
of those before a place is little. It passes a verdict on each of them, and its fragments are
the text cut after the characters with a verdict to break.
-/

namespace FlutterEngine.WebText

open FlutterEngine.Std

/-! ## Characters -/

/-- A character as `getCodePoint` reads it. -/
structure Character where
  units : Nat
  property : LineCharProperty
  first : UInt16
  last : UInt16
deriving DecidableEq

/-- The characters of a text. A surrogate takes the next unit with it. -/
def characters (lineLookup : LineLookup) : DartString → List Character
  | [] => []
  | [char] => [⟨1, lineLookup.property (some char.toNat), char, char⟩]
  | char :: next :: rest =>
    if isUtf16Surrogate char then
      ⟨2, lineLookup.property (some (combineSurrogatePair char next)), char, next⟩ ::
        characters lineLookup rest
    else
      ⟨1, lineLookup.property (some char.toNat), char, char⟩ ::
        characters lineLookup (next :: rest)

/-- Whether a character is counted as a trailing newline. -/
def LineCharProperty.isNewline (prop : LineCharProperty) : Bool :=
  isHardBreak (some prop) || prop = .CR

/-- Whether a character is counted as a trailing space. -/
def LineCharProperty.isTrailing (prop : LineCharProperty) : Bool :=
  prop = .SP || prop.isNewline

namespace Character

variable (character : Character)

/-- The trailing newlines that a character counts as. -/
def newlines : Nat := if character.property.isNewline then character.units else 0

/-- The trailing spaces that a character counts as. -/
def spaces : Nat := if character.property.isTrailing then character.units else 0

end Character

/-! ## Verdicts -/

/-- What the loop remembers of the characters up to the current one, of class `curr`. -/
structure Memory where
  prev1 : Option LineCharProperty := none
  curr : LineCharProperty
  baseOfCombiningMarks : LineCharProperty := .AL
  regionalIndicatorCount : Int := 0

/-- A verdict on the current character, with the variables as they are when it is passed. -/
structure Judgement where
  type : LineBreakType
  prev1 : LineCharProperty
  curr : LineCharProperty
  baseOfCombiningMarks : LineCharProperty
  regionalIndicatorCount : Int

/-- What is remembered after a verdict: a break forgets the characters before it. -/
def Judgement.memory (judgement : Judgement) : Memory where
  prev1 := if judgement.type = .prohibited then some judgement.prev1 else none
  curr := judgement.curr
  baseOfCombiningMarks := judgement.baseOfCombiningMarks
  regionalIndicatorCount := judgement.regionalIndicatorCount

namespace Memory

variable (memory : Memory)

/-- The number of regional indicators up to the current character. -/
def indicators : Int :=
  if memory.curr = .RI then memory.regionalIndicatorCount + 1 else 0

/-- LB7 to LB8a. -/
def spaceRule (next : LineCharProperty) : Option LineBreakType :=
  if next = .SP || next = .ZW then some .prohibited
  else if memory.curr = .SP then some .opportunity
  else if memory.curr = .ZW then some .opportunity
  else if memory.curr = .ZWJ then some .prohibited
  else none

/-- The base that is established before LB9. -/
def base : LineCharProperty :=
  if memory.curr ≠ .CM && memory.curr ≠ .ZWJ then memory.curr else memory.baseOfCombiningMarks

/-- LB9 to LB31 for the next character, of class `next` and first unit `first`; the last unit
of the current one is `last`. -/
def judgeMarks (last first : UInt16) (next : LineCharProperty) : Judgement :=
  let base := memory.base
  let combines := next = .CM || next = .ZWJ
  if combines && base ≠ .SP then
    { type := .prohibited
      prev1 := memory.curr
      curr := base
      baseOfCombiningMarks := base
      regionalIndicatorCount := if base = .RI then memory.indicators - 1 else memory.indicators }
  else
    let curr := if combines then .AL else next
    let prev1 := if memory.curr = .CM || memory.curr = .ZWJ then base else memory.curr
    { type := LineBreaker.pairRule [last, first] memory.prev1 (some prev1) curr 1 memory.indicators
      prev1
      curr
      baseOfCombiningMarks := base
      regionalIndicatorCount := memory.indicators }

/-- A verdict that leaves the variables as they are. -/
def keeping (next : LineCharProperty) (type : LineBreakType) : Judgement :=
  ⟨type, memory.curr, next, memory.baseOfCombiningMarks, memory.indicators⟩

/-- LB4 to LB31 for the next character. -/
def judge (last first : UInt16) (next : LineCharProperty) : Judgement :=
  if isHardBreak (some memory.curr) then memory.keeping next .mandatory
  else if memory.curr = .CR then
    memory.keeping next (if next = .LF then .prohibited else .mandatory)
  else if next.isNewline then memory.keeping next .prohibited
  else
    match memory.spaceRule next with
    | some type => memory.keeping next type
    | none => memory.judgeMarks last first next

end Memory

/-- Characters with the verdicts on the places after them. -/
abbrev Verdicts : Type := List (Character × LineBreakType)

/-- The verdicts on the characters, each on the place after it. -/
def verdicts : Memory → List Character → List LineBreakType
  | _, [] => []
  | memory, [_] => [if memory.curr.isNewline then .mandatory else .prohibited]
  | memory, character :: next :: rest =>
    let judgement := memory.judge character.last next.first next.property
    judgement.type :: verdicts judgement.memory (next :: rest)

/-- The fragments of characters with verdicts, from a position in an open fragment on. -/
def assemble (start position newlines spaces : Nat) :
    Verdicts → List LineBreakFragment
  | [] => [⟨start, position, .endOfText, newlines, spaces⟩]
  | (character, type) :: rest =>
    let stop := position + character.units
    let newlines := newlines + character.newlines
    let spaces := spaces + character.spaces
    if type = .prohibited then assemble start stop newlines spaces rest
    else ⟨start, stop, type, newlines, spaces⟩ :: assemble stop stop 0 0 rest

/-- The memory at the first character. -/
def Memory.first (lineLookup : LineLookup) (text : DartString) : Memory where
  curr := lineLookup.property (getCodePoint text 0)

/-- The characters of a text with the verdicts on them. -/
def judged (lineLookup : LineLookup) (text : DartString) : Verdicts :=
  (characters lineLookup text).zip
    (verdicts (.first lineLookup text) (characters lineLookup text))

/-! ## Reading a character -/

/-- What the character at a position says of the text. -/
structure Begun (lineLookup : LineLookup) (text : DartString) (position : Nat)
    (character : Character) (rest : List Character) : Prop where
  within : position + character.units ≤ text.length
  property : character.property = lineLookup.property (getCodePoint text position)
  units : character.units = if isSurrogatePair (getCodePoint text position) then 2 else 1
  first : text[position]? = some character.first
  last : text[position + character.units - 1]? = some character.last
  rest : characters lineLookup (text.drop (position + character.units)) = rest

/-- The code point of a unit that is not followed by another one is not of two units. -/
theorem not_isSurrogatePair_unit (char : UInt16) : isSurrogatePair (some char.toNat) = false := by
  have bound := char.toNat_lt
  rw [isSurrogatePair, Option.any_some, decide_eq_false_iff_not]
  omega

theorem begun_of_characters {lineLookup : LineLookup} {text : DartString} {position : Nat}
    {character : Character} {rest : List Character}
    (chars : characters lineLookup (text.drop position) = character :: rest) :
    Begun lineLookup text position character rest := by
  have unit (index : Nat) : text[position + index]? = (text.drop position)[index]? :=
    List.getElem?_drop.symm
  have later (units : Nat) : text.drop (position + units) = (text.drop position).drop units :=
    List.drop_drop.symm
  have length := List.length_drop (i := position) (l := text)
  have codePoint : getCodePoint text position = getCodePoint (text.drop position) 0 := rfl
  generalize text.drop position = remaining at *
  match remaining with
  | [] => cases chars
  | [char] =>
    cases chars
    rw [List.length_singleton] at length
    refine ⟨?_, ?_, ?_, unit 0, unit 0, ?_⟩
    · change position + 1 ≤ _
      omega
    · rw [codePoint]
      rfl
    · rw [codePoint]
      change 1 = if isSurrogatePair (some char.toNat) then 2 else 1
      rw [not_isSurrogatePair_unit]
      rfl
    · rw [later]
      rfl
  | char :: next :: units =>
    rw [List.length_cons, List.length_cons] at length
    unfold characters at chars
    split at chars
    · next surrogate =>
      cases chars
      have point : getCodePoint text position = some (combineSurrogatePair char next) :=
        codePoint.trans (if_pos surrogate)
      refine ⟨?_, ?_, ?_, unit 0, unit 1, ?_⟩
      · change position + 2 ≤ _
        omega
      · rw [point]
      · have above := le_combineSurrogatePair char next
        have pair : isSurrogatePair (some (combineSurrogatePair char next)) = true := by
          rw [isSurrogatePair, Option.any_some, decide_eq_true_iff]
          omega
        rw [point, pair]
        rfl
      · rw [later]
        rfl
    · next basic =>
      cases chars
      have point : getCodePoint text position = some char.toNat :=
        codePoint.trans (if_neg basic)
      refine ⟨?_, ?_, ?_, unit 0, unit 0, ?_⟩
      · change position + 1 ≤ _
        omega
      · rw [point]
      · rw [point, not_isSurrogatePair_unit]
        rfl
      · rw [later]
        rfl

theorem Begun.units_pos {lineLookup : LineLookup} {text : DartString} {position : Nat}
    {character : Character} {rest : List Character}
    (begun : Begun lineLookup text position character rest) : 0 < character.units := by
  rw [begun.units]
  split <;> omega

/-- Every unit is one of a character. -/
theorem characters_eq_nil {lineLookup : LineLookup} {text : DartString}
    (none : characters lineLookup text = []) : text = [] := by
  match text with
  | [] => rfl
  | [_] => cases none
  | _ :: _ :: _ =>
    unfold characters at none
    split at none <;> cases none

theorem Begun.ended {lineLookup : LineLookup} {text : DartString} {position : Nat}
    {character : Character} (begun : Begun lineLookup text position character []) :
    position + character.units = text.length :=
  begun.within.antisymm (List.drop_eq_nil_iff.mp (characters_eq_nil begun.rest))

/-! ## The loop passes the verdicts -/

namespace LineBreaker

variable {text : DartString} {lineLookup : LineLookup} {state : LineBreaker} {memory : Memory}

/-- What is counted of the current character in one call of `setBreak`. -/
theorem count_of_prev1 {prop : LineCharProperty} (before : state.prev1 = some prop) :
    state.count =
      { state with
        trailingNewlines := state.trailingNewlines + prop.isNewline.toNat
        trailingSpaces := state.trailingSpaces + prop.isTrailing.toNat } := by
  cases state
  cases before
  cases prop <;> rfl

/-- The rules that look at single units look at those next to the place. -/
theorem pairRule_units {prev2 prev1 : Option LineCharProperty} {curr : LineCharProperty}
    {regionalIndicatorCount : Int} {last first : UInt16} {index : Nat}
    (before : text[index - 1]? = some last) (after : text[index]? = some first) :
    pairRule text prev2 prev1 curr index regionalIndicatorCount =
      pairRule [last, first] prev2 prev1 curr 1 regionalIndicatorCount := by
  have sameBefore : text[index - 1]? = [last, first][1 - 1]? := before
  have sameAfter : text[index]? = [last, first][1]? := after
  simp only [pairRule, sameBefore, sameAfter]

/-- The variables as they are when a verdict is passed. -/
def judged (state : LineBreaker) (judgement : Judgement) : LineBreaker :=
  { state with
    prev1 := some judgement.prev1
    curr := judgement.curr
    baseOfCombiningMarks := judgement.baseOfCombiningMarks
    regionalIndicatorCount := judgement.regionalIndicatorCount }

/-- The variables are those that are remembered, and the next character has been read. -/
structure Holds (state : LineBreaker) (memory : Memory) : Prop where
  prev2 : state.prev2 = memory.prev1
  prev1 : state.prev1 = some memory.curr
  baseOfCombiningMarks : state.baseOfCombiningMarks = memory.baseOfCombiningMarks
  regionalIndicatorCount : state.regionalIndicatorCount = memory.indicators

theorem judged_keeping (holds : Holds state memory) (type : LineBreakType) :
    state.judged (memory.keeping state.curr type) = state := by
  obtain ⟨-, prev1, base, count⟩ := holds
  cases state
  cases prev1
  cases base
  cases count
  rfl

theorem spaceRule_eq (holds : Holds state memory) :
    state.spaceRule = memory.spaceRule state.curr := by
  unfold spaceRule Memory.spaceRule
  rw [holds.prev1]
  simp only [Option.some.injEq]

/-- The base is established. -/
theorem based_eq (holds : Holds state memory) :
    (if state.prev1 ≠ some .CM && state.prev1 ≠ some .ZWJ then
      { state with baseOfCombiningMarks := state.prev1.getD .AL } else state) =
      { state with baseOfCombiningMarks := memory.base } := by
  have same : (state.prev1 ≠ some .CM && state.prev1 ≠ some .ZWJ) =
      (memory.curr ≠ .CM && memory.curr ≠ .ZWJ) := by
    simp only [holds.prev1, ne_eq, Option.some.injEq]
  rw [same, Memory.base]
  split
  · rw [holds.prev1]
    rfl
  · rw [← holds.baseOfCombiningMarks]

/-- A mark that attaches to nothing is a letter. -/
theorem resolved_eq (base : LineCharProperty) (combines : Prop) [Decidable combines] :
    (if combines then { state with baseOfCombiningMarks := base, curr := .AL }
      else { state with baseOfCombiningMarks := base }) =
      { state with
        baseOfCombiningMarks := base
        curr := if combines then .AL else state.curr } := by
  split <;> rfl

/-- Behind marks the base stands for the character. -/
theorem joined_eq (holds : Holds state memory) (base curr : LineCharProperty) :
    (if state.prev1 = some .CM || state.prev1 = some .ZWJ then
      { state with baseOfCombiningMarks := base, curr, prev1 := some base }
      else { state with baseOfCombiningMarks := base, curr }) =
      { state with
        baseOfCombiningMarks := base
        curr
        prev1 := some (if memory.curr = .CM || memory.curr = .ZWJ then base else memory.curr) } := by
  have same : (state.prev1 = some .CM || state.prev1 = some .ZWJ) =
      (memory.curr = .CM || memory.curr = .ZWJ) := by
    simp only [holds.prev1, Option.some.injEq]
  rw [same]
  split
  · rfl
  · rw [← holds.prev1]

/-- What `breakByRules` makes of marks. -/
theorem judgeMarks_eq (holds : Holds state memory) {last first : UInt16}
    (before : text[state.index - 1]? = some last) (after : text[state.index]? = some first)
    (rule : state.spaceRule = none) :
    state.breakByRules text =
      (state.judged (memory.judgeMarks last first state.curr)).setBreak text
        (memory.judgeMarks last first state.curr).type := by
  unfold breakByRules
  rw [rule]
  dsimp only
  rw [based_eq holds]
  unfold Memory.judgeMarks
  dsimp only
  split
  · dsimp only [judged]
    rw [holds.prev1, holds.regionalIndicatorCount]
  · rw [resolved_eq]
    dsimp only
    rw [joined_eq holds]
    dsimp only [judged]
    rw [pairRule_units before after, holds.prev2, holds.regionalIndicatorCount]

theorem breakByRules_eq (holds : Holds state memory) {last first : UInt16}
    (before : text[state.index - 1]? = some last) (after : text[state.index]? = some first) :
    state.breakByRules text =
      let judgement := match memory.spaceRule state.curr with
        | some type => memory.keeping state.curr type
        | none => memory.judgeMarks last first state.curr
      (state.judged judgement).setBreak text judgement.type := by
  cases rule : memory.spaceRule state.curr with
  | some type =>
    dsimp only
    rw [judged_keeping holds, breakByRules, spaceRule_eq holds, rule]
    rfl
  | none => exact judgeMarks_eq holds before after ((spaceRule_eq holds).trans rule)

theorem breakAt_eq (holds : Holds state memory) {last first : UInt16}
    (before : text[state.index - 1]? = some last) (after : text[state.index]? = some first) :
    state.breakAt text =
      let judgement := memory.judge last first state.curr
      ((state.judged judgement).setBreak text judgement.type, false) := by
  have within : ¬text.length ≤ state.index :=
    not_le.mpr (List.getElem?_eq_some_iff.mp after).1
  unfold breakAt Memory.judge
  rw [holds.prev1]
  by_cases hard : isHardBreak (some memory.curr) = true
  · rw [if_pos hard, if_pos hard]
    dsimp only
    rw [judged_keeping holds]
    rfl
  rw [if_neg hard, if_neg hard]
  by_cases carriage : memory.curr = .CR
  · rw [if_pos (congrArg some carriage), if_pos carriage]
    dsimp only
    rw [judged_keeping holds]
    rfl
  rw [if_neg (fun same => carriage (Option.some.inj same)), if_neg carriage]
  by_cases newline : state.curr.isNewline = true
  · rw [if_pos newline]
    dsimp only
    rw [judged_keeping holds]
    exact if_pos newline
  rw [if_neg newline]
  refine (if_neg newline).trans ?_
  rw [if_neg within, breakByRules_eq holds before after]

end LineBreaker

/-! ## What is counted -/

/-- Characters of either class are counted alike: the classes differ only where neither is. -/
def CountAlike (prop other : LineCharProperty) : Prop :=
  prop = other ∨ prop.isTrailing = false ∧ other.isTrailing = false

theorem LineCharProperty.isNewline_of_isTrailing {prop : LineCharProperty}
    (trailing : prop.isTrailing = false) : prop.isNewline = false := by
  rw [LineCharProperty.isTrailing, Bool.or_eq_false_iff] at trailing
  exact trailing.2

namespace CountAlike

variable {prop other : LineCharProperty}

theorem isTrailing (alike : CountAlike prop other) : prop.isTrailing = other.isTrailing := by
  obtain rfl | ⟨trailing, also⟩ := alike
  · rfl
  · rw [trailing, also]

theorem isNewline (alike : CountAlike prop other) : prop.isNewline = other.isNewline := by
  obtain rfl | ⟨trailing, also⟩ := alike
  · rfl
  · rw [prop.isNewline_of_isTrailing trailing, other.isNewline_of_isTrailing also]

/-- A counted class is itself. -/
theorem eq_iff (alike : CountAlike prop other) {counted : LineCharProperty}
    (trailing : counted.isTrailing = true) : prop = counted ↔ other = counted := by
  obtain rfl | ⟨plain, also⟩ := alike
  · rfl
  · refine iff_of_false ?_ ?_
    · rintro rfl
      exact Bool.false_ne_true (plain.symm.trans trailing)
    · rintro rfl
      exact Bool.false_ne_true (also.symm.trans trailing)

end CountAlike

namespace Memory

variable {memory : Memory} {last first : UInt16} {next : LineCharProperty}

/-- The base of marks is not counted. -/
def Steady (memory : Memory) : Prop := memory.baseOfCombiningMarks.isTrailing = false

/-- What the judgement keeps of a class is counted like the class. -/
structure Counts (judgement : Judgement) (memory : Memory) (next : LineCharProperty) : Prop where
  steady : judgement.memory.Steady
  prev1 : CountAlike judgement.prev1 memory.curr
  curr : CountAlike judgement.curr next
  plain : next ≠ .CM → next ≠ .ZWJ → judgement.curr = next

theorem counts_keeping (steady : memory.Steady) (type : LineBreakType) :
    Counts (memory.keeping next type) memory next :=
  ⟨steady, .inl rfl, .inl rfl, fun _ _ => rfl⟩

/-- A combining mark. -/
theorem not_trailing_of_combines {prop : LineCharProperty}
    (combines : (prop = .CM || prop = .ZWJ) = true) : prop.isTrailing = false := by
  rw [Bool.or_eq_true, decide_eq_true_iff, decide_eq_true_iff] at combines
  obtain rfl | rfl := combines <;> rfl

theorem counts_judgeMarks (steady : memory.Steady) (plain : memory.curr.isTrailing = false) :
    Counts (memory.judgeMarks last first next) memory next := by
  have base : memory.base.isTrailing = false := by
    rw [Memory.base]
    split
    · exact plain
    · exact steady
  unfold judgeMarks
  dsimp only
  split
  · next combines =>
    have mark := (Bool.and_eq_true .. |>.mp combines).1
    refine ⟨base, .inl rfl, .inr ⟨base, not_trailing_of_combines mark⟩, fun mark' joiner => ?_⟩
    rw [decide_eq_false mark', decide_eq_false joiner] at mark
    cases mark
  · refine ⟨base, ?_, ?_, fun mark joiner => ?_⟩
    · dsimp only
      split
      · exact .inr ⟨base, plain⟩
      · exact .inl rfl
    · dsimp only
      split
      · next combines => exact .inr ⟨rfl, not_trailing_of_combines combines⟩
      · exact .inl rfl
    · dsimp only
      rw [decide_eq_false mark, decide_eq_false joiner]
      rfl

theorem counts_judge (last first : UInt16) (next : LineCharProperty) (steady : memory.Steady) :
    Counts (memory.judge last first next) memory next := by
  unfold judge
  split
  · exact counts_keeping steady _
  · next soft =>
    split
    · exact counts_keeping steady _
    · next other =>
      split
      · exact counts_keeping steady _
      · cases rule : memory.spaceRule next with
        | some type => exact counts_keeping steady type
        | none =>
          refine counts_judgeMarks steady ?_
          have space : memory.curr ≠ .SP := by
            intro space
            rw [spaceRule, space] at rule
            split at rule <;> contradiction
          rw [LineCharProperty.isTrailing, LineCharProperty.isNewline, decide_eq_false space,
            decide_eq_false other, Bool.eq_false_iff.mpr soft]
          rfl

end Memory

/-! ## The fragments are those of the verdicts -/

namespace LineBreaker

variable {text : DartString} {lineLookup : LineLookup} {state : LineBreaker} {memory : Memory}
  {position : Nat} {character : Character} {rest : List Character}

/-- The variables when a round begins are those that are remembered at a character. -/
structure Recalls (text : DartString) (state : LineBreaker) (memory : Memory) (position : Nat) :
    Prop where
  index : state.index = position + 1
  prev1 : state.prev1 = memory.prev1
  curr : state.curr = memory.curr
  baseOfCombiningMarks : state.baseOfCombiningMarks = memory.baseOfCombiningMarks
  regionalIndicatorCount : state.regionalIndicatorCount = memory.regionalIndicatorCount
  codePoint : state.codePoint = getCodePoint text position

/-- The variables when the next character has been read. -/
structure HasRead (lineLookup : LineLookup) (text : DartString) (state : LineBreaker)
    (memory : Memory) (position : Nat) (character : Character) (after : LineBreaker) : Prop where
  holds : Holds after memory
  index : after.index = position + character.units
  fragments : after.fragments = state.fragments
  fragmentStart : after.fragmentStart = state.fragmentStart
  codePoint : after.codePoint = getCodePoint text (position + character.units)
  curr : after.curr = lineLookup.property (getCodePoint text (position + character.units))
  newlines : after.trailingNewlines + memory.curr.isNewline.toNat =
    state.trailingNewlines + character.newlines
  spaces : after.trailingSpaces + memory.curr.isTrailing.toNat =
    state.trailingSpaces + character.spaces

theorem newlines_eq (character : Character) :
    character.newlines = character.property.isNewline.toNat * character.units := by
  rw [Character.newlines]
  cases character.property.isNewline with
  | true => exact (Nat.one_mul _).symm
  | false => exact (Nat.zero_mul _).symm

theorem spaces_eq (character : Character) :
    character.spaces = character.property.isTrailing.toNat * character.units := by
  rw [Character.spaces]
  cases character.property.isTrailing with
  | true => exact (Nat.one_mul _).symm
  | false => exact (Nat.zero_mul _).symm

theorem hasRead_read (recalls : Recalls text state memory position)
    (begun : Begun lineLookup text position character rest)
    (alike : CountAlike memory.curr character.property) :
    HasRead lineLookup text state memory position character (state.read text lineLookup) := by
  have units := begun.units
  rw [← recalls.codePoint] at units
  have newlines := newlines_eq character
  have spaces := spaces_eq character
  rw [← alike.isNewline] at newlines
  rw [← alike.isTrailing] at spaces
  unfold read
  dsimp only
  by_cases pair : isSurrogatePair state.codePoint = true
  on_goal 1 =>
    rw [if_pos pair] at units ⊢
    rw [setBreak_prohibited, @count_of_prev1 _ memory.curr (congrArg some recalls.curr)]
    have index : state.index + 1 = position + character.units := by rw [recalls.index, units]
  on_goal 2 =>
    rw [if_neg pair] at units ⊢
    have index : state.index = position + character.units := by rw [recalls.index, units]
  all_goals
    rw [units] at newlines spaces
    refine ⟨⟨recalls.prev1, congrArg some recalls.curr, recalls.baseOfCombiningMarks, ?_⟩, index,
      rfl, rfl, congrArg (getCodePoint text) index,
      congrArg (lineLookup.property <| getCodePoint text ·) index, ?_, ?_⟩
    · dsimp only
      rw [recalls.curr, recalls.regionalIndicatorCount, Memory.indicators]
      simp only [Option.some.injEq]
    · dsimp only
      omega
    · dsimp only
      omega

/-- The fragments when the text ends where these variables are. -/
def finished (text : DartString) (state : LineBreaker) : List LineBreakFragment :=
  (state.setBreak text .endOfText).fragments

/-- Behind a break at the end of the text nothing is counted. -/
theorem run_over (rounds : Nat) (past : text.length < state.index) :
    state.run text lineLookup rounds = state := by
  cases rounds with
  | zero => rfl
  | succ rounds =>
    rw [run]
    exact if_pos past

variable {rounds : Nat} {after : LineBreaker}

theorem run_succ (within : state.index ≤ text.length) :
    state.run text lineLookup (rounds + 1) =
      let (next, leaves) := (state.read text lineLookup).breakAt text
      if leaves then next
      else { next with index := next.index + 1 }.run text lineLookup rounds := by
  rw [run]
  exact if_neg (not_lt.mpr within)

theorem finished_of_none (before : state.prev1 = none) :
    state.finished text = state.fragments ++
      [⟨state.fragmentStart, text.length, .endOfText, state.trailingNewlines,
        state.trailingSpaces⟩] := by
  have counted : state.count = state := by
    unfold count
    rw [before]
    rfl
  unfold finished setBreak
  dsimp only
  rw [if_neg LineBreakType.noConfusion, if_pos rfl, counted]

theorem finished_of_some {prop : LineCharProperty} (before : state.prev1 = some prop) :
    state.finished text = state.fragments ++
      [⟨state.fragmentStart, text.length, .endOfText,
        state.trailingNewlines + prop.isNewline.toNat,
        state.trailingSpaces + prop.isTrailing.toNat⟩] := by
  unfold finished setBreak
  dsimp only
  rw [if_neg LineBreakType.noConfusion, if_pos rfl, count_of_prev1 before]

/-- A break inside the text. -/
theorem setBreak_breaks {prop : LineCharProperty} {type : LineBreakType}
    (before : state.prev1 = some prop) (breaks : type ≠ .prohibited) (inner : type ≠ .endOfText) :
    state.setBreak text type =
      { state with
        fragments := state.fragments ++ [⟨state.fragmentStart, state.index, type,
          state.trailingNewlines + prop.isNewline.toNat,
          state.trailingSpaces + prop.isTrailing.toNat⟩]
        fragmentStart := state.index
        trailingNewlines := 0
        trailingSpaces := 0
        prev1 := none
        prev2 := none } := by
  unfold setBreak
  dsimp only
  rw [if_neg breaks, if_neg inner, count_of_prev1 before]

/-- The last character has been read. -/
theorem finished_last (reads : HasRead lineLookup text state memory position character after)
    (ended : position + character.units = text.length) :
    let (next, leaves) := after.breakAt text
    finished text (if leaves then next
      else { next with index := next.index + 1 }.run text lineLookup rounds) =
      state.fragments ++ assemble state.fragmentStart position state.trailingNewlines
        state.trailingSpaces [(character, if memory.curr.isNewline then .mandatory
          else .prohibited)] := by
  have curr : after.curr = .AL := by
    rw [reads.curr, ended]
    exact property_end lineLookup
  have index : after.index = text.length := reads.index.trans ended
  by_cases hard : memory.curr.isNewline = true
  · have breaks : after.breakAt text = (after.setBreak text .mandatory, false) := by
      rw [breakAt, reads.holds.prev1]
      rw [LineCharProperty.isNewline, Bool.or_eq_true, decide_eq_true_eq] at hard
      rcases hard with hardBreak | carriage
      · exact if_pos hardBreak
      · split
        · rfl
        · rw [if_pos (congrArg some carriage), curr]
          rfl
    rw [breaks]
    dsimp only
    rw [if_neg Bool.false_ne_true, setBreak_breaks reads.holds.prev1 LineBreakType.noConfusion
      LineBreakType.noConfusion, run_over rounds (by dsimp only; omega), finished_of_none rfl]
    dsimp only
    rw [if_pos hard, reads.newlines, reads.spaces, reads.fragments, reads.fragmentStart, index,
      assemble, if_neg LineBreakType.noConfusion, ended, List.append_assoc]
    rfl
  have soft := Bool.eq_false_iff.mpr hard
  rw [LineCharProperty.isNewline, Bool.or_eq_true, decide_eq_true_eq, not_or] at hard
  have leaves : after.breakAt text = (after, true) := by
    rw [breakAt, reads.holds.prev1, if_neg hard.1,
      if_neg (fun same => hard.2 (Option.some.inj same)), curr, index]
    exact if_pos le_rfl
  rw [leaves]
  dsimp only
  rw [if_pos rfl, finished_of_some reads.holds.prev1, reads.newlines, reads.spaces,
    reads.fragments, reads.fragmentStart, soft, if_neg Bool.false_ne_true, assemble,
    if_pos rfl, ended]
  rfl

/-- No verdict is the end of the text. -/
theorem type_judge_ne {last first : UInt16} {next : LineCharProperty} :
    (memory.judge last first next).type ≠ .endOfText := by
  unfold Memory.judge
  split
  · exact LineBreakType.noConfusion
  · split
    · exact ite_ne LineBreakType.noConfusion LineBreakType.noConfusion
    · split
      · exact LineBreakType.noConfusion
      · split
        · next type rule =>
          rintro same
          change type = .endOfText at same
          rw [same, Memory.spaceRule] at rule
          split_ifs at rule <;> contradiction
        · unfold Memory.judgeMarks
          dsimp only
          split
          · exact LineBreakType.noConfusion
          · change pairRule _ _ _ _ _ _ ≠ _
            exact pairRule_ne _ _ _ _ _

/-- The verdict has been passed on a character, and the next one is the current one. -/
structure HasJudged (text : DartString) (state : LineBreaker) (position : Nat)
    (character : Character) (judgement : Judgement) (after : LineBreaker) : Prop where
  recalls : Recalls text after judgement.memory (position + character.units)
  assembles : ∀ rest : Verdicts,
    after.fragments ++ assemble after.fragmentStart (position + character.units)
      after.trailingNewlines after.trailingSpaces rest =
    state.fragments ++ assemble state.fragmentStart position state.trailingNewlines
      state.trailingSpaces ((character, judgement.type) :: rest)

theorem hasJudged_setBreak {judgement : Judgement}
    (reads : HasRead lineLookup text state memory position character after)
    (alike : CountAlike judgement.prev1 memory.curr) (inner : judgement.type ≠ .endOfText) :
    HasJudged text state position character judgement
      (let next := (after.judged judgement).setBreak text judgement.type
      { next with index := next.index + 1 }) := by
  have before : (after.judged judgement).prev1 = some judgement.prev1 := rfl
  by_cases prohibited : judgement.type = .prohibited
  · rw [prohibited, setBreak_prohibited, count_of_prev1 before, alike.isNewline, alike.isTrailing]
    refine ⟨⟨congrArg (· + 1) reads.index, ?_, rfl, rfl, rfl, reads.codePoint⟩, fun rest => ?_⟩
    · change some judgement.prev1 = if judgement.type = .prohibited then _ else _
      rw [if_pos prohibited]
    · rw [assemble, if_pos prohibited]
      dsimp only [judged]
      rw [reads.newlines, reads.spaces, reads.fragments, reads.fragmentStart]
  · rw [setBreak_breaks before prohibited inner, alike.isNewline, alike.isTrailing]
    refine ⟨⟨congrArg (· + 1) reads.index, ?_, rfl, rfl, rfl, reads.codePoint⟩, fun rest => ?_⟩
    · change none = if judgement.type = .prohibited then _ else _
      rw [if_neg prohibited]
    · rw [assemble, if_neg prohibited]
      dsimp only [judged]
      rw [reads.newlines, reads.spaces, reads.fragments, reads.fragmentStart, reads.index,
        List.append_assoc]
      rfl

/-- The loop cuts the characters after the verdicts to break. -/
theorem finished_run (recalls : Recalls text state memory position)
    (chars : characters lineLookup (text.drop position) = character :: rest)
    (steady : memory.Steady) (alike : CountAlike memory.curr character.property)
    (enough : text.length < state.index + rounds) :
    (state.run text lineLookup rounds).finished text =
      state.fragments ++ assemble state.fragmentStart position state.trailingNewlines
        state.trailingSpaces ((character :: rest).zip (verdicts memory (character :: rest))) := by
  induction rest generalizing state memory position character rounds with
  | nil =>
    have begun := begun_of_characters chars
    have reads := hasRead_read recalls begun alike
    have ended := begun.ended
    obtain ⟨fewer, rfl⟩ : ∃ fewer, rounds = fewer + 1 := by
      refine ⟨rounds - 1, ?_⟩
      have index := recalls.index
      have units := begun.within
      have some_unit := begun.units_pos
      omega
    rw [run_succ (by have := recalls.index; have := begun.units_pos; omega)]
    exact finished_last reads ended
  | cons next rest ih =>
    have begun := begun_of_characters chars
    have reads := hasRead_read recalls begun alike
    have following := begun_of_characters begun.rest
    have units := begun.units_pos
    have index := recalls.index
    have within := following.within
    have later := following.units_pos
    obtain ⟨fewer, rfl⟩ : ∃ fewer, rounds = fewer + 1 := ⟨rounds - 1, by omega⟩
    have curr : (state.read text lineLookup).curr = next.property :=
      reads.curr.trans following.property.symm
    have before : text[(state.read text lineLookup).index - 1]? = some character.last := by
      rw [reads.index]
      exact begun.last
    have after : text[(state.read text lineLookup).index]? = some next.first := by
      rw [reads.index]
      exact following.first
    have step := breakAt_eq reads.holds before after
    rw [curr] at step
    rw [run_succ (by omega), step]
    dsimp only
    rw [if_neg Bool.false_ne_true]
    have counts := Memory.counts_judge character.last next.first next.property steady
    have judges := hasJudged_setBreak reads counts.prev1 type_judge_ne
    refine Eq.trans (ih judges.recalls begun.rest counts.steady counts.curr ?_)
      (judges.assembles _)
    rw [judges.recalls.index]
    omega

end LineBreaker

/-- The text is cut after the characters with a verdict to break. -/
theorem computeLineBreakFragments_eq (lineLookup : LineLookup) (text : DartString) :
    computeLineBreakFragments lineLookup text = assemble 0 0 0 0 (judged lineLookup text) := by
  change ((LineBreaker.begin text lineLookup).run text lineLookup text.length).finished text = _
  have chars : characters lineLookup (text.drop 0) = characters lineLookup text := rfl
  cases read : characters lineLookup text with
  | nil =>
    rw [characters_eq_nil read]
    rfl
  | cons character rest =>
    rw [read] at chars
    have begun := begun_of_characters chars
    have curr : (Memory.first lineLookup text).curr = character.property := begun.property.symm
    have recalls : LineBreaker.Recalls text (.begin text lineLookup) (.first lineLookup text) 0 :=
      ⟨rfl, rfl, rfl, rfl, rfl, rfl⟩
    rw [LineBreaker.finished_run recalls chars rfl (.inl curr)
      (by rw [recalls.index]; omega), judged, read]
    rfl

end FlutterEngine.WebText
