import FlutterEngine.Ohos.TextUtils

/-!
# Moving back over whole code points

`getOffsetBefore` reads the text backward by code points and counts code units. It counts
a variation selector inside an emoji sequence as long as the emoji in front of it, and
reads on in front of a modifier or a joiner that begins the text.
-/

namespace FlutterEngine.Ohos.FlutterTextUtils

open FlutterEngine.Std.Utf16

@[simp] theorem charCount_toNat (char : Char) : charCount char.toNat = width char := by
  unfold charCount width
  split <;> split <;> omega

/-! ## Reading backward -/

/-- These code points, the nearest first, are what lies before some offset of the text. -/
def Precedes (text : List UInt16) (points : List Char) : Prop :=
  ∃ after, text = encode points.reverse ++ after

section Precedes

variable {text : List UInt16} {point : Char} {points : List Char}

theorem codePointBefore_pair (before after : List UInt16) {high low : UInt16}
    (isHigh : isHighSurrogate high = true) (isLow : isLowSurrogate low = true) :
    codePointBefore (before ++ ([high, low] ++ after)) (before.length + 2 : Nat) =
      .ok (combine high low) := by
  have last : ((before.length + 2 : Nat) - 1 : Int).toNat = before.length + 1 := by omega
  have previous : ((before.length + 2 : Nat) - 2 : Int).toNat = before.length := by omega
  unfold codePointBefore
  rw [if_neg (by simp; omega), last, previous]
  simp [isHigh, isLow]
  omega

theorem codePointBefore_single (before after : List UInt16) {unit : UInt16}
    (notLow : isLowSurrogate unit = false) :
    codePointBefore (before ++ ([unit] ++ after)) (before.length + 1 : Nat) = .ok unit.toNat := by
  have last : ((before.length + 1 : Nat) - 1 : Int).toNat = before.length := by omega
  unfold codePointBefore
  rw [if_neg (by simp), last]
  simp [notLow]

theorem Precedes.tail (precedes : Precedes text (point :: points)) : Precedes text points := by
  obtain ⟨after, same⟩ := precedes
  rw [List.reverse_cons, encode_append, List.append_assoc] at same
  exact ⟨_, same⟩

/-- The code point before an offset. -/
theorem Precedes.read (precedes : Precedes text (point :: points)) :
    codePointBefore text (units (point :: points) : Nat) = .ok point.toNat := by
  obtain ⟨after, same⟩ := precedes
  rw [List.reverse_cons, encode_append, List.append_assoc, encode_cons, encode_nil,
    List.append_nil] at same
  rw [units_cons, same]
  rcases width_eq point with ⟨width, basic⟩ | ⟨width, supplementary⟩
  · obtain ⟨unit, encoded, value, -, notLow⟩ := encodeChar_basic basic
    have read := codePointBefore_single (encode points.reverse) after notLow
    rw [length_encode, units_reverse] at read
    rw [encoded, ← value, ← read, width, Nat.add_comm]
  · obtain ⟨high, low, encoded, value, isHigh, isLow⟩ := encodeChar_supplementary supplementary
    have read := codePointBefore_pair (encode points.reverse) after isHigh isLow
    rw [length_encode, units_reverse] at read
    rw [encoded, ← value, ← read, width, Nat.add_comm]

/-- Nothing lies before the start of the text. -/
theorem codePointBefore_start (text : List UInt16) :
    codePointBefore text (units [] : Nat) = .error .rangeError := rfl

theorem units_pos_iff : (units points : Int) > 0 ↔ points ≠ [] := by
  rw [← not_iff_not, not_not, ← units_eq_zero]
  omega

theorem units_eq_zero_iff : (units points : Int) = 0 ↔ points = [] := by
  rw [← units_eq_zero]
  omega

theorem units_sub_width : (units (point :: points) : Int) - width point = units points := by
  rw [units_cons]
  omega

theorem Scan.back_eq {scan : Scan} (precedes : Precedes text (point :: points))
    (place : scan.offset = units (point :: points)) :
    scan.back text = .ok { scan with codePoint := point.toNat, offset := units points } := by
  rw [Scan.back, place, precedes.read, TextError.ok_bind, charCount_toNat, units_sub_width]
  rfl

theorem Scan.back_start {scan : Scan} (place : scan.offset = units []) :
    scan.back text = .error .rangeError := by
  rw [Scan.back, place, codePointBefore_start]
  rfl

end Precedes

/-! ## Sequences -/

/-- Code points that belong to a sequence, the nearest first, and by how many units they
are counted too long. -/
structure Sequence where
  points : List Char
  surplus : Int
deriving DecidableEq, Repr

namespace Sequence

def none : Sequence := ⟨[], 0⟩

/-- More of the sequence, nearer than the rest of it. -/
def add (points : List Char) (surplus : Int) (sequence : Sequence) : Sequence :=
  ⟨points ++ sequence.points, surplus + sequence.surplus⟩

/-- The code units that are counted for it. -/
def counted (sequence : Sequence) : Int := units sequence.points + sequence.surplus

theorem counted_add (points : List Char) (surplus : Int) (sequence : Sequence) :
    (sequence.add points surplus).counted = units points + surplus + sequence.counted := by
  simp only [counted, add, units_append]
  omega

end Sequence

/-- What a modifier takes with it; the end of the text is out of range. -/
def baseBefore (unicode : Unicode) : List Char → Option Sequence
  | [] => Option.none
  | [base] => some (if unicode.isEmojiModifierBase base.toNat then ⟨[base], 0⟩ else .none)
  | selector :: base :: _ =>
    if unicode.isVariationSelector selector.toNat then
      some (if unicode.isEmoji base.toNat && unicode.isEmojiModifierBase base.toNat then
        ⟨[selector, base], width base - width selector⟩ else .none)
    else some (if unicode.isEmojiModifierBase selector.toNat then ⟨[selector], 0⟩ else .none)

/-- What an emoji takes with it: its base, or one emoji after the other that is joined. -/
def sequenceBefore (unicode : Unicode) (emoji : Char) (points : List Char) : Option Sequence :=
  if unicode.isEmojiModifier emoji.toNat then baseBefore unicode points
  else
    match points with
    | [] => some .none
    | joiner :: rest =>
      if joiner.toNat ≠ ZERO_WIDTH_JOINER then some .none
      else
        match rest with
        | [] => Option.none
        | [first] => some ⟨[joiner, first], 0⟩
        | first :: second :: rest =>
          if unicode.isVariationSelector first.toNat then
            if rest = [] then some ⟨[joiner, first, second], width second - width first⟩
            else if unicode.isEmoji second.toNat then
              (sequenceBefore unicode second rest).map
                (.add [joiner, first, second] (width second - width first))
            else some .none
          else if unicode.isEmoji first.toNat then
            (sequenceBefore unicode first (second :: rest)).map (.add [joiner, first] 0)
          else some .none
termination_by points.length

/-- A count that follows a sequence, or fails with it. -/
def Counts (result : Except TextError Nat) (counted : Nat) : Option Sequence → Prop
  | Option.none => result = .error .rangeError
  | some sequence => ∃ more : Nat, result = .ok (counted + more) ∧ (more : Int) = sequence.counted

variable {result : Except TextError Nat} {counted : Nat} {sequence? : Option Sequence}

theorem Counts.intro (sequence : Sequence) (more : Nat) (found : sequence? = some sequence)
    (done : result = .ok (counted + more))
    (total : (more : Int) = sequence.counted) : Counts result counted sequence? := by
  rw [found]
  exact ⟨more, done, total⟩

theorem Counts.fails (notFound : sequence? = Option.none)
    (thrown : result = .error .rangeError) : Counts result counted sequence? := by
  rw [notFound]
  exact thrown

/-- What is counted before a sequence may belong to it. -/
theorem Counts.add (more : Nat) {points : List Char} {surplus : Int}
    (counts : Counts result (counted + more) sequence?)
    (same : (more : Int) = units points + surplus) :
    Counts result counted (sequence?.map (.add points surplus)) := by
  cases sequence? with
  | none => exact counts
  | some sequence =>
    obtain ⟨rest, done, total⟩ := counts
    refine ⟨more + rest, ?_, ?_⟩
    · rw [done, Nat.add_assoc]
    · rw [Sequence.counted_add]
      omega

/-- The offset moves back by what is counted for a sequence, or fails with it. -/
def TakesBack (result : Except TextError Int) (offset : Int) : Option Sequence → Prop
  | Option.none => result = .error .rangeError
  | some sequence => 0 < sequence.counted ∧ result = .ok (offset - sequence.counted)

/-- What follows the code points counted so far is taken back with them. -/
theorem Counts.takes {points : List Char} (counts : Counts result counted sequence?)
    (same : counted = units points) (positive : 0 < counted) (offset : Int) :
    TakesBack (result >>= fun count => pure (offset - count)) offset
      (sequence?.map (.add points 0)) := by
  cases sequence? with
  | none =>
    have thrown : result = .error .rangeError := counts
    rw [thrown]
    rfl
  | some sequence =>
    obtain ⟨more, done, total⟩ := counts
    have whole := sequence.counted_add points 0
    rw [done, TextError.ok_bind]
    refine ⟨by omega, ?_⟩
    rw [TextError.pure_eq]
    congr 1
    omega

section Emoji

variable {unicode : Unicode} {text : List UInt16} {points : List Char} {emoji : Char}

/-- A modifier ends the sequence with its base. -/
theorem emojisBefore_modifier (precedes : Precedes text points) (fuel count : Nat)
    (isModifier : unicode.isEmojiModifier emoji.toNat = true) :
    Counts (emojisBefore unicode text (fuel + 1)
      { codePoint := emoji.toNat, offset := units points, count }) count
      (baseBefore unicode points) := by
  have iteration : emojiBefore unicode text
      { codePoint := emoji.toNat, offset := units points, count } =
      modifierBefore unicode text { codePoint := emoji.toNat, offset := units points, count } := by
    simp [emojiBefore, isModifier]
  rw [emojisBefore, iteration, modifierBefore]
  match points with
  | [] =>
    rw [Scan.back_start rfl]
    exact .fails rfl rfl
  | [base] =>
    rw [Scan.back_eq precedes rfl]
    cases isBase : unicode.isEmojiModifierBase base.toNat with
    | true =>
      apply Counts.intro ⟨[base], 0⟩ (width base)
      · simp [baseBefore, isBase]
      · simp [isBase, Scan.counted]
      · simp [Sequence.counted]
    | false =>
      apply Counts.intro .none 0
      · simp [baseBefore, isBase]
      · simp [isBase]
      · simp [Sequence.counted, Sequence.none]
  | selector :: base :: rest =>
    have more : (units (base :: rest) : Int) > 0 := units_pos_iff.mpr (List.cons_ne_nil _ _)
    rw [Scan.back_eq precedes rfl]
    simp only [TextError.ok_bind, more, decide_true, Bool.true_and]
    cases isSelector : unicode.isVariationSelector selector.toNat with
    | false =>
      cases isBase : unicode.isEmojiModifierBase selector.toNat with
      | true =>
        apply Counts.intro ⟨[selector], 0⟩ (width selector)
        · simp [baseBefore, isSelector, isBase]
        · simp [Scan.counted]
        · simp [Sequence.counted]
      | false =>
        apply Counts.intro .none 0
        · simp [baseBefore, isSelector, isBase]
        · simp
        · simp [Sequence.counted, Sequence.none]
    | true =>
      rw [if_pos rfl, Scan.back_eq precedes.tail rfl]
      simp only [TextError.ok_bind]
      cases isEmoji : unicode.isEmoji base.toNat with
      | false =>
        apply Counts.intro .none 0
        · simp [baseBefore, isSelector, isEmoji]
        · simp
        · simp [Sequence.counted, Sequence.none]
      | true =>
        cases isBase : unicode.isEmojiModifierBase base.toNat with
        | false =>
          apply Counts.intro .none 0
          · simp [baseBefore, isSelector, isBase]
          · simp [isBase, Scan.seenSelector]
          · simp [Sequence.counted, Sequence.none]
        | true =>
          apply Counts.intro ⟨[selector, base], width base - width selector⟩
            (width base + width base)
          · simp [baseBefore, isSelector, isEmoji, isBase]
          · simp [isBase, Scan.seenSelector]
          · simp [Sequence.counted]
            omega

variable (text) in
/-- The loop goes on from an emoji that is no modifier. -/
theorem emojisBefore_succ (fuel codePoint count : Nat) (offset : Int)
    (notModifier : unicode.isEmojiModifier codePoint = false) :
    emojisBefore unicode text (fuel + 1) { codePoint, offset, count } = (do
      let scan ← joinerBefore unicode text { codePoint, offset, count }
      if scan.isZwj && scan.offset == 0 then return scan.joined.count
      else if scan.isZwj && unicode.isEmoji scan.codePoint then emojisBefore unicode text fuel scan
      else return scan.count) := by
  rw [emojisBefore, emojiBefore]
  simp only [Bool.false_eq_true, if_false, notModifier]
  cases joinerBefore unicode text { codePoint, offset, count } with
  | error thrown => rfl
  | ok scan =>
    simp only [TextError.ok_bind, TextError.pure_eq]
    by_cases place : scan.offset = 0 <;> cases joined : scan.isZwj <;> simp [place, joined]

variable {joiner first : Char} {fuel : Nat}

theorem width_joiner (isJoiner : joiner.toNat = ZERO_WIDTH_JOINER) :
    width joiner = 1 := by
  rw [width, isJoiner]
  rfl

/-- Joining one more emoji. -/
theorem joinerBefore_joiner {rest : List Char} (count : Nat)
    (precedes : Precedes text (joiner :: first :: rest))
    (isJoiner : joiner.toNat = ZERO_WIDTH_JOINER) :
    joinerBefore unicode text
        { codePoint := emoji.toNat, offset := units (joiner :: first :: rest), count } =
      match rest with
      | [] => .ok { codePoint := first.toNat, offset := units [], count, isZwj := true }
      | second :: rest =>
        if unicode.isVariationSelector first.toNat then
          .ok {
            codePoint := second.toNat
            offset := units rest
            count
            isZwj := true
            lastSeenVariantSelectorCharCount := width second }
        else .ok { codePoint := first.toNat, offset := units (second :: rest), count, isZwj := true }
    := by
  rw [joinerBefore, if_pos (units_pos_iff.mpr (List.cons_ne_nil _ _)), Scan.back_eq precedes rfl]
  simp only [TextError.ok_bind, isJoiner, beq_self_eq_true, if_true]
  rw [Scan.back_eq precedes.tail rfl]
  simp only [TextError.ok_bind]
  match rest with
  | [] => rfl
  | second :: rest =>
    have more : (units (second :: rest) : Int) > 0 := units_pos_iff.mpr (List.cons_ne_nil _ _)
    simp only [more, decide_true, Bool.true_and]
    cases isSelector : unicode.isVariationSelector first.toNat with
    | false => rfl
    | true =>
      rw [if_pos rfl, Scan.back_eq precedes.tail.tail rfl]
      simp [Scan.seenSelector]

/-- An emoji that is joined goes on with the loop. -/
theorem emojisBefore_joined (fuel count : Nat) (offset : Int) (selectorCharCount : Nat) :
    emojisBefore unicode text fuel {
        codePoint := emoji.toNat
        offset
        count
        isZwj := true
        lastSeenVariantSelectorCharCount := selectorCharCount } =
      emojisBefore unicode text fuel {
        codePoint := emoji.toNat
        offset
        count := count + (width emoji + selectorCharCount + 1) } := by
  cases fuel with
  | zero => rfl
  | succ fuel => simp [emojisBefore, emojiBefore, Scan.joined, Nat.add_assoc]

/-- One joiner, given what the loop does with the rest. -/
theorem emojisBefore_joiner
    (others : ∀ (points : List Char) (emoji : Char), Precedes text points → points.length < fuel →
      ∀ count, Counts (emojisBefore unicode text fuel
        { codePoint := emoji.toNat, offset := units points, count }) count
        (sequenceBefore unicode emoji points)) {rest : List Char} (precedes : Precedes text (joiner :: first :: rest))
    (deep : rest.length < fuel) (count : Nat) (isJoiner : joiner.toNat = ZERO_WIDTH_JOINER)
    (notModifier : unicode.isEmojiModifier emoji.toNat = false) :
    Counts (emojisBefore unicode text (fuel + 1)
      { codePoint := emoji.toNat, offset := units (joiner :: first :: rest), count }) count
      (sequenceBefore unicode emoji (joiner :: first :: rest)) := by
  have joinerWidth := width_joiner isJoiner
  have sequence := sequenceBefore.eq_def unicode emoji (joiner :: first :: rest)
  rw [if_neg (by simp [notModifier])] at sequence
  simp only [isJoiner, ne_eq, not_true_eq_false, if_false] at sequence
  rw [emojisBefore_succ text fuel _ count _ notModifier, joinerBefore_joiner count precedes isJoiner,
    sequence]
  match rest with
  | [] =>
    apply Counts.intro ⟨[joiner, first], 0⟩ (width first + 1) rfl
    · simp [Scan.joined, Nat.add_assoc]
    · simp [Sequence.counted, joinerWidth]
      omega
  | second :: rest =>
    simp only
    cases isSelector : unicode.isVariationSelector first.toNat with
    | true =>
      simp only [if_true, TextError.ok_bind]
      by_cases last : rest = []
      · apply Counts.intro ⟨[joiner, first, second], width second - width first⟩
          (width second + width second + 1) (by simp [last])
        · simp [last, Scan.joined, Nat.add_assoc]
        · simp [Sequence.counted, joinerWidth]
          omega
      · have place : ¬(units rest : Int) = 0 := mt units_eq_zero_iff.mp last
        simp only [beq_eq_false_iff_ne.mpr place, Bool.and_false, Bool.false_eq_true, if_false,
          Bool.true_and, last]
        cases isEmoji : unicode.isEmoji second.toNat with
        | true =>
          rw [if_pos rfl, if_pos rfl, emojisBefore_joined]
          apply Counts.add (width second + width second + 1)
          · exact others rest second precedes.tail.tail.tail (Nat.lt_of_succ_lt deep) _
          · simp [joinerWidth]
            omega
        | false =>
          apply Counts.intro .none 0 rfl rfl
          simp [Sequence.counted, Sequence.none]
    | false =>
      have place : ¬(units (second :: rest) : Int) = 0 :=
        mt units_eq_zero_iff.mp (List.cons_ne_nil _ _)
      simp only [Bool.false_eq_true, if_false, TextError.ok_bind, beq_eq_false_iff_ne.mpr place,
        Bool.and_false, Bool.true_and]
      cases isEmoji : unicode.isEmoji first.toNat with
      | true =>
        rw [if_pos rfl, if_pos rfl, emojisBefore_joined]
        apply Counts.add (width first + 1)
        · exact others (second :: rest) first precedes.tail.tail deep _
        · simp [joinerWidth]
          omega
      | false =>
        apply Counts.intro .none 0 rfl rfl
        simp [Sequence.counted, Sequence.none]

/-- The emoji loop counts what belongs to the sequence, with its surplus. -/
theorem emojisBefore_spec (precedes : Precedes text points)
    (deep : points.length < fuel) (count : Nat) :
    Counts (emojisBefore unicode text fuel
      { codePoint := emoji.toNat, offset := units points, count }) count
      (sequenceBefore unicode emoji points) := by
  induction fuel generalizing points emoji count with
  | zero => omega
  | succ fuel ih =>
    cases isModifier : unicode.isEmojiModifier emoji.toNat with
    | true =>
      rw [sequenceBefore.eq_def, if_pos isModifier]
      exact emojisBefore_modifier precedes fuel count isModifier
    | false =>
      have sequence := sequenceBefore.eq_def unicode emoji points
      rw [if_neg (by simp [isModifier])] at sequence
      match points with
      | [] =>
        apply Counts.intro .none 0 sequence
        · rw [emojisBefore_succ text fuel _ count _ isModifier]
          rfl
        · simp [Sequence.counted, Sequence.none]
      | joiner :: rest =>
        have joins := emojisBefore_succ text fuel emoji.toNat count
          (units (joiner :: rest)) isModifier
        rw [joinerBefore, if_pos (units_pos_iff.mpr (List.cons_ne_nil _ _)),
          Scan.back_eq precedes rfl, TextError.ok_bind] at joins
        by_cases isJoiner : joiner.toNat = ZERO_WIDTH_JOINER
        · match rest with
          | [] =>
            apply Counts.fails
            · rw [sequence]
              simp [isJoiner]
            · rw [joins]
              simp only [isJoiner, beq_self_eq_true, if_true]
              rw [Scan.back_start rfl]
              rfl
          | first :: rest =>
            have deeper : rest.length < fuel := by
              rw [List.length_cons, List.length_cons] at deep
              omega
            exact emojisBefore_joiner (fun _ _ => ih) precedes deeper count isJoiner isModifier
        · apply Counts.intro .none 0
          · rw [sequence]
            simp [isJoiner]
          · rw [joins]
            simp [isJoiner]
          · simp [Sequence.counted, Sequence.none]

/-! ## In front of the sequence -/

/-- The tags in front of a cancel tag, the code point in front of them, and the rest. -/
def skipTags : Char → List Char → List Char × Char × List Char
  | point, [] => ([], point, [])
  | point, next :: rest =>
    if isTagSpecChar point.toNat then
      (point :: (skipTags next rest).1, (skipTags next rest).2)
    else ([], point, next :: rest)

theorem tagsBefore_spec (point : Char) (precedes : Precedes text points)
    (deep : points.length < fuel) (count : Nat) :
    tagsBefore text fuel { codePoint := point.toNat, offset := units points, count } = .ok {
        codePoint := (skipTags point points).2.1.toNat
        offset := units (skipTags point points).2.2
        count := count + units (skipTags point points).1 } ∧
      Precedes text (skipTags point points).2.2 := by
  induction fuel generalizing points point count with
  | zero => omega
  | succ fuel ih =>
    match points with
    | [] => exact ⟨rfl, precedes⟩
    | next :: rest =>
      have more : (units (next :: rest) : Int) > 0 := units_pos_iff.mpr (List.cons_ne_nil _ _)
      rw [tagsBefore, skipTags]
      cases isTag : isTagSpecChar point.toNat with
      | false => simpa using precedes
      | true =>
        have others := ih next precedes.tail (Nat.lt_of_succ_lt_succ deep)
          (count + width point)
        simp only [more, decide_true, Bool.and_self, if_true]
        rw [Scan.back_eq precedes rfl, TextError.ok_bind]
        simpa [Scan.counted, Nat.add_assoc] using others

/-- The sequence from a code point on that may be a selector. -/
def selectedBefore (unicode : Unicode) (point : Char) (points : List Char) : Option Sequence :=
  if unicode.isVariationSelector point.toNat then
    match points with
    | [] => Option.none
    | base :: rest =>
      if unicode.isEmoji base.toNat then (sequenceBefore unicode base rest).map (.add [base] 0)
      else some .none
  else if unicode.isEmoji point.toNat then sequenceBefore unicode point points
  else some .none

theorem Precedes.length_lt (precedes : Precedes text points) : points.length < text.length + 1 := by
  obtain ⟨after, same⟩ := precedes
  have widths : points.length ≤ units points := by
    clear same
    induction points with
    | nil => exact Nat.le_refl 0
    | cons point rest ih =>
      have positive := width_pos point
      rw [units_cons, List.length_cons]
      omega
  rw [same, List.length_append, length_encode, units_reverse]
  omega

variable (unicode) in
theorem variationBefore_spec (point : Char) (precedes : Precedes text points) (count : Nat) :
    Counts (variationBefore unicode text { codePoint := point.toNat, offset := units points, count })
      count (selectedBefore unicode point points) := by
  unfold variationBefore selectedBefore
  cases isSelector : unicode.isVariationSelector point.toNat with
  | true =>
    simp only [if_true]
    match points with
    | [] =>
      rw [Scan.back_start rfl]
      rfl
    | base :: rest =>
      rw [Scan.back_eq precedes rfl, TextError.ok_bind]
      simp only
      cases isEmoji : unicode.isEmoji base.toNat with
      | false => exact ⟨0, by simp, rfl⟩
      | true =>
        simp only [Bool.not_true, Bool.false_eq_true, if_false, if_true, Scan.counted,
          charCount_toNat]
        apply Counts.add (width base)
        · exact emojisBefore_spec precedes.tail precedes.tail.length_lt _
        · simp
  | false =>
    simp only [Bool.false_eq_true, if_false]
    cases isEmoji : unicode.isEmoji point.toNat with
    | true =>
      rw [if_pos rfl, if_pos rfl]
      exact emojisBefore_spec precedes precedes.length_lt count
    | false => exact ⟨0, rfl, rfl⟩

/-- The sequence of the last code point, when more lies before it. -/
def characterBefore (unicode : Unicode) (point next : Char) (rest : List Char) : Option Sequence :=
  if point.toNat = CANCEL_TAG then
    let (tags, base, others) := skipTags next rest
    if unicode.isEmoji base.toNat then
      (selectedBefore unicode base others).map (.add (point :: tags ++ [base]) 0)
    else some ⟨[point], 0⟩
  else (selectedBefore unicode point (next :: rest)).map (.add [point] 0)

/-! ## The offset before -/

/-- The offset moves back over whole code points. -/
def MovesBack (points : List Char) (result : Except TextError Int) : Prop :=
  ∃ k, 0 < k ∧ result = .ok (units points - units (points.take k))

/-- Back over whole code points is to a boundary of the text, and the other way round. -/
theorem movesBack_iff {after : List Char} {result : Except TextError Int} (some : points ≠ []) :
    MovesBack points result ↔ ∃ r, result = .ok r ∧ 0 ≤ r ∧ r < units points ∧
      IsBoundary (points.reverse ++ after) r := by
  constructor
  · rintro ⟨k, positive, rfl⟩
    have split : units points = units (points.take k) + units (points.drop k) := by
      rw [← units_append, List.take_append_drop]
    have moved : 0 < units (points.take k) := by
      rw [Nat.pos_iff_ne_zero, Ne, units_eq_zero, List.take_eq_nil_iff]
      exact fun empty => empty.elim positive.ne' some
    refine ⟨_, rfl, by omega, by omega, (points.drop k).reverse, (points.take k).reverse ++ after,
      ?_, ?_⟩
    · rw [← List.append_assoc, ← List.reverse_append, List.take_append_drop]
    · rw [units_reverse]
      omega
  · rintro ⟨r, rfl, -, moved, before, rest, same, rfl⟩
    -- The boundary is that of a shorter prefix.
    have isPrefix : before <+: points.reverse := by
      rcases List.prefix_or_prefix_of_prefix (List.prefix_append before rest)
        (same ▸ List.prefix_append points.reverse after) with shorter | ⟨more, longer⟩
      · exact shorter
      · rw [← longer, units_append, units_reverse] at moved
        omega
    obtain ⟨passed, split⟩ := isPrefix
    have reversed : points = passed.reverse ++ before.reverse := by
      rw [← List.reverse_append, split, List.reverse_reverse]
    refine ⟨passed.length, ?_, ?_⟩
    · rw [reversed, units_append, units_reverse, units_reverse] at moved
      apply Nat.pos_of_ne_zero
      intro empty
      rw [List.eq_nil_of_length_eq_zero empty, units_nil] at moved
      omega
    · rw [reversed, ← List.length_reverse, List.take_left', units_append, units_reverse,
        units_reverse]
      · congr 1
        omega
      · rfl

section Last

variable {point next : Char} {rest : List Char} (precedes : Precedes text (point :: next :: rest))

include precedes

/-- The first steps of `getOffsetBefore` with more than one code point. -/
theorem getOffsetBefore_cons :
    getOffsetBefore unicode text (units (point :: next :: rest)) = (do
      let offset : Int := units (point :: next :: rest)
      if point.toNat == LINE_FEED then
        if next.toNat == CARRIAGE_RETURN then return offset - (width point + 1 : Nat)
        else return offset - width point
      else if unicode.isRegionalIndicatorSymbol point.toNat then
        let (codePoint, regionalIndicatorSymbolCount) ← regionalIndicatorsBefore unicode text
          (text.length + 1) next.toNat (units rest) 1
        let regionalIndicatorSymbolCount :=
          if unicode.isRegionalIndicatorSymbol codePoint then regionalIndicatorSymbolCount + 1
          else regionalIndicatorSymbolCount
        if regionalIndicatorSymbolCount % 2 == 0 then return offset - (width point + 2 : Nat)
        else return offset - width point
      else if point.toNat == COMBINING_ENCLOSING_KEYCAP then
        if decide ((units rest : Int) > 0) && unicode.isVariationSelector next.toNat then
          let tmpCodePoint ← codePointBefore text (units rest)
          if isKeycapBase tmpCodePoint then
            return offset - (width point + (width next + charCount tmpCodePoint) : Nat)
          else return offset - width point
        else if isKeycapBase next.toNat then return offset - (width point + width next : Nat)
        else return offset - width point
      else if point.toNat == CANCEL_TAG then
        let scan ← tagsBefore text (text.length + 1)
          { codePoint := next.toNat, offset := units rest, count := width point }
        if !unicode.isEmoji scan.codePoint then return offset - 2
        let count ← variationBefore unicode text scan.counted
        return offset - count
      else
        let count ← variationBefore unicode text
          { codePoint := point.toNat, offset := units (next :: rest), count := width point }
        return offset - count) := by
  have enough : ¬(units (point :: next :: rest) : Int) ≤ 1 := by
    have first := width_pos point
    have second := width_pos next
    rw [units_cons, units_cons]
    omega
  have place : ¬(units (next :: rest) : Int) = 0 := mt units_eq_zero_iff.mp (List.cons_ne_nil _ _)
  unfold getOffsetBefore
  rw [if_neg enough, precedes.read, TextError.ok_bind]
  simp only [charCount_toNat, units_sub_width, beq_eq_false_iff_ne.mpr place, Bool.false_eq_true,
    if_false, precedes.tail.read, TextError.ok_bind]
  rw [Scan.back_eq precedes.tail rfl]
  rfl

/-- A line feed goes with a carriage return. -/
theorem movesBack_lineFeed (isLineFeed : point.toNat = LINE_FEED) :
    MovesBack (point :: next :: rest)
      (getOffsetBefore unicode text (units (point :: next :: rest))) := by
  rw [getOffsetBefore_cons precedes, isLineFeed]
  simp only [beq_self_eq_true, if_true]
  by_cases isReturn : next.toNat = CARRIAGE_RETURN
  · have nextWidth : width next = 1 := by
      rw [width, isReturn]
      rfl
    exact ⟨2, by decide, by simp [isReturn, nextWidth]⟩
  · exact ⟨1, by decide, by simp [isReturn]⟩

omit precedes in
variable (unicode) in
/-- Reading regional indicator symbols ends. -/
theorem regionalIndicatorsBefore_ok (codePoint : Nat) (precedes : Precedes text points) {fuel : Nat}
    (deep : points.length < fuel) (count : Nat) :
    ∃ result, regionalIndicatorsBefore unicode text fuel codePoint (units points) count =
      .ok result := by
  induction fuel generalizing points codePoint count with
  | zero => omega
  | succ fuel ih =>
    rw [regionalIndicatorsBefore]
    match points with
    | [] => exact ⟨_, rfl⟩
    | point :: rest =>
      cases unicode.isRegionalIndicatorSymbol codePoint with
      | false => exact ⟨(codePoint, count), by simp⟩
      | true =>
        have more : (units (point :: rest) : Int) > 0 :=
          units_pos_iff.mpr (List.cons_ne_nil _ _)
        obtain ⟨result, done⟩ := ih point.toNat precedes.tail
          (Nat.lt_of_succ_lt_succ deep) (count + 1)
        refine ⟨result, ?_⟩
        rw [if_pos (by simp only [more, decide_true, Bool.and_self]), precedes.read, TextError.ok_bind,
          charCount_toNat, units_sub_width]
        exact done

/-- A regional indicator symbol goes with one before it or alone. -/
theorem movesBack_regional
    (supplementary : ∀ c, unicode.isRegionalIndicatorSymbol c = true → 0xFFFF < c)
    (notLineFeed : point.toNat ≠ LINE_FEED)
    (isRegional : unicode.isRegionalIndicatorSymbol point.toNat = true) :
    MovesBack (point :: next :: rest)
      (getOffsetBefore unicode text (units (point :: next :: rest))) := by
  rw [getOffsetBefore_cons precedes]
  simp only [beq_eq_false_iff_ne.mpr notLineFeed, Bool.false_eq_true, if_false, isRegional, if_true]
  have deep : rest.length < text.length + 1 := precedes.tail.tail.length_lt
  cases nextRegional : unicode.isRegionalIndicatorSymbol next.toNat with
  | false =>
    refine ⟨1, by decide, ?_⟩
    have stops : regionalIndicatorsBefore unicode text (text.length + 1) next.toNat (units rest) 1 =
        .ok (next.toNat, 1) := by
      rw [regionalIndicatorsBefore, nextRegional]
      simp
    simp [stops, nextRegional]
  | true =>
    have nextWidth : width next = 2 := by
      have large := supplementary _ nextRegional
      have widths := width_eq next
      omega
    obtain ⟨⟨codePoint, count⟩, done⟩ := regionalIndicatorsBefore_ok unicode next.toNat
      precedes.tail.tail deep 1
    rw [done]
    simp only [TextError.ok_bind]
    generalize (if unicode.isRegionalIndicatorSymbol codePoint then count + 1 else count) = total
    by_cases even : total % 2 = 0
    · exact ⟨2, by decide, by simp [even, nextWidth]⟩
    · exact ⟨1, by decide, by simp [even]⟩

/-- A keycap goes with its base, and a selector between them. -/
theorem movesBack_keycap (notRegional : unicode.isRegionalIndicatorSymbol point.toNat = false)
    (isKeycap : point.toNat = COMBINING_ENCLOSING_KEYCAP) :
    MovesBack (point :: next :: rest)
      (getOffsetBefore unicode text (units (point :: next :: rest))) := by
  have notLineFeed : (point.toNat == LINE_FEED) = false := by
    rw [isKeycap]
    rfl
  rw [getOffsetBefore_cons precedes]
  simp only [notLineFeed, notRegional, beq_iff_eq.mpr isKeycap, Bool.false_eq_true, if_false,
    if_true]
  by_cases selects : (decide ((units rest : Int) > 0) &&
    unicode.isVariationSelector next.toNat) = true
  · rw [if_pos selects]
    match rest with
    | [] => simp at selects
    | base :: rest =>
      rw [precedes.tail.tail.read, TextError.ok_bind]
      cases isBase : isKeycapBase base.toNat with
      | true => exact ⟨3, by decide, by simp⟩
      | false => exact ⟨1, by decide, by simp⟩
  · rw [if_neg selects]
    cases isBase : isKeycapBase next.toNat with
    | true => exact ⟨2, by decide, by simp⟩
    | false => exact ⟨1, by decide, by simp⟩

/-- Any other character: what is counted for its sequence is taken back. -/
theorem getOffsetBefore_character (notLineFeed : point.toNat ≠ LINE_FEED)
    (notRegional : unicode.isRegionalIndicatorSymbol point.toNat = false)
    (notKeycap : point.toNat ≠ COMBINING_ENCLOSING_KEYCAP) :
    TakesBack (getOffsetBefore unicode text (units (point :: next :: rest)))
      (units (point :: next :: rest)) (characterBefore unicode point next rest) := by
  rw [getOffsetBefore_cons precedes]
  simp only [beq_eq_false_iff_ne.mpr notLineFeed, notRegional, beq_eq_false_iff_ne.mpr notKeycap,
    Bool.false_eq_true, if_false]
  by_cases isTag : point.toNat = CANCEL_TAG
  · have pointWidth : width point = 2 := by
      rw [width, isTag]
      rfl
    obtain ⟨tags, others⟩ := tagsBefore_spec next precedes.tail.tail
      precedes.tail.tail.length_lt (width point)
    rw [characterBefore, if_pos isTag, if_pos (beq_iff_eq.mpr isTag), tags, TextError.ok_bind]
    simp only
    cases isEmoji : unicode.isEmoji (skipTags next rest).2.1.toNat with
    | false => exact ⟨by simp [Sequence.counted, pointWidth], by simp [Sequence.counted, pointWidth]⟩
    | true =>
      have counts := variationBefore_spec unicode (skipTags next rest).2.1 others
        (width point + units (skipTags next rest).1 + width (skipTags next rest).2.1)
      simp only [Bool.not_true, Bool.false_eq_true, if_false, if_true, Scan.counted,
        charCount_toNat]
      apply counts.takes
      · simp [Nat.add_assoc]
      · omega
  · rw [characterBefore, if_neg isTag, if_neg (by rwa [beq_iff_eq])]
    apply (variationBefore_spec unicode point precedes.tail (width point)).takes
    · simp
    · exact width_pos point

end Last

/-- Whether what is counted from the last code point on takes whole code points: a line
feed, a flag and a keycap always do, and so does the only code point. -/
def CountsWhole (unicode : Unicode) : List Char → Prop
  | point :: next :: rest =>
    point.toNat = LINE_FEED ∨ unicode.isRegionalIndicatorSymbol point.toNat = true ∨
      point.toNat = COMBINING_ENCLOSING_KEYCAP ∨
      ∃ sequence ∈ characterBefore unicode point next rest,
        ∃ k, (units ((point :: next :: rest).take k) : Int) = sequence.counted
  | _ => True

theorem movesBack_iff_countsWhole (precedes : Precedes text points) (some : points ≠ [])
    (supplementary : ∀ c, unicode.isRegionalIndicatorSymbol c = true → 0xFFFF < c) :
    MovesBack points (getOffsetBefore unicode text (units points)) ↔ CountsWhole unicode points := by
  match points with
  | [point] =>
    refine iff_of_true ⟨1, by decide, ?_⟩ trivial
    rw [List.take_of_length_le (Nat.le_refl 1), sub_self]
    have read := precedes.read
    have place : (units [point] : Int) - charCount point.toNat = 0 := by simp
    unfold getOffsetBefore
    split
    · rfl
    · rw [read, TextError.ok_bind]
      simp only [place, beq_self_eq_true, if_true]
      rfl
  | point :: next :: rest =>
    by_cases isLineFeed : point.toNat = LINE_FEED
    · exact iff_of_true (movesBack_lineFeed precedes isLineFeed) (.inl isLineFeed)
    cases isRegional : unicode.isRegionalIndicatorSymbol point.toNat with
    | true =>
      exact iff_of_true (movesBack_regional precedes supplementary isLineFeed isRegional)
        (.inr (.inl isRegional))
    | false =>
      by_cases isKeycap : point.toNat = COMBINING_ENCLOSING_KEYCAP
      · exact iff_of_true (movesBack_keycap precedes isRegional isKeycap)
          (.inr (.inr (.inl isKeycap)))
      have character := getOffsetBefore_character precedes isLineFeed isRegional isKeycap
      simp only [CountsWhole, isLineFeed, isRegional, isKeycap, Bool.false_eq_true, false_or]
      cases found : characterBefore unicode point next rest with
      | none =>
        rw [found] at character
        have thrown : getOffsetBefore unicode text (units (point :: next :: rest)) =
          .error .rangeError := character
        rw [MovesBack, thrown]
        simp
      | some sequence =>
        rw [found] at character
        obtain ⟨positive, moved⟩ := character
        rw [MovesBack, moved]
        constructor
        · rintro ⟨k, -, same⟩
          exact ⟨sequence, rfl, k, by rw [Except.ok.injEq] at same; omega⟩
        · rintro ⟨other, same, k, whole⟩
          cases same
          refine ⟨k, ?_, by rw [whole]⟩
          apply Nat.pos_of_ne_zero
          intro empty
          rw [empty, List.take_zero, units_nil] at whole
          omega

end Emoji

/-- The offset before a boundary is a boundary before it exactly when whole code points are
counted. -/
theorem getOffsetBefore_isBoundary_iff (unicode : Unicode)
    (supplementary : ∀ c, unicode.isRegionalIndicatorSymbol c = true → 0xFFFF < c)
    (before after : List Char) (nonempty : before ≠ []) :
    (∃ r, getOffsetBefore unicode (encode (before ++ after)) (units before) = .ok r ∧
        0 ≤ r ∧ r < units before ∧ IsBoundary (before ++ after) r) ↔
      CountsWhole unicode before.reverse := by
  have precedes : Precedes (encode (before ++ after)) before.reverse :=
    ⟨encode after, by rw [List.reverse_reverse, encode_append]⟩
  have reversed : before.reverse ≠ [] := mt List.reverse_eq_nil_iff.mp nonempty
  rw [← movesBack_iff_countsWhole precedes reversed supplementary, units_reverse,
    movesBack_iff reversed, units_reverse, List.reverse_reverse]

/-- What ICU says of the code points of the sequences below. -/
def sampleUnicode : Unicode where
  isEmoji code := code == 0x2764 || code == 0x1F3F3 || code == 0x1F308 || code == 0x1F525
  isEmojiModifier _ := false
  isEmojiModifierBase _ := false
  isVariationSelector code := code == 0xFE0F
  isRegionalIndicatorSymbol _ := false

/-- A heart on fire: heart, selector, joiner, fire. -/
def heartOnFire : List Char := [.ofNat 0x2764, .ofNat 0xFE0F, .ofNat 0x200D, .ofNat 0x1F525]

theorem getOffsetBefore_isBoundary_heartOnFire :
    ∃ r, getOffsetBefore sampleUnicode (encode (heartOnFire ++ ['.'])) (units heartOnFire) = .ok r ∧
      0 ≤ r ∧ r < units heartOnFire ∧ IsBoundary (heartOnFire ++ ['.']) r := by
  apply (getOffsetBefore_isBoundary_iff sampleUnicode (fun _ regional => by cases regional)
    heartOnFire ['.'] (by decide)).mpr
  have joined : sequenceBefore sampleUnicode (.ofNat 0x1F525)
      [.ofNat 0x200D, .ofNat 0xFE0F, .ofNat 0x2764] =
        some ⟨[.ofNat 0x200D, .ofNat 0xFE0F, .ofNat 0x2764], 0⟩ := by
    rw [sequenceBefore.eq_def]
    rfl
  refine .inr (.inr (.inr ⟨⟨heartOnFire.reverse, 0⟩, ?_, 4, by decide⟩))
  change (sequenceBefore sampleUnicode (.ofNat 0x1F525)
    [.ofNat 0x200D, .ofNat 0xFE0F, .ofNat 0x2764]).map (Sequence.add [.ofNat 0x1F525] 0) = _
  rw [joined]
  rfl

/-- A rainbow flag: white flag, selector, joiner, rainbow. -/
def rainbowFlag : List Char := [.ofNat 0x1F3F3, .ofNat 0xFE0F, .ofNat 0x200D, .ofNat 0x1F308]

/-- The selector is counted as long as the white flag, so the offset before is -1. -/
theorem getOffsetBefore_rainbowFlag :
    ¬∃ r, getOffsetBefore sampleUnicode (encode (rainbowFlag ++ [])) (units rainbowFlag) = .ok r ∧
      0 ≤ r ∧ r < units rainbowFlag ∧ IsBoundary (rainbowFlag ++ []) r := by
  have negative : getOffsetBefore sampleUnicode (encode (rainbowFlag ++ [])) (units rainbowFlag) =
      .ok (-1) := by decide
  rintro ⟨r, found, least, -⟩
  rw [negative] at found
  cases found
  omega

end FlutterEngine.Ohos.FlutterTextUtils
