import FlutterEngine.Ohos.OffsetBefore

/-!
# Moving forward over whole code points

`getOffsetAfter` reads the text forward by code points and counts code units. It counts a
digit, `#` or `*` twice, a selector behind a joiner as long as the emoji behind it, and
reads on behind a joiner that ends the text.
-/

namespace FlutterEngine.Ohos.FlutterTextUtils

open FlutterEngine.Std.Utf16

/-! ## Reading forward -/

section Reading

variable {before points : List Char} {point : Char}

theorem codePointAt_pair (before after : List UInt16) {high low : UInt16}
    (isHigh : isHighSurrogate high = true) (isLow : isLowSurrogate low = true) :
    codePointAt (before ++ ([high, low] ++ after)) before.length = .ok (combine high low) := by
  have next : ((before.length : Int) + 1).toNat = before.length + 1 := by omega
  unfold codePointAt
  rw [if_neg (by simp; omega), if_neg (by omega), next]
  simp [isHigh, isLow]

theorem codePointAt_single (before after : List UInt16) {unit : UInt16}
    (notHigh : isHighSurrogate unit = false) :
    codePointAt (before ++ ([unit] ++ after)) before.length = .ok unit.toNat := by
  unfold codePointAt
  rw [if_neg (by simp), if_neg (by omega)]
  simp [notHigh]

/-- The code point at an offset. -/
theorem codePointAt_units (before points : List Char) (point : Char) :
    codePointAt (encode (before ++ point :: points)) (units before) = .ok point.toNat := by
  rw [encode_append, encode_cons]
  rcases width_eq point with ⟨-, basic⟩ | ⟨-, supplementary⟩
  · obtain ⟨unit, encoded, value, notHigh, -⟩ := encodeChar_basic basic
    have read := codePointAt_single (encode before) (encode points) notHigh
    rw [length_encode] at read
    rw [encoded, ← value, read]
  · obtain ⟨high, low, encoded, value, isHigh, isLow⟩ := encodeChar_supplementary supplementary
    have read := codePointAt_pair (encode before) (encode points) isHigh isLow
    rw [length_encode] at read
    rw [encoded, ← value, read]

/-- Nothing lies at the end of the text. -/
theorem codePointAt_end (before : List Char) :
    codePointAt (encode (before ++ [])) (units before) = .error .rangeError := by
  rw [List.append_nil, codePointAt, if_pos (by simp)]

/-- The code point an offset lies behind. -/
theorem codePointBefore_units (before points : List Char) (point : Char) :
    codePointBefore (encode (before ++ point :: points)) (units (before ++ [point]) : Nat) =
      .ok point.toNat := by
  have precedes : Precedes (encode (before ++ point :: points)) (point :: before.reverse) :=
    ⟨encode points, by simp⟩
  rw [← precedes.read, ← units_reverse, List.reverse_append]
  rfl

theorem Scan.forth_eq {scan : Scan} (place : scan.offset = units before) :
    scan.forth (encode (before ++ point :: points)) = .ok { scan with
      codePoint := point.toNat
      offset := units (before ++ [point]) } := by
  rw [Scan.forth, place, codePointAt_units, TextError.ok_bind, charCount_toNat, units_append,
    units_cons, units_nil]
  rfl

theorem Scan.forth_end {scan : Scan} (place : scan.offset = units before) :
    scan.forth (encode (before ++ [])) = .error .rangeError := by
  rw [Scan.forth, place, codePointAt_end]
  rfl

theorem units_lt_length_iff :
    (units before : Int) < (encode (before ++ points)).length ↔ points ≠ [] := by
  rw [length_encode, units_append, ← not_iff_not, not_not, ← units_eq_zero]
  omega

end Reading

/-! ## Sequences -/

/-- Whether a keycap that is a selector takes the next code point and a digit behind it. -/
def takesDigit (unicode : Unicode) : List Char → Bool
  | next :: digit :: _ =>
    unicode.isVariationSelector COMBINING_ENCLOSING_KEYCAP && width next == 1 &&
      isKeycapBase digit.toNat
  | _ => false

/-- What an emoji takes with it: a keycap, a modifier or a selector, or one emoji after the
other that is joined. -/
def sequenceAfter (unicode : Unicode) (emoji : Char) (points : List Char) : Option Sequence :=
  if unicode.isEmojiModifier emoji.toNat then some .none
  else
    match points with
    | [] => some .none
    | first :: rest =>
      if first.toNat = COMBINING_ENCLOSING_KEYCAP then
        some (if takesDigit unicode rest then ⟨first :: rest.take 1, 0⟩ else .none)
      else if unicode.isEmojiModifier first.toNat || unicode.isVariationSelector first.toNat then
        some ⟨[first], 0⟩
      else if first.toNat ≠ ZERO_WIDTH_JOINER then some .none
      else
        match rest with
        | [] => Option.none
        | [second] => some ⟨[first, second], 0⟩
        | second :: third :: rest =>
          if unicode.isVariationSelector second.toNat then
            if rest = [] then some ⟨[first, second, third], width third - width second⟩
            else if unicode.isEmoji third.toNat then
              (sequenceAfter unicode third rest).map
                (.add [first, second, third] (width third - width second))
            else some .none
          else if unicode.isEmoji second.toNat then
            (sequenceAfter unicode second (third :: rest)).map (.add [first, second] 0)
          else some .none
termination_by points.length

section Emoji

variable {unicode : Unicode} {before points : List Char} {emoji : Char}

theorem width_base {point : Char} (isBase : isKeycapBase point.toNat = true) : width point = 1 := by
  simp only [isKeycapBase, Bool.or_eq_true, Bool.and_eq_true, decide_eq_true_eq,
    beq_iff_eq] at isBase
  rw [width, if_pos (by omega)]

/-- The code point in front of the digit is a single unit. -/
theorem units_take_one (takes : takesDigit unicode points = true) : units (points.take 1) = 1 := by
  match points with
  | [] | [_] => cases takes
  | next :: digit :: rest =>
    simp only [takesDigit, Bool.and_eq_true, beq_iff_eq] at takes
    simp [takes.1.2]

theorem units_take_two (takes : takesDigit unicode points = true) : units (points.take 2) = 2 := by
  match points with
  | [] | [_] => cases takes
  | next :: digit :: rest =>
    simp only [takesDigit, Bool.and_eq_true, beq_iff_eq] at takes
    have digitWidth := width_base takes.2
    simp [takes.1.2, digitWidth]

variable {keycap : Char} {fuel : Nat} {result : Except TextError Int}

theorem width_keycap (isKeycap : keycap.toNat = COMBINING_ENCLOSING_KEYCAP) :
    width keycap = 1 := by
  rw [width, isKeycap]
  rfl

/-- In the middle of a surrogate pair no digit is read. -/
theorem codePointAt_middle (before points : List Char) {point : Char} (wide : width point = 2) :
    ∃ code, codePointAt (encode (before ++ point :: points)) (units before + 1 : Nat) = .ok code ∧
      isKeycapBase code = false := by
  have supplementary : 0x10000 ≤ point.toNat := by
    have widths := width_eq point
    omega
  obtain ⟨high, low, encoded, -, -, isLow⟩ := encodeChar_supplementary supplementary
  simp only [isLowSurrogate, Bool.and_eq_true, decide_eq_true_eq] at isLow
  have notHigh : isHighSurrogate low = false := by
    simp only [isHighSurrogate, Bool.and_eq_false_iff, decide_eq_false_iff_not]
    omega
  refine ⟨low.toNat, ?_, ?_⟩
  · have read := codePointAt_single (encode before ++ [high]) (encode points) notHigh
    rw [List.length_append, length_encode] at read
    rw [encode_append, encode_cons, encoded, ← read]
    simp
  · simp only [isKeycapBase, Bool.or_eq_false_iff, Bool.and_eq_false_iff, decide_eq_false_iff_not,
      beq_eq_false_iff_ne]
    omega

/-- Behind a keycap the scan reads it again and goes one unit too far. -/
theorem keycapAfter_eq (isKeycap : keycap.toNat = COMBINING_ENCLOSING_KEYCAP)
    {scan : Scan} (place : scan.offset = units (before ++ [keycap])) :
    keycapAfter unicode (encode (before ++ keycap :: points)) scan =
      .ok (scan.count + if takesDigit unicode points then 2 else 0) := by
  have keycapWidth := width_keycap isKeycap
  have notBase : isKeycapBase COMBINING_ENCLOSING_KEYCAP = false := by decide
  have one : charCount COMBINING_ENCLOSING_KEYCAP = 1 := by decide
  have behind : (units (before ++ [keycap]) : Int) + (1 : Nat) =
      (units (before ++ [keycap]) + 1 : Nat) := by omega
  have text : encode (before ++ keycap :: points) = encode (before ++ [keycap] ++ points) := by
    rw [List.append_assoc]
    rfl
  rw [keycapAfter, place, codePointBefore_units, TextError.ok_bind, isKeycap]
  simp only [one, notBase, behind, Bool.false_eq_true, if_false]
  cases selects : unicode.isVariationSelector COMBINING_ENCLOSING_KEYCAP with
  | false =>
    have nothing : takesDigit unicode points = false := by
      unfold takesDigit
      split <;> simp [selects]
    simp [nothing]
  | true =>
    simp only [Bool.and_true, decide_eq_true_eq]
    match points with
    | [] => simp [takesDigit, keycapWidth]
    | next :: rest =>
      rcases width_eq next with ⟨nextWidth, -⟩ | ⟨nextWidth, -⟩
      · have place : (units (before ++ [keycap]) + 1 : Nat) =
            units (before ++ [keycap] ++ [next]) := by simp [nextWidth, Nat.add_assoc]
        match rest with
        | [] =>
          have outside : ¬(units (before ++ [keycap] ++ [next]) : Int) <
              (encode (before ++ [keycap] ++ [next])).length := by simp
          rw [place, text, if_neg outside]
          rfl
        | digit :: rest =>
          have inside : (units (before ++ [keycap] ++ [next]) : Int) <
              (encode (before ++ [keycap] ++ [next] ++ digit :: rest)).length :=
            units_lt_length_iff.mpr (List.cons_ne_nil _ _)
          have split : before ++ [keycap] ++ next :: digit :: rest =
              before ++ [keycap] ++ [next] ++ digit :: rest := by simp
          rw [place, text, split, if_pos inside, codePointAt_units, TextError.ok_bind]
          cases isDigit : isKeycapBase digit.toNat with
          | true =>
            have digitWidth : charCount digit.toNat = 1 := by
              simp only [isKeycapBase, Bool.or_eq_true, Bool.and_eq_true,
                decide_eq_true_eq, beq_iff_eq] at isDigit
              rw [charCount, if_pos (by omega)]
            simp [takesDigit, selects, nextWidth, isDigit, digitWidth]
          | false => simp [takesDigit, isDigit]
      · have nothing : takesDigit unicode (next :: rest) = false := by
          cases rest <;> simp [takesDigit, nextWidth]
        obtain ⟨code, read, notDigit⟩ :=
          codePointAt_middle (before ++ [keycap]) rest nextWidth
        have inside : ((units (before ++ [keycap]) + 1 : Nat) : Int) <
            (encode (before ++ [keycap] ++ next :: rest)).length := by
          rw [length_encode, units_append (before ++ [keycap]), units_cons, nextWidth]
          omega
        rw [text, if_pos inside, read, TextError.ok_bind, notDigit, nothing]
        rfl

variable (before points) in
/-- The loop goes on from an emoji that is no modifier. -/
theorem emojisAfter_succ (fuel count : Nat) (first : Char)
    (notModifier : unicode.isEmojiModifier emoji.toNat = false) :
    emojisAfter unicode (encode (before ++ first :: points)) (fuel + 1)
        { codePoint := emoji.toNat, offset := units before, count } =
      if first.toNat = COMBINING_ENCLOSING_KEYCAP then
        .ok (count + if takesDigit unicode points then 2 else 0)
      else if unicode.isEmojiModifier first.toNat || unicode.isVariationSelector first.toNat then
        .ok (count + width first)
      else if first.toNat ≠ ZERO_WIDTH_JOINER then .ok count
      else do
        let scan ← joinerAfter unicode (encode (before ++ first :: points))
          { codePoint := first.toNat, offset := units (before ++ [first]), count }
        if scan.isZwj && scan.offset ≥ (encode (before ++ first :: points)).length then
          return scan.joined.count
        else if scan.isZwj && unicode.isEmoji scan.codePoint then
          emojisAfter unicode (encode (before ++ first :: points)) fuel scan
        else return scan.count := by
  have inside : (units before : Int) < (encode (before ++ first :: points)).length :=
    units_lt_length_iff.mpr (List.cons_ne_nil _ _)
  rw [emojisAfter, emojiAfter]
  simp only [Bool.false_eq_true, if_false, notModifier, inside, if_true]
  rw [Scan.forth_eq rfl, TextError.ok_bind]
  by_cases isKeycap : first.toNat = COMBINING_ENCLOSING_KEYCAP
  · simp only [beq_iff_eq.mpr isKeycap, if_true]
    rw [keycapAfter_eq isKeycap rfl, if_pos isKeycap]
    rfl
  · rw [if_neg isKeycap]
    simp only [beq_eq_false_iff_ne.mpr isKeycap, Bool.false_eq_true, if_false]
    cases isModifier : unicode.isEmojiModifier first.toNat with
    | true => simp [Scan.counted]
    | false =>
      cases isSelector : unicode.isVariationSelector first.toNat with
      | true => simp [Scan.counted]
      | false =>
        simp only [Bool.false_eq_true, if_false, Bool.or_self]
        generalize encode (before ++ first :: points) = text
        by_cases isJoiner : first.toNat = ZERO_WIDTH_JOINER
        · rw [if_pos (beq_iff_eq.mpr isJoiner), if_neg (not_not.mpr isJoiner)]
          cases joinerAfter unicode text
            { codePoint := first.toNat, offset := units (before ++ [first]), count } with
          | error thrown => rfl
          | ok scan =>
            simp only [TextError.ok_bind, TextError.pure_eq, endOfText]
            by_cases ended : scan.offset ≥ text.length <;>
              cases joined : scan.isZwj <;> simp [ended, joined]
        · rw [if_neg (by rwa [beq_iff_eq]), if_pos isJoiner]
          generalize (units (before ++ [first]) : Int) = offset
          simp only [TextError.ok_bind, TextError.pure_eq, endOfText]
          by_cases ended : offset ≥ text.length <;> simp [ended]

/-- Joining one more emoji. -/
theorem joinerAfter_eq (joiner first : Char) (rest : List Char) (count : Nat) :
    joinerAfter unicode (encode (before ++ joiner :: first :: rest))
        { codePoint := joiner.toNat, offset := units (before ++ [joiner]), count } =
      match rest with
      | [] => .ok {
          codePoint := first.toNat
          offset := units (before ++ [joiner, first])
          count
          isZwj := true }
      | second :: _ =>
        if unicode.isVariationSelector first.toNat then
          .ok {
            codePoint := second.toNat
            offset := units (before ++ [joiner, first, second])
            count
            isZwj := true
            lastSeenVariantSelectorCharCount := width second }
        else .ok {
          codePoint := first.toNat
          offset := units (before ++ [joiner, first])
          count
          isZwj := true } := by
  have split : before ++ joiner :: first :: rest = before ++ [joiner] ++ first :: rest := by simp
  have twice : before ++ [joiner] ++ [first] = before ++ [joiner, first] := by simp
  rw [joinerAfter, split, Scan.forth_eq rfl, TextError.ok_bind, twice]
  match rest with
  | [] => simp
  | second :: rest =>
    have inside : (units (before ++ [joiner, first]) : Int) <
        (encode (before ++ [joiner, first] ++ second :: rest)).length :=
      units_lt_length_iff.mpr (List.cons_ne_nil _ _)
    have splits : before ++ [joiner] ++ first :: second :: rest =
        before ++ [joiner, first] ++ second :: rest := by simp
    have thrice : before ++ [joiner, first] ++ [second] = before ++ [joiner, first, second] := by
      simp
    simp only [splits, inside, decide_true, Bool.true_and]
    cases isSelector : unicode.isVariationSelector first.toNat with
    | false => rfl
    | true =>
      rw [if_pos rfl, Scan.forth_eq rfl, thrice, TextError.ok_bind]
      simp [Scan.seenSelector]

/-- An emoji that is joined goes on with the loop. -/
theorem emojisAfter_joined (text : List UInt16) (fuel count : Nat) (offset : Int)
    (selectorCharCount : Nat) :
    emojisAfter unicode text fuel {
        codePoint := emoji.toNat
        offset
        count
        isZwj := true
        lastSeenVariantSelectorCharCount := selectorCharCount } =
      emojisAfter unicode text fuel {
        codePoint := emoji.toNat
        offset
        count := count + (width emoji + selectorCharCount + 1) } := by
  cases fuel with
  | zero => rfl
  | succ fuel => simp [emojisAfter, emojiAfter, Scan.joined, Nat.add_assoc]

/-- One joiner, given what the loop does with the rest. -/
theorem emojisAfter_joiner
    (others : ∀ (before points : List Char) (emoji : Char), points.length < fuel →
      ∀ count, Counts (emojisAfter unicode (encode (before ++ points)) fuel
        { codePoint := emoji.toNat, offset := units before, count }) count
        (sequenceAfter unicode emoji points))
    {joiner : Char} {rest : List Char} (deep : rest.length < fuel + 1) (count : Nat)
    (isJoiner : joiner.toNat = ZERO_WIDTH_JOINER)
    (notModifier : unicode.isEmojiModifier emoji.toNat = false)
    (notExtending : (unicode.isEmojiModifier joiner.toNat ||
      unicode.isVariationSelector joiner.toNat) = false) :
    Counts (emojisAfter unicode (encode (before ++ joiner :: rest)) (fuel + 1)
      { codePoint := emoji.toNat, offset := units before, count }) count
      (sequenceAfter unicode emoji (joiner :: rest)) := by
  have notKeycap : joiner.toNat ≠ COMBINING_ENCLOSING_KEYCAP := by
    rw [isJoiner]
    decide
  have joinerWidth := width_joiner isJoiner
  have sequence := sequenceAfter.eq_def unicode emoji (joiner :: rest)
  have unmodified : ¬unicode.isEmojiModifier emoji.toNat = true := by simp [notModifier]
  rw [if_neg unmodified] at sequence
  simp only [if_neg notKeycap, notExtending, Bool.false_eq_true, if_false,
    if_neg (not_not.mpr isJoiner)] at sequence
  rw [emojisAfter_succ before rest fuel count joiner notModifier, if_neg notKeycap, notExtending,
    if_neg Bool.false_ne_true, if_neg (not_not.mpr isJoiner), sequence]
  match rest with
  | [] =>
    apply Counts.fails rfl
    have split : before ++ [joiner] = before ++ [joiner] ++ [] := by simp
    rw [joinerAfter, split, Scan.forth_end (by simp)]
    rfl
  | [first] =>
    rw [joinerAfter_eq]
    apply Counts.intro ⟨[joiner, first], 0⟩ (width first + 1) rfl
    · simp [Scan.joined, Nat.add_assoc]
    · simp [Sequence.counted, joinerWidth]
      omega
  | first :: second :: rest =>
    rw [joinerAfter_eq]
    simp only
    cases isSelector : unicode.isVariationSelector first.toNat with
    | true =>
      simp only [if_true, TextError.ok_bind]
      have split : before ++ joiner :: first :: second :: rest =
          before ++ [joiner, first, second] ++ rest := by simp
      by_cases last : rest = []
      · apply Counts.intro ⟨[joiner, first, second], width second - width first⟩
          (width second + width second + 1) (by simp [last])
        · simp [last, Scan.joined, Nat.add_assoc]
        · simp [Sequence.counted, joinerWidth]
          omega
      · have inside : ¬(units (before ++ [joiner, first, second]) : Int) ≥
            (encode (before ++ [joiner, first, second] ++ rest)).length :=
          not_le.mpr (units_lt_length_iff.mpr last)
        simp only [split, inside, decide_false, Bool.and_false, Bool.false_eq_true, if_false,
          Bool.true_and, last]
        cases isEmoji : unicode.isEmoji second.toNat with
        | true =>
          rw [if_pos rfl, if_pos rfl, emojisAfter_joined]
          apply Counts.add (width second + width second + 1)
          · apply others
            simp only [List.length_cons] at deep
            omega
          · simp [joinerWidth]
            omega
        | false => exact Counts.intro .none 0 rfl rfl rfl
    | false =>
      have split : before ++ joiner :: first :: second :: rest =
          before ++ [joiner, first] ++ second :: rest := by simp
      have inside : ¬(units (before ++ [joiner, first]) : Int) ≥
          (encode (before ++ [joiner, first] ++ second :: rest)).length :=
        not_le.mpr (units_lt_length_iff.mpr (List.cons_ne_nil _ _))
      simp only [Bool.false_eq_true, if_false, TextError.ok_bind, split, inside, decide_false,
        Bool.and_false, Bool.true_and]
      cases isEmoji : unicode.isEmoji first.toNat with
      | true =>
        rw [if_pos rfl, if_pos rfl, emojisAfter_joined]
        apply Counts.add (width first + 1)
        · exact others (before ++ [joiner, first]) (second :: rest) first
            (Nat.lt_of_succ_lt_succ deep) _
        · simp [joinerWidth]
          omega
      | false => exact Counts.intro .none 0 rfl rfl rfl

variable (unicode emoji) in
/-- The emoji loop counts what belongs to the sequence, with its surplus. -/
theorem emojisAfter_spec (before : List Char) (deep : points.length < fuel) (count : Nat) :
    Counts (emojisAfter unicode (encode (before ++ points)) fuel
      { codePoint := emoji.toNat, offset := units before, count }) count
      (sequenceAfter unicode emoji points) := by
  induction fuel generalizing before points emoji count with
  | zero => omega
  | succ fuel ih =>
    have sequence := sequenceAfter.eq_def unicode emoji points
    cases isModifier : unicode.isEmojiModifier emoji.toNat with
    | true =>
      rw [if_pos isModifier] at sequence
      apply Counts.intro .none 0 sequence
      · simp [emojisAfter, emojiAfter, isModifier]
      · rfl
    | false =>
      rw [if_neg (by simp [isModifier])] at sequence
      match points with
      | [] =>
        apply Counts.intro .none 0 sequence
        · simp [emojisAfter, emojiAfter, isModifier, endOfText]
        · rfl
      | first :: rest =>
        by_cases isKeycap : first.toNat = COMBINING_ENCLOSING_KEYCAP
        · have keycapWidth := width_keycap isKeycap
          simp only [if_pos isKeycap] at sequence
          have counted := emojisAfter_succ before rest fuel count first isModifier
          rw [if_pos isKeycap] at counted
          cases takes : takesDigit unicode rest with
          | true =>
            apply Counts.intro ⟨first :: rest.take 1, 0⟩ 2
            · rw [sequence, takes, if_pos rfl]
            · rw [counted, takes, if_pos rfl]
            · simp [Sequence.counted, units_take_one takes, keycapWidth]
          | false =>
            apply Counts.intro .none 0
            · rw [sequence, takes, if_neg Bool.false_ne_true]
            · rw [counted, takes, if_neg Bool.false_ne_true]
            · rfl
        cases extends? : unicode.isEmojiModifier first.toNat ||
          unicode.isVariationSelector first.toNat with
        | true =>
          apply Counts.intro ⟨[first], 0⟩ (width first)
          · rw [sequence]
            simp only [if_neg isKeycap, extends?, if_true]
          · rw [emojisAfter_succ before rest fuel count first isModifier, if_neg isKeycap, extends?]
            rfl
          · simp [Sequence.counted]
        | false =>
          by_cases isJoiner : first.toNat = ZERO_WIDTH_JOINER
          · exact emojisAfter_joiner (fun before _ emoji deep => ih emoji before deep)
              (Nat.lt_of_succ_lt deep) count isJoiner isModifier extends?
          · apply Counts.intro .none 0
            · rw [sequence]
              simp only [if_neg isKeycap, extends?, Bool.false_eq_true, if_false,
                if_pos isJoiner]
            · rw [emojisAfter_succ before rest fuel count first isModifier, if_neg isKeycap,
                extends?, if_neg Bool.false_ne_true, if_pos isJoiner]
              rfl
            · rfl

/-! ## The offset after -/

/-- The offset moves forward over whole code points. -/
def MovesForth (before points : List Char) (result : Except TextError Int) : Prop :=
  ∃ k, 0 < k ∧ result = .ok (units before + units (points.take k))

/-- Forward over whole code points is to a boundary of the text, and the other way round. -/
theorem movesForth_iff (some : points ≠ []) :
    MovesForth before points result ↔ ∃ r, result = .ok r ∧ units before < r ∧
      r ≤ units (before ++ points) ∧ IsBoundary (before ++ points) r := by
  constructor
  · rintro ⟨k, positive, rfl⟩
    have split : units points = units (points.take k) + units (points.drop k) := by
      rw [← units_append, List.take_append_drop]
    have moved : 0 < units (points.take k) := by
      rw [Nat.pos_iff_ne_zero, Ne, units_eq_zero, List.take_eq_nil_iff]
      exact fun empty => empty.elim positive.ne' some
    refine ⟨_, rfl, by omega, ?_, before ++ points.take k, points.drop k, ?_, ?_⟩
    · rw [units_append]
      omega
    · rw [List.append_assoc, List.take_append_drop]
    · rw [units_append]
      rfl
  · rintro ⟨r, rfl, moved, -, passed, rest, same, rfl⟩
    -- The boundary is that of a longer prefix.
    have isPrefix : before <+: passed := by
      rcases List.prefix_or_prefix_of_prefix (List.prefix_append before points)
        (same ▸ List.prefix_append passed rest) with longer | ⟨more, shorter⟩
      · exact longer
      · rw [← shorter, units_append] at moved
        omega
    obtain ⟨taken, rfl⟩ := isPrefix
    rw [List.append_assoc] at same
    have split := List.append_cancel_left same
    refine ⟨taken.length, ?_, ?_⟩
    · apply Nat.pos_of_ne_zero
      intro empty
      rw [List.eq_nil_of_length_eq_zero empty, List.append_nil] at moved
      omega
    · rw [split, List.take_left, units_append]
      rfl

/-- Whether the next code point can extend the one before it. -/
def Extends (unicode : Unicode) (point next : Char) : Prop :=
  next.toNat = COMBINING_ENCLOSING_KEYCAP ∨ unicode.isVariationSelector next.toNat = true ∨
    unicode.isEmojiModifier next.toNat = true ∨ next.toNat = ZERO_WIDTH_JOINER ∨
    unicode.isRegionalIndicatorSymbol point.toNat = true ∧
      unicode.isRegionalIndicatorSymbol next.toNat = true ∨
    point.toNat = LINE_FEED ∧ next.toNat = CARRIAGE_RETURN

/-- What the claimed offset is: a boundary behind the code point, and the one right behind it
when nothing extends it. -/
def StepsOver (unicode : Unicode) (before : List Char) (point : Char) (rest : List Char)
    (result : Except TextError Int) : Prop :=
  ∃ r, result = .ok r ∧ units before < r ∧ r ≤ units (before ++ point :: rest) ∧
    IsBoundary (before ++ point :: rest) r ∧
    ((∀ next ∈ rest.head?, ¬Extends unicode point next) → r = units before + width point)

theorem stepsOver_iff {point : Char} {rest : List Char} :
    StepsOver unicode before point rest result ↔
      ∃ k, 0 < k ∧ result = .ok (units before + units ((point :: rest).take k)) ∧
        ((∀ next ∈ rest.head?, ¬Extends unicode point next) →
          units ((point :: rest).take k) = width point) := by
  have moves : MovesForth before (point :: rest) result ↔ _ :=
    movesForth_iff (List.cons_ne_nil point rest)
  constructor
  · rintro ⟨r, done, more, most, boundary, single⟩
    obtain ⟨k, positive, same⟩ := moves.mpr ⟨r, done, more, most, boundary⟩
    refine ⟨k, positive, same, fun alone => ?_⟩
    have place := single alone
    rw [done, Except.ok.injEq] at same
    omega
  · rintro ⟨k, positive, done, single⟩
    obtain ⟨r, same, more, most, boundary⟩ := moves.mp ⟨k, positive, done⟩
    refine ⟨r, same, more, most, boundary, fun alone => ?_⟩
    have place := single alone
    rw [done, Except.ok.injEq] at same
    omega

/-- A digit, `#` or `*` is counted twice. -/
def baseSurplus (point : Char) : Nat := if isKeycapBase point.toNat then 1 else 0

/-- The sequence of the code point at an offset, unless it is a line feed or a flag. -/
def characterAfter (unicode : Unicode) (point : Char) (rest : List Char) : Option Sequence :=
  if point.toNat = COMBINING_ENCLOSING_KEYCAP then
    some ⟨if takesDigit unicode rest then point :: rest.take 2 else [point], 0⟩
  else if unicode.isEmoji point.toNat then
    (sequenceAfter unicode point rest).map (.add [point] (baseSurplus point))
  else some ⟨[point], baseSurplus point⟩

section First

variable {point next : Char} {rest : List Char}

/-- The first steps of `getOffsetAfter` with more than one code point left. -/
theorem getOffsetAfter_cons (before : List Char) :
    getOffsetAfter unicode (encode (before ++ point :: next :: rest)) (units before) = (do
      let text := encode (before ++ point :: next :: rest)
      let offset : Int := units before
      if point.toNat == LINE_FEED then
        if next.toNat == CARRIAGE_RETURN then return offset + (width point + 1 : Nat)
        else return offset + width point
      else if unicode.isRegionalIndicatorSymbol point.toNat then
        if (units (before ++ [point]) : Int) ≥ text.length - 1 then return offset + width point
        if !unicode.isRegionalIndicatorSymbol next.toNat then return offset + width point
        let regionalIndicatorSymbolCount ← regionalIndicatorsEndingAt unicode text (text.length + 1)
          offset 0
        if regionalIndicatorSymbolCount % 2 == 0 then return offset + (width point + 2 : Nat)
        else return offset + width point
      else
        let nextCharCount :=
          if isKeycapBase point.toNat then width point + width point else width point
        let scan : Scan :=
          { codePoint := point.toNat, offset := units (before ++ [point]), count := nextCharCount }
        if point.toNat == COMBINING_ENCLOSING_KEYCAP then
          return offset + (← keycapAfter unicode text scan)
        else if unicode.isEmoji point.toNat then
          return offset + (← emojisAfter unicode text (text.length + 1) scan)
        else return offset + nextCharCount) := by
  have enough : ¬(units before : Int) ≥
      (encode (before ++ point :: next :: rest)).length - 1 := by
    have first := width_pos point
    have second := width_pos next
    rw [length_encode, units_append, units_cons, units_cons]
    omega
  have place : (units before : Int) + width point = (units (before ++ [point]) : Nat) := by simp
  have moved : ¬((units (before ++ [point]) : Nat) : Int) = 0 := by
    have first := width_pos point
    rw [← place]
    omega
  have second := codePointAt_units (before ++ [point]) rest next
  rw [List.append_assoc, List.singleton_append] at second
  unfold getOffsetAfter
  simp only [if_neg enough]
  rw [codePointAt_units, TextError.ok_bind]
  simp only [charCount_toNat, place, beq_eq_false_iff_ne.mpr moved, Bool.false_eq_true, if_false,
    second, TextError.ok_bind]

/-- A line feed goes with a carriage return. -/
theorem stepsOver_lineFeed (before : List Char) (isLineFeed : point.toNat = LINE_FEED) :
    StepsOver unicode before point (next :: rest)
      (getOffsetAfter unicode (encode (before ++ point :: next :: rest)) (units before)) := by
  rw [stepsOver_iff, getOffsetAfter_cons, isLineFeed]
  simp only [beq_self_eq_true, if_true]
  by_cases isReturn : next.toNat = CARRIAGE_RETURN
  · have nextWidth : width next = 1 := by
      rw [width, isReturn]
      rfl
    refine ⟨2, by decide, by simp [isReturn, nextWidth], fun alone => ?_⟩
    have extends? : Extends unicode point next := by simp [Extends, isLineFeed, isReturn]
    exact absurd extends? (alone next rfl)
  · exact ⟨1, by decide, by simp [isReturn], fun _ => by simp⟩

variable (unicode) in
/-- Counting regional indicator symbols ends. -/
theorem regionalIndicatorsEndingAt_ok {text : List UInt16} (precedes : Precedes text points)
    {fuel : Nat} (deep : points.length < fuel) (count : Nat) :
    ∃ result, regionalIndicatorsEndingAt unicode text fuel (units points) count = .ok result := by
  induction fuel generalizing points count with
  | zero => omega
  | succ fuel ih =>
    rw [regionalIndicatorsEndingAt]
    match points with
    | [] => exact ⟨_, rfl⟩
    | point :: rest =>
      rw [if_pos (units_pos_iff.mpr (List.cons_ne_nil _ _)), precedes.read, TextError.ok_bind]
      cases isRegional : unicode.isRegionalIndicatorSymbol point.toNat with
      | false => exact ⟨count, by simp⟩
      | true =>
        obtain ⟨result, done⟩ := ih precedes.tail (Nat.lt_of_succ_lt_succ deep) (count + 1)
        refine ⟨result, ?_⟩
        rw [if_pos rfl, charCount_toNat, units_sub_width]
        exact done

/-- A regional indicator symbol goes with the next one or alone. -/
theorem stepsOver_regional (before : List Char)
    (supplementary : ∀ c, unicode.isRegionalIndicatorSymbol c = true → 0xFFFF < c)
    (notLineFeed : point.toNat ≠ LINE_FEED)
    (isRegional : unicode.isRegionalIndicatorSymbol point.toNat = true) :
    StepsOver unicode before point (next :: rest)
      (getOffsetAfter unicode (encode (before ++ point :: next :: rest)) (units before)) := by
  rw [stepsOver_iff, getOffsetAfter_cons]
  simp only [beq_eq_false_iff_ne.mpr notLineFeed, Bool.false_eq_true, if_false, isRegional, if_true]
  have alone : ∃ k, 0 < k ∧ (.ok (units before + width point : Int) : Except TextError Int) =
      .ok (units before + units ((point :: next :: rest).take k)) ∧
      ((∀ other ∈ (next :: rest).head?, ¬Extends unicode point other) →
        units ((point :: next :: rest).take k) = width point) :=
    ⟨1, by decide, by simp, fun _ => by simp⟩
  split
  next => exact alone
  next =>
    cases nextRegional : unicode.isRegionalIndicatorSymbol next.toNat with
    | false => exact alone
    | true =>
      have extends? : Extends unicode point next := by simp [Extends, isRegional, nextRegional]
      have nextWidth : width next = 2 := by
        have large := supplementary _ nextRegional
        have widths := width_eq next
        omega
      have precedes : Precedes (encode (before ++ point :: next :: rest)) before.reverse :=
        ⟨encode (point :: next :: rest), by rw [List.reverse_reverse, encode_append]⟩
      obtain ⟨count, done⟩ := regionalIndicatorsEndingAt_ok unicode precedes
        precedes.length_lt 0
      rw [units_reverse] at done
      rw [done]
      simp only [TextError.ok_bind]
      by_cases even : count % 2 = 0
      · refine ⟨2, by decide, by simp [even, nextWidth], fun single => ?_⟩
        exact absurd extends? (single next rfl)
      · refine ⟨1, by decide, by simp [even], fun _ => by simp⟩

/-- The offset moves forward by what is counted for a sequence, or fails with it. -/
def TakesForth (result : Except TextError Int) (offset : Int) : Option Sequence → Prop
  | Option.none => result = .error .rangeError
  | some sequence => 0 < sequence.counted ∧ result = .ok (offset + sequence.counted)

theorem width_add_baseSurplus :
    (if isKeycapBase point.toNat then width point + width point else width point) =
      width point + baseSurplus point := by
  unfold baseSurplus
  cases isBase : isKeycapBase point.toNat with
  | true => rw [if_pos rfl, if_pos rfl, width_base isBase]
  | false => rfl

variable (next rest) in
/-- Any other character: what is counted for its sequence is passed. -/
theorem getOffsetAfter_character (before : List Char) (notLineFeed : point.toNat ≠ LINE_FEED)
    (notRegional : unicode.isRegionalIndicatorSymbol point.toNat = false) :
    TakesForth (getOffsetAfter unicode (encode (before ++ point :: next :: rest)) (units before))
      (units before) (characterAfter unicode point (next :: rest)) := by
  have positive := width_pos point
  rw [getOffsetAfter_cons]
  simp only [beq_eq_false_iff_ne.mpr notLineFeed, notRegional, Bool.false_eq_true, if_false,
    width_add_baseSurplus]
  by_cases isKeycap : point.toNat = COMBINING_ENCLOSING_KEYCAP
  · have notBase : baseSurplus point = 0 := by
      rw [baseSurplus, isKeycap]
      rfl
    have pointWidth := width_keycap isKeycap
    rw [if_pos (beq_iff_eq.mpr isKeycap), keycapAfter_eq isKeycap rfl, TextError.ok_bind,
      characterAfter, if_pos isKeycap, notBase, pointWidth]
    cases takes : takesDigit unicode (next :: rest) with
    | false => exact ⟨by simp [Sequence.counted, pointWidth], by simp [Sequence.counted, pointWidth]⟩
    | true =>
      have digits := units_take_two takes
      refine ⟨?_, ?_⟩
      · simp [Sequence.counted, pointWidth]
        omega
      · simp only [if_true, Sequence.counted, units_cons, pointWidth, digits]
        rfl
  · rw [if_neg (by rwa [beq_iff_eq]), characterAfter, if_neg isKeycap]
    cases isEmoji : unicode.isEmoji point.toNat with
    | false =>
      refine ⟨?_, ?_⟩
      · simp [Sequence.counted]
        omega
      · simp [Sequence.counted]
    | true =>
      have split : before ++ point :: next :: rest = before ++ [point] ++ next :: rest := by simp
      have deep : (next :: rest).length < (encode (before ++ point :: next :: rest)).length + 1 := by
        have widths : Precedes (encode (before ++ point :: next :: rest))
            (before ++ point :: next :: rest).reverse :=
          ⟨[], by rw [List.reverse_reverse, List.append_nil]⟩
        have longest := widths.length_lt
        rw [List.length_reverse, List.length_append] at longest
        simp only [List.length_cons] at longest ⊢
        omega
      have counts := emojisAfter_spec unicode point (before ++ [point]) deep
        (width point + baseSurplus point)
      rw [← split] at counts
      simp only [if_true]
      cases found : sequenceAfter unicode point (next :: rest) with
      | none =>
        rw [found] at counts
        have thrown : _ = Except.error TextError.rangeError := counts
        rw [thrown]
        rfl
      | some sequence =>
        rw [found] at counts
        obtain ⟨more, done, total⟩ := counts
        have whole := sequence.counted_add [point] (baseSurplus point)
        rw [done, TextError.ok_bind]
        rw [units_cons, units_nil] at whole
        refine ⟨by omega, ?_⟩
        rw [TextError.pure_eq]
        congr 1
        omega

/-- Whether what is counted from a code point on takes whole code points, and the code point
alone when nothing extends it: a line feed, a flag and the last code point always do. -/
def CountsWholeAfter (unicode : Unicode) (point : Char) : List Char → Prop
  | [] => True
  | next :: rest =>
    point.toNat = LINE_FEED ∨ unicode.isRegionalIndicatorSymbol point.toNat = true ∨
      (Extends unicode point next ∨ isKeycapBase point.toNat = false ∧
          ¬(point.toNat = COMBINING_ENCLOSING_KEYCAP ∧ takesDigit unicode (next :: rest) = true)) ∧
        ∃ sequence ∈ characterAfter unicode point (next :: rest),
          ∃ k, (units ((point :: next :: rest).take k) : Int) = sequence.counted

/-- Nothing that does not extend an emoji belongs to its sequence. -/
theorem sequenceAfter_of_not_extends (alone : ¬Extends unicode point next) :
    sequenceAfter unicode point (next :: rest) = some .none := by
  simp only [Extends, not_or, Bool.not_eq_true] at alone
  obtain ⟨notKeycap, notSelector, notModifier, notJoiner, -⟩ := alone
  rw [sequenceAfter.eq_def]
  simp [notKeycap, notSelector, notModifier, notJoiner]

/-- When nothing extends the code point, it is counted alone unless it is counted twice or a
keycap takes a digit. -/
theorem counted_of_not_extends (alone : ¬Extends unicode point next) {sequence : Sequence}
    (found : characterAfter unicode point (next :: rest) = some sequence) :
    sequence.counted = width point ↔ isKeycapBase point.toNat = false ∧
      ¬(point.toNat = COMBINING_ENCLOSING_KEYCAP ∧ takesDigit unicode (next :: rest) = true) := by
  unfold characterAfter at found
  by_cases isKeycap : point.toNat = COMBINING_ENCLOSING_KEYCAP
  · have notBase : isKeycapBase point.toNat = false := by
      rw [isKeycap]
      rfl
    rw [if_pos isKeycap] at found
    cases found
    cases takes : takesDigit unicode (next :: rest) with
    | true =>
      have digits := units_take_two takes
      simp only [if_true, Sequence.counted, units_cons, digits]
      simp [isKeycap]
    | false => simp [Sequence.counted, notBase]
  · rw [if_neg isKeycap, sequenceAfter_of_not_extends alone] at found
    have counted : sequence.counted = width point + baseSurplus point := by
      cases isEmoji : unicode.isEmoji point.toNat with
      | true =>
        rw [isEmoji] at found
        cases found
        simp [Sequence.counted, Sequence.add, Sequence.none]
      | false =>
        rw [isEmoji] at found
        cases found
        simp [Sequence.counted]
    rw [counted, baseSurplus]
    cases isBase : isKeycapBase point.toNat with
    | true => simp
    | false => simp [isKeycap]

theorem stepsOver_iff_countsWholeAfter (before : List Char)
    (supplementary : ∀ c, unicode.isRegionalIndicatorSymbol c = true → 0xFFFF < c) :
    StepsOver unicode before point (next :: rest)
        (getOffsetAfter unicode (encode (before ++ point :: next :: rest)) (units before)) ↔
      CountsWholeAfter unicode point (next :: rest) := by
  by_cases isLineFeed : point.toNat = LINE_FEED
  · exact iff_of_true (stepsOver_lineFeed before isLineFeed) (.inl isLineFeed)
  cases isRegional : unicode.isRegionalIndicatorSymbol point.toNat with
  | true =>
    exact iff_of_true (stepsOver_regional before supplementary isLineFeed isRegional)
      (.inr (.inl isRegional))
  | false =>
    have character := getOffsetAfter_character next rest before isLineFeed isRegional
    rw [stepsOver_iff]
    simp only [CountsWholeAfter, isLineFeed, isRegional, Bool.false_eq_true, false_or]
    cases found : characterAfter unicode point (next :: rest) with
    | none =>
      rw [found] at character
      have thrown : _ = Except.error TextError.rangeError := character
      rw [thrown]
      simp
    | some sequence =>
      rw [found] at character
      obtain ⟨positive, moved⟩ := character
      have single := fun alone => counted_of_not_extends alone found
      rw [moved]
      constructor
      · rintro ⟨k, -, same, alone⟩
        rw [Except.ok.injEq] at same
        refine ⟨?_, sequence, rfl, k, by omega⟩
        by_cases extends? : Extends unicode point next
        · exact .inl extends?
        · have width := alone fun other head => (Option.some.inj head) ▸ extends?
          exact .inr ((single extends?).mp (by omega))
      · rintro ⟨extends?, other, same, k, whole⟩
        cases same
        refine ⟨k, ?_, by rw [whole], fun alone => ?_⟩
        · apply Nat.pos_of_ne_zero
          intro empty
          rw [empty, List.take_zero, units_nil] at whole
          omega
        · have notExtends := alone next rfl
          have width := (single notExtends).mpr (extends?.resolve_left notExtends)
          omega

/-- The last code point of the text ends at its end. -/
theorem stepsOver_last (before : List Char) :
    StepsOver unicode before point []
      (getOffsetAfter unicode (encode (before ++ [point])) (units before)) := by
  rw [stepsOver_iff]
  refine ⟨1, by decide, ?_, fun _ => by simp⟩
  have length : (encode (before ++ [point])).length = units before + width point := by simp
  have single : units (List.take 1 [point]) = width point := by simp
  rw [single]
  unfold getOffsetAfter
  rcases width_eq point with ⟨pointWidth, -⟩ | ⟨pointWidth, supplementary⟩
  · simp only [length, pointWidth]
    rw [if_pos (by omega)]
    rfl
  · have notLineFeed : point.toNat ≠ LINE_FEED := by
      unfold LINE_FEED
      omega
    have notBase : isKeycapBase point.toNat = false := by
      by_contra isBase
      rw [Bool.not_eq_false] at isBase
      have narrow := width_base isBase
      omega
    have notKeycap : point.toNat ≠ COMBINING_ENCLOSING_KEYCAP := by
      unfold COMBINING_ENCLOSING_KEYCAP
      omega
    have moved : ¬((units before : Int) + (2 : Nat)) = 0 := by omega
    simp only [length, pointWidth]
    rw [if_neg (by omega), codePointAt_units, TextError.ok_bind]
    simp only [charCount_toNat, pointWidth, beq_eq_false_iff_ne.mpr moved,
      beq_eq_false_iff_ne.mpr notLineFeed, beq_eq_false_iff_ne.mpr notKeycap, notBase,
      Bool.false_eq_true, if_false]
    cases isRegional : unicode.isRegionalIndicatorSymbol point.toNat with
    | true =>
      rw [if_pos rfl, if_pos (by omega)]
      rfl
    | false =>
      cases isEmoji : unicode.isEmoji point.toNat with
      | false => rfl
      | true =>
        have counts : Counts (emojisAfter unicode (encode (before ++ [point] ++ []))
            (units before + 2 + 1)
            { codePoint := point.toNat, offset := units (before ++ [point]), count := 2 }) 2
            (sequenceAfter unicode point []) :=
          emojisAfter_spec unicode point (before ++ [point]) (Nat.succ_pos _) 2
        have nothing : sequenceAfter unicode point [] = some .none := by
          rw [sequenceAfter.eq_def]
          split <;> rfl
        rw [nothing, List.append_nil] at counts
        obtain ⟨more, done, total⟩ := counts
        obtain rfl : more = 0 := by simpa [Sequence.counted, Sequence.none] using total
        have place : (units (before ++ [point]) : Int) = units before + (2 : Nat) := by
          simp [pointWidth]
        rw [place] at done
        rw [if_neg Bool.false_ne_true, if_pos rfl, done]
        rfl

end First

/-- The offset after a boundary is as it should be exactly when whole code points are counted,
and the code point alone when nothing extends it. -/
theorem getOffsetAfter_isBoundary_iff (unicode : Unicode)
    (supplementary : ∀ c, unicode.isRegionalIndicatorSymbol c = true → 0xFFFF < c)
    (before : List Char) (point : Char) (rest : List Char) :
    StepsOver unicode before point rest
        (getOffsetAfter unicode (encode (before ++ point :: rest)) (units before)) ↔
      CountsWholeAfter unicode point rest := by
  cases rest with
  | nil => exact iff_of_true (stepsOver_last before) trivial
  | cons next rest => exact stepsOver_iff_countsWholeAfter before supplementary

theorem getOffsetAfter_isBoundary_heart :
    StepsOver sampleUnicode ['x'] (.ofNat 0x2764) [.ofNat 0xFE0F, '.']
      (getOffsetAfter sampleUnicode (encode (['x'] ++ .ofNat 0x2764 :: [.ofNat 0xFE0F, '.']))
        (units ['x'])) := by
  apply (getOffsetAfter_isBoundary_iff sampleUnicode (fun _ regional => by cases regional) ['x']
    (.ofNat 0x2764) [.ofNat 0xFE0F, '.']).mpr
  have selected : sequenceAfter sampleUnicode (.ofNat 0x2764) [.ofNat 0xFE0F, '.'] =
      some ⟨[.ofNat 0xFE0F], 0⟩ := by
    rw [sequenceAfter.eq_def]
    rfl
  refine .inr (.inr ⟨.inl (.inr (.inl rfl)), ⟨[.ofNat 0x2764, .ofNat 0xFE0F], 0⟩, ?_, 2, by decide⟩)
  change (sequenceAfter sampleUnicode (.ofNat 0x2764) [.ofNat 0xFE0F, '.']).map
    (Sequence.add [.ofNat 0x2764] (baseSurplus (.ofNat 0x2764))) = _
  rw [selected]
  rfl

/-- Of two digits the first is passed with the second. -/
theorem getOffsetAfter_twoDigits :
    ¬StepsOver sampleUnicode [] '1' ['2']
      (getOffsetAfter sampleUnicode (encode ([] ++ '1' :: ['2'])) (units [])) := by
  have both : getOffsetAfter sampleUnicode (encode ([] ++ '1' :: ['2'])) (units []) = .ok 2 := by
    decide
  rintro ⟨r, found, -, -, -, single⟩
  rw [both] at found
  cases found
  have place := single (by simp [Extends]; decide)
  cases place

end Emoji

end FlutterEngine.Ohos.FlutterTextUtils
