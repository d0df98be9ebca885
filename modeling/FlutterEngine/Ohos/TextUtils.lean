import FlutterEngine.Std.Utf16

/-!
# Offsets by visible character

`FlutterTextUtils` of `TextUtils.ets`: from a cursor, the offset one character before or
after, where an emoji with its modifiers is one character. What ICU says of a code point
is a parameter. The loops that accumulate a count keep their variables in a `Scan`.
-/

namespace FlutterEngine.Ohos

open FlutterEngine.Std.Utf16

/-- What a text function throws. -/
inductive TextError where
  /-- "Offset out of range". -/
  | rangeError
  /-- A character at a negative index is undefined. -/
  | typeError
  /-- Not thrown by the code: the model ran out of fuel. -/
  | outOfFuel
deriving DecidableEq, Repr

namespace TextError

variable {α β : Type}

@[simp] theorem pure_eq (value : α) : (pure value : Except TextError α) = .ok value := rfl

@[simp] theorem ok_bind (value : α) (next : α → Except TextError β) :
    (Except.ok value >>= next) = next value := rfl

end TextError

/-- The properties of code points `FlutterNapi` asks ICU for. -/
structure Unicode where
  isEmoji : Nat → Bool
  isEmojiModifier : Nat → Bool
  isEmojiModifierBase : Nat → Bool
  isVariationSelector : Nat → Bool
  isRegionalIndicatorSymbol : Nat → Bool

namespace FlutterTextUtils

def LINE_FEED : Nat := 0x0A

def CARRIAGE_RETURN : Nat := 0x0D

def COMBINING_ENCLOSING_KEYCAP : Nat := 0x20E3

def CANCEL_TAG : Nat := 0xE007F

def ZERO_WIDTH_JOINER : Nat := 0x200D

def isTagSpecChar (code : Nat) : Bool := 0xE0020 ≤ code && code ≤ 0xE007E

/-- A digit, `#` or `*`. -/
def isKeycapBase (code : Nat) : Bool := (0x30 ≤ code && code ≤ 0x39) || code == 0x23 || code == 0x2A

def codePointBefore (text : List UInt16) (offset : Int) : Except TextError Nat :=
  if offset ≤ 0 || offset > text.length then .error .rangeError
  else
    let char := text.getD (offset - 1).toNat 0
    let prevChar := text.getD (offset - 2).toNat 0
    if offset > 1 && isLowSurrogate char && isHighSurrogate prevChar then .ok (combine prevChar char)
    else .ok char.toNat

def codePointAt (text : List UInt16) (offset : Int) : Except TextError Nat :=
  if offset ≥ text.length then .error .rangeError
  else if offset < 0 then .error .typeError
  else
    let char := text.getD offset.toNat 0
    let nextChar := text.getD (offset + 1).toNat 0
    if isHighSurrogate char && offset + 1 < text.length && isLowSurrogate nextChar then
      .ok (combine char nextChar)
    else .ok char.toNat

def charCount (codePoint : Nat) : Nat := if codePoint ≤ 0xFFFF then 1 else 2

/-- The variables of a scan: the last code point read, the offset behind which it goes
on, and the code units counted so far. -/
structure Scan where
  codePoint : Nat
  offset : Int
  count : Nat
  isZwj : Bool := false
  lastSeenVariantSelectorCharCount : Nat := 0
deriving DecidableEq, Repr

/-- Where an iteration of the emoji loop goes on. -/
inductive Jump where
  /-- To the condition of the loop. -/
  | condition (scan : Scan)
  /-- Behind the loop. -/
  | leave (scan : Scan)
  /-- Out of the function, with these code units counted. -/
  | finish (count : Nat)
deriving DecidableEq, Repr

namespace Scan

variable (text : List UInt16) (scan : Scan)

/-- Read the code point before the offset and move in front of it. -/
def back : Except TextError Scan := do
  let codePoint ← codePointBefore text scan.offset
  return { scan with codePoint, offset := scan.offset - charCount codePoint }

/-- Read the code point at the offset and move behind it. -/
def forth : Except TextError Scan := do
  let codePoint ← codePointAt text scan.offset
  return { scan with codePoint, offset := scan.offset + charCount codePoint }

/-- Count the code point read. -/
def counted : Scan := { scan with count := scan.count + charCount scan.codePoint }

/-- Count what a joiner joined: the code point, its selector and the joiner. -/
def joined : Scan :=
  { scan with
    count := scan.count + charCount scan.codePoint + scan.lastSeenVariantSelectorCharCount + 1
    isZwj := false }

/-- The code point that was read is taken for a variation selector. -/
def seenSelector : Scan :=
  { scan with lastSeenVariantSelectorCharCount := charCount scan.codePoint }

end Scan

variable (unicode : Unicode) (text : List UInt16)

/-! ## Backward -/

/-- The code points before a regional indicator symbol, as long as they are such symbols. -/
def regionalIndicatorsBefore : (fuel : Nat) → (codePoint : Nat) → (lastOffset : Int) →
    (regionalIndicatorSymbolCount : Nat) → Except TextError (Nat × Nat)
  | 0, _, _, _ => .error .outOfFuel
  | fuel + 1, codePoint, lastOffset, regionalIndicatorSymbolCount =>
    if lastOffset > 0 && unicode.isRegionalIndicatorSymbol codePoint then do
      let codePoint ← codePointBefore text lastOffset
      regionalIndicatorsBefore fuel codePoint (lastOffset - charCount codePoint)
        (regionalIndicatorSymbolCount + 1)
    else .ok (codePoint, regionalIndicatorSymbolCount)

/-- Count the tags before a cancel tag. -/
def tagsBefore : (fuel : Nat) → Scan → Except TextError Scan
  | 0, _ => .error .outOfFuel
  | fuel + 1, scan =>
    if scan.offset > 0 && isTagSpecChar scan.codePoint then do
      let scan ← scan.counted.back text
      tagsBefore fuel scan
    else .ok scan

/-- A modifier counts with its base. -/
def modifierBefore (scan : Scan) : Except TextError Jump := do
  let scan ← scan.back text
  if scan.offset > 0 && unicode.isVariationSelector scan.codePoint then
    let base ← scan.back text
    if !unicode.isEmoji base.codePoint then return .finish scan.count
    let base := base.seenSelector
    if unicode.isEmojiModifierBase base.codePoint then
      return .leave { base with
        count := base.count + (base.lastSeenVariantSelectorCharCount + charCount base.codePoint) }
    else return .leave base
  else if unicode.isEmojiModifierBase scan.codePoint then return .leave scan.counted
  else return .leave scan

/-- The code point before, and when it is a joiner what it joins. -/
def joinerBefore (scan : Scan) : Except TextError Scan := do
  if scan.offset > 0 then
    let scan ← scan.back text
    if scan.codePoint == ZERO_WIDTH_JOINER then
      let scan ← { scan with isZwj := true }.back text
      if scan.offset > 0 && unicode.isVariationSelector scan.codePoint then
        let scan ← scan.back text
        return scan.seenSelector
      else return scan
    else return scan
  else return scan

/-- One iteration of the emoji loop of `getOffsetBefore`. -/
def emojiBefore (scan : Scan) : Except TextError Jump := do
  let scan := if scan.isZwj then scan.joined else scan
  let scan := { scan with lastSeenVariantSelectorCharCount := 0 }
  if unicode.isEmojiModifier scan.codePoint then modifierBefore unicode text scan
  else
    let scan ← joinerBefore unicode text scan
    if scan.offset == 0 then return .leave scan
    else return .condition scan

/-- The code units behind the emoji loop. -/
def emojisBefore : (fuel : Nat) → Scan → Except TextError Nat
  | 0, _ => .error .outOfFuel
  | fuel + 1, scan => do
      let leave (scan : Scan) :=
        if scan.isZwj && scan.offset == 0 then scan.joined.count else scan.count
      match ← emojiBefore unicode text scan with
      | .condition scan =>
        if scan.isZwj && unicode.isEmoji scan.codePoint then emojisBefore fuel scan
        else return leave scan
      | .leave scan => return leave scan
      | .finish count => return count

/-- What an emoji takes with it, once a tag sequence is skipped. -/
def variationBefore (scan : Scan) : Except TextError Nat := do
  let fuel := text.length + 1
  if unicode.isVariationSelector scan.codePoint then
    let base ← scan.back text
    if !unicode.isEmoji base.codePoint then return scan.count
    emojisBefore unicode text fuel base.counted
  else if unicode.isEmoji scan.codePoint then emojisBefore unicode text fuel scan
  else return scan.count

def getOffsetBefore (offset : Int) : Except TextError Int := do
  if offset ≤ 1 then return 0
  let codePoint ← codePointBefore text offset
  let deleteCharCount := charCount codePoint
  let lastOffset := offset - deleteCharCount
  if lastOffset == 0 then return 0
  -- Line Feed
  if codePoint == LINE_FEED then
    let codePoint ← codePointBefore text lastOffset
    if codePoint == CARRIAGE_RETURN then return offset - (deleteCharCount + 1 : Nat)
    else return offset - deleteCharCount
  -- Flags
  else if unicode.isRegionalIndicatorSymbol codePoint then
    let codePoint ← codePointBefore text lastOffset
    let (codePoint, regionalIndicatorSymbolCount) ← regionalIndicatorsBefore unicode text
      (text.length + 1) codePoint (lastOffset - charCount codePoint) 1
    let regionalIndicatorSymbolCount :=
      if unicode.isRegionalIndicatorSymbol codePoint then regionalIndicatorSymbolCount + 1
      else regionalIndicatorSymbolCount
    if regionalIndicatorSymbolCount % 2 == 0 then return offset - (deleteCharCount + 2 : Nat)
    else return offset - deleteCharCount
  -- Keycaps
  else if codePoint == COMBINING_ENCLOSING_KEYCAP then
    let codePoint ← codePointBefore text lastOffset
    let lastOffset := lastOffset - charCount codePoint
    if lastOffset > 0 && unicode.isVariationSelector codePoint then
      let tmpCodePoint ← codePointBefore text lastOffset
      if isKeycapBase tmpCodePoint then
        return offset - (deleteCharCount + (charCount codePoint + charCount tmpCodePoint) : Nat)
      else return offset - deleteCharCount
    else if isKeycapBase codePoint then return offset - (deleteCharCount + charCount codePoint : Nat)
    else return offset - deleteCharCount
  -- Emoji Tag Sequence
  else if codePoint == CANCEL_TAG then
    let scan ← { codePoint, offset := lastOffset, count := deleteCharCount : Scan }.back text
    let scan ← tagsBefore text (text.length + 1) scan
    -- tag_base not found. Just delete the end.
    if !unicode.isEmoji scan.codePoint then return offset - 2
    let count ← variationBefore unicode text scan.counted
    return offset - count
  else
    let count ← variationBefore unicode text
      { codePoint, offset := lastOffset, count := deleteCharCount }
    return offset - count

/-! ## Forward -/

/-- How many regional indicator symbols lie right before an offset. -/
def regionalIndicatorsEndingAt : (fuel : Nat) → (regionOffset : Int) →
    (regionalIndicatorSymbolCount : Nat) → Except TextError Nat
  | 0, _, _ => .error .outOfFuel
  | fuel + 1, regionOffset, regionalIndicatorSymbolCount =>
    if regionOffset > 0 then do
      let codePoint ← codePointBefore text regionOffset
      if unicode.isRegionalIndicatorSymbol codePoint then
        regionalIndicatorsEndingAt fuel (regionOffset - charCount codePoint)
          (regionalIndicatorSymbolCount + 1)
      else return regionalIndicatorSymbolCount
    else return regionalIndicatorSymbolCount

/-- The code units from a keycap on, which the scan has just moved behind. -/
def keycapAfter (scan : Scan) : Except TextError Nat := do
  let codePoint ← codePointBefore text scan.offset
  let nextOffset := scan.offset + charCount codePoint
  if nextOffset < text.length && unicode.isVariationSelector codePoint then
    let tmpCodePoint ← codePointAt text nextOffset
    if isKeycapBase tmpCodePoint then
      return scan.count + (charCount codePoint + charCount tmpCodePoint)
    else return scan.count
  else if isKeycapBase codePoint then return scan.count + charCount codePoint
  else return scan.count

/-- A joiner that was just read, with what it joins. -/
def joinerAfter (scan : Scan) : Except TextError Scan := do
  let scan ← { scan with isZwj := true }.forth text
  if scan.offset < (text.length : Int) && unicode.isVariationSelector scan.codePoint then
    let scan ← scan.forth text
    return scan.seenSelector
  else return scan

/-- The check before the condition of the emoji loop. -/
def endOfText (scan : Scan) : Jump :=
  if scan.offset ≥ text.length then .leave scan else .condition scan

/-- One iteration of the emoji loop of `getOffsetAfter`. -/
def emojiAfter (scan : Scan) : Except TextError Jump := do
  let scan := if scan.isZwj then scan.joined else scan
  let scan := { scan with lastSeenVariantSelectorCharCount := 0 }
  if unicode.isEmojiModifier scan.codePoint then return .leave scan
  else if scan.offset < text.length then
    let scan ← scan.forth text
    if scan.codePoint == COMBINING_ENCLOSING_KEYCAP then
      return .finish (← keycapAfter unicode text scan)
    else if unicode.isEmojiModifier scan.codePoint then return .leave scan.counted
    else if unicode.isVariationSelector scan.codePoint then return .leave scan.counted
    else if scan.codePoint == ZERO_WIDTH_JOINER then
      let scan ← joinerAfter unicode text scan
      return endOfText text scan
    else return endOfText text scan
  else return endOfText text scan

/-- The code units behind the emoji loop. -/
def emojisAfter : (fuel : Nat) → Scan → Except TextError Nat
  | 0, _ => .error .outOfFuel
  | fuel + 1, scan => do
      let leave (scan : Scan) :=
        if scan.isZwj && scan.offset ≥ text.length then scan.joined.count else scan.count
      match ← emojiAfter unicode text scan with
      | .condition scan =>
        if scan.isZwj && unicode.isEmoji scan.codePoint then emojisAfter fuel scan
        else return leave scan
      | .leave scan => return leave scan
      | .finish count => return count

def getOffsetAfter (offset : Int) : Except TextError Int := do
  let len : Int := text.length
  if offset ≥ len - 1 then return len
  let codePoint ← codePointAt text offset
  let nextCharCount := charCount codePoint
  let nextOffset := offset + nextCharCount
  if nextOffset == 0 then return 0
  -- Line Feed
  if codePoint == LINE_FEED then
    let codePoint ← codePointAt text nextOffset
    if codePoint == CARRIAGE_RETURN then return offset + (nextCharCount + 1 : Nat)
    else return offset + nextCharCount
  -- Flags
  else if unicode.isRegionalIndicatorSymbol codePoint then
    if nextOffset ≥ len - 1 then return offset + nextCharCount
    let second ← codePointAt text nextOffset
    if !unicode.isRegionalIndicatorSymbol second then return offset + nextCharCount
    let regionalIndicatorSymbolCount ← regionalIndicatorsEndingAt unicode text (text.length + 1)
      offset 0
    if regionalIndicatorSymbolCount % 2 == 0 then return offset + (nextCharCount + 2 : Nat)
    else return offset + nextCharCount
  else
    -- Keycaps
    let nextCharCount :=
      if isKeycapBase codePoint then nextCharCount + charCount codePoint else nextCharCount
    let scan : Scan := { codePoint, offset := nextOffset, count := nextCharCount }
    if codePoint == COMBINING_ENCLOSING_KEYCAP then
      return offset + (← keycapAfter unicode text scan)
    else if unicode.isEmoji codePoint then
      return offset + (← emojisAfter unicode text (text.length + 1) scan)
    else return offset + nextCharCount

end FlutterTextUtils

end FlutterEngine.Ohos
