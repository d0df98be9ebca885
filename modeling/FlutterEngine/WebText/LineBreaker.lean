import FlutterEngine.Std.Tilings
import FlutterEngine.WebText.UnicodeRange

/-!
# Line breaks

`line_breaker.dart`: the two fragmenters that split a text at its line breaks. The table of
`lineLookup` is a parameter, and so are the boundaries of `Intl.v8BreakIterator`.
-/

namespace FlutterEngine.WebText

open FlutterEngine.Std

inductive LineBreakType where
  | opportunity
  | prohibited
  | mandatory
  | endOfText
deriving DecidableEq, Repr

structure LineBreakFragment where
  start : Nat
  stop : Nat
  type : LineBreakType
  trailingNewlines : Nat
  trailingSpaces : Nat
deriving DecidableEq, Repr

instance : Ranged LineBreakFragment := ⟨LineBreakFragment.start, LineBreakFragment.stop⟩

/-! ## The fragmenter of V8 -/

/-- `_kNewlines`. -/
def isNewline (codeUnit : UInt16) : Bool :=
  codeUnit ∈ [0x000A, 0x000B, 0x000C, 0x000D, 0x0085, 0x2028, 0x2029]

/-- `_kSpaces`. -/
def isSpace (codeUnit : UInt16) : Bool := codeUnit ∈ [0x0020, 0x200B]

/-- What the iterator of a text answers to `next`, until it answers -1. -/
structure V8BreakIterator where
  boundaries : DartString → List Nat
  increasing : ∀ text, (0 :: boundaries text).Pairwise (· < ·)
  ends : ∀ text, (0 :: boundaries text).getLast (List.cons_ne_nil _ _) = text.length
  wellFormed : ∀ chars, ∀ boundary ∈ boundaries (Utf16.encode chars),
    Utf16.IsBoundary chars boundary

namespace V8

/-- What the inner loop of `breakLinesUsingV8BreakIterator` keeps. -/
structure Scan where
  breaks : List LineBreakFragment := []
  fragmentStart : Nat := 0
  trailingNewlines : Nat := 0
  trailingSpaces : Nat := 0

/-- One code unit. -/
def scan (text : DartString) (scanned : Scan) (i : Nat) : Scan :=
  match text[i]? with
  | none => scanned
  | some codeUnit =>
    if isNewline codeUnit then
      { scanned with
        trailingNewlines := scanned.trailingNewlines + 1
        trailingSpaces := scanned.trailingSpaces + 1 }
    else if isSpace codeUnit then
      { scanned with trailingSpaces := scanned.trailingSpaces + 1 }
    else if 0 < scanned.trailingSpaces then
      { breaks := scanned.breaks ++ [⟨scanned.fragmentStart, i, .opportunity,
          scanned.trailingNewlines, scanned.trailingSpaces⟩]
        fragmentStart := i }
    else scanned

/-- The code units up to a boundary. -/
def upTo (text : DartString) (scanned : Scan) (fragmentEnd : Nat) : Scan :=
  (List.range' scanned.fragmentStart (fragmentEnd - scanned.fragmentStart)).foldl (scan text)
    { scanned with trailingNewlines := 0, trailingSpaces := 0 }

/-- The outer loop: the next boundary. -/
def next (text : DartString) (scanned : Scan) (fragmentEnd : Nat) : Scan :=
  let scanned := upTo text scanned fragmentEnd
  let type : LineBreakType :=
    if 0 < scanned.trailingNewlines then .mandatory
    else if fragmentEnd = text.length then .endOfText
    else .opportunity
  { breaks := scanned.breaks ++ [⟨scanned.fragmentStart, fragmentEnd, type,
      scanned.trailingNewlines, scanned.trailingSpaces⟩]
    fragmentStart := fragmentEnd }

end V8

def breakLinesUsingV8BreakIterator (iterator : V8BreakIterator) (text : DartString) :
    List LineBreakFragment :=
  let breaks := ((iterator.boundaries text).foldl (V8.next text) {}).breaks
  if breaks.getLast?.all fun last => last.type = .mandatory then
    breaks ++ [⟨text.length, text.length, .endOfText, 0, 0⟩]
  else breaks

/-! ## The fragmenter of Flutter -/

inductive LineCharProperty where
  | CM | BA | LF | BK | CR | SP | EX | QU | AL | PR | PO | OP | CP | IS | HY | SY | NU | CL | GL
  | BB | HL | JL | JV | JT | NS | ZW | ZWJ | B2 | IN | WJ | ID | EB | H2 | H3 | CB | RI | EM
deriving DecidableEq, Repr

abbrev LineLookup : Type := List (UnicodeRange LineCharProperty)

/-- `lineLookup`, with the default of `web_unicode`. -/
def LineLookup.property (ranges : LineLookup) (codePoint : Option Nat) : LineCharProperty :=
  UnicodePropertyLookup.findForChar ⟨ranges, .AL⟩ codePoint

def isHardBreak (prop : Option LineCharProperty) : Bool := prop = some .LF || prop = some .BK

def isALorHL (prop : Option LineCharProperty) : Bool := prop = some .AL || prop = some .HL

def isKoreanSyllable (prop : Option LineCharProperty) : Bool :=
  prop = some .JL || prop = some .JV || prop = some .JT || prop = some .H2 || prop = some .H3

def hasEastAsianWidthFWH (charCode : UInt16) : Bool :=
  charCode = 0x2329 || (0x3008 ≤ charCode && charCode ≤ 0x301D) ||
    (0xFE17 ≤ charCode && charCode ≤ 0xFF62)

def isSurrogatePair (codePoint : Option Nat) : Bool := codePoint.any fun value => 0xFFFF < value

/-- The variables of `_computeLineBreakFragments`. -/
structure LineBreaker where
  fragments : List LineBreakFragment := []
  prev2 : Option LineCharProperty := none
  prev1 : Option LineCharProperty := none
  codePoint : Option Nat
  curr : LineCharProperty
  baseOfCombiningMarks : LineCharProperty := .AL
  index : Nat := 0
  trailingNewlines : Nat := 0
  trailingSpaces : Nat := 0
  fragmentStart : Nat := 0
  regionalIndicatorCount : Int := 0

namespace LineBreaker

variable (text : DartString) (lineLookup : LineLookup) (state : LineBreaker)

/-- The first part of `setBreak`: the character before the break is counted. -/
def count : LineBreaker :=
  if state.prev1 = some .SP then { state with trailingSpaces := state.trailingSpaces + 1 }
  else if isHardBreak state.prev1 || state.prev1 = some .CR then
    { state with
      trailingNewlines := state.trailingNewlines + 1
      trailingSpaces := state.trailingSpaces + 1 }
  else state

def setBreak (type : LineBreakType) : LineBreaker :=
  let fragmentEnd := if type = .endOfText then text.length else state.index
  let counted := state.count
  if type = .prohibited then counted
  else
    { counted with
      fragments := counted.fragments ++ [⟨counted.fragmentStart, fragmentEnd, type,
        counted.trailingNewlines, counted.trailingSpaces⟩]
      fragmentStart := counted.index
      trailingNewlines := 0
      trailingSpaces := 0
      prev1 := none
      prev2 := none }

/-- LB7 to LB8a. -/
def spaceRule : Option LineBreakType :=
  if state.curr = .SP || state.curr = .ZW then some .prohibited
  else if state.prev1 = some .SP then some .opportunity
  else if state.prev1 = some .ZW then some .opportunity
  else if state.prev1 = some .ZWJ then some .prohibited
  else none

/-- LB11 to LB31, of the two characters before the index and the one after it. -/
def pairRule (prev2 prev1 : Option LineCharProperty) (curr : LineCharProperty) (index : Nat)
    (regionalIndicatorCount : Int) : LineBreakType :=
  let isWide (index : Nat) : Bool := (text[index]?).any hasEastAsianWidthFWH
  if curr = .WJ || prev1 = some .WJ then .prohibited
  else if prev1 = some .GL then .prohibited
  else if !(prev1 = some .SP || prev1 = some .BA || prev1 = some .HY) && curr = .GL then
    .prohibited
  else if prev1 ≠ some .SP &&
      (curr = .CL || curr = .CP || curr = .EX || curr = .IS || curr = .SY) then .prohibited
  else if prev1 = some .OP then .prohibited
  else if prev1 = some .QU && curr = .OP then .prohibited
  else if (prev1 = some .CL || prev1 = some .CP) && curr = .NS then .prohibited
  else if prev1 = some .B2 && curr = .B2 then .prohibited
  else if prev1 = some .QU || curr = .QU then .prohibited
  else if prev1 = some .CB || curr = .CB then .opportunity
  else if curr = .BA || curr = .HY || curr = .NS || prev1 = some .BB then .prohibited
  else if prev2 = some .HL && (prev1 = some .HY || prev1 = some .BA) then .prohibited
  else if prev1 = some .SY && curr = .HL then .prohibited
  else if curr = .IN then .prohibited
  else if (isALorHL prev1 && curr = .NU) || (prev1 = some .NU && isALorHL (some curr)) then
    .prohibited
  else if prev1 = some .PR && (curr = .ID || curr = .EB || curr = .EM) then .prohibited
  else if (prev1 = some .ID || prev1 = some .EB || prev1 = some .EM) && curr = .PO then
    .prohibited
  else if (prev1 = some .PR || prev1 = some .PO) && isALorHL (some curr) then .prohibited
  else if isALorHL prev1 && (curr = .PR || curr = .PO) then .prohibited
  else if (prev1 = some .CL || prev1 = some .CP || prev1 = some .NU) &&
      (curr = .PO || curr = .PR) then .prohibited
  else if (prev1 = some .PO || prev1 = some .PR) && curr = .OP then .prohibited
  else if (prev1 = some .PO || prev1 = some .PR || prev1 = some .HY || prev1 = some .IS ||
      prev1 = some .NU || prev1 = some .SY) && curr = .NU then .prohibited
  else if prev1 = some .JL && (curr = .JL || curr = .JV || curr = .H2 || curr = .H3) then
    .prohibited
  else if (prev1 = some .JV || prev1 = some .H2) && (curr = .JV || curr = .JT) then .prohibited
  else if (prev1 = some .JT || prev1 = some .H3) && curr = .JT then .prohibited
  else if isKoreanSyllable prev1 && curr = .PO then .prohibited
  else if prev1 = some .PR && isKoreanSyllable (some curr) then .prohibited
  else if isALorHL prev1 && isALorHL (some curr) then .prohibited
  else if prev1 = some .IS && isALorHL (some curr) then .prohibited
  else if (isALorHL prev1 || prev1 = some .NU) && curr = .OP && !isWide index then .prohibited
  else if prev1 = some .CP && !isWide (index - 1) && (isALorHL (some curr) || curr = .NU) then
    .prohibited
  else if curr = .RI then if regionalIndicatorCount % 2 ≠ 0 then .prohibited else .opportunity
  else if prev1 = some .EB && curr = .EM then .prohibited
  else .opportunity

/-- LB7 to LB31, with what LB9 and LB10 make of combining marks. -/
def breakByRules : LineBreaker :=
  match state.spaceRule with
  | some type => state.setBreak text type
  | none =>
    let based :=
      if state.prev1 ≠ some .CM && state.prev1 ≠ some .ZWJ then
        { state with baseOfCombiningMarks := state.prev1.getD .AL }
      else state
    let combines := based.curr = .CM || based.curr = .ZWJ
    if combines && based.baseOfCombiningMarks ≠ .SP then
      setBreak text
        { based with
          curr := based.baseOfCombiningMarks
          regionalIndicatorCount :=
            if based.baseOfCombiningMarks = .RI then based.regionalIndicatorCount - 1
            else based.regionalIndicatorCount }
        .prohibited
    else
      let resolved := if combines then { based with curr := .AL } else based
      let joined :=
        if resolved.prev1 = some .CM || resolved.prev1 = some .ZWJ then
          { resolved with prev1 := some resolved.baseOfCombiningMarks }
        else resolved
      joined.setBreak text (pairRule text joined.prev2 joined.prev1 joined.curr joined.index
        joined.regionalIndicatorCount)

/-- The body of the loop up to LB3: the next character is read. -/
def read : LineBreaker :=
  let shifted := { state with prev2 := state.prev1, prev1 := some state.curr }
  let skipped :=
    if isSurrogatePair shifted.codePoint then
      let prohibited := shifted.setBreak text .prohibited
      { prohibited with index := prohibited.index + 1 }
    else shifted
  { skipped with
    codePoint := getCodePoint text skipped.index
    curr := lineLookup.property (getCodePoint text skipped.index)
    regionalIndicatorCount :=
      if skipped.prev1 = some .RI then skipped.regionalIndicatorCount + 1 else 0 }

/-- The rest of the body; the flag tells that the loop is left. -/
def breakAt : LineBreaker × Bool :=
  if isHardBreak state.prev1 then (state.setBreak text .mandatory, false)
  else if state.prev1 = some .CR then
    (state.setBreak text (if state.curr = .LF then .prohibited else .mandatory), false)
  else if isHardBreak (some state.curr) || state.curr = .CR then
    (state.setBreak text .prohibited, false)
  else if text.length ≤ state.index then (state, true)
  else (state.breakByRules text, false)

/-- The loop; the index grows in each round. -/
def run : LineBreaker → Nat → LineBreaker
  | state, 0 => state
  | state, rounds + 1 =>
    if text.length < state.index then state
    else
      let (next, leaves) := (state.read text lineLookup).breakAt text
      if leaves then next else run { next with index := next.index + 1 } rounds

/-- The state the loop begins with. -/
def begin : LineBreaker :=
  let initial : LineBreaker :=
    { codePoint := getCodePoint text 0, curr := lineLookup.property (getCodePoint text 0) }
  { initial.setBreak text .prohibited with index := 1 }

end LineBreaker

/-- `_computeLineBreakFragments`. -/
def computeLineBreakFragments (lineLookup : LineLookup) (text : DartString) :
    List LineBreakFragment :=
  (((LineBreaker.begin text lineLookup).run text lineLookup text.length).setBreak text
    .endOfText).fragments

/-! ## Which fragmenter -/

/-- The factory of `LineBreakFragmenter`: that of V8 where the browser has it. -/
inductive LineBreakFragmenter where
  | v8 (iterator : V8BreakIterator)
  | fw (lineLookup : LineLookup)

def LineBreakFragmenter.fragment (fragmenter : LineBreakFragmenter) (text : DartString) :
    List LineBreakFragment :=
  match fragmenter with
  | .v8 iterator => breakLinesUsingV8BreakIterator iterator text
  | .fw lineLookup => computeLineBreakFragments lineLookup text

end FlutterEngine.WebText
