import FlutterEngine.WebText.LayoutFragmenter

/-!
# Lines

`layout_service.dart`: the measuring of fragments, the builder of one line and the loop of
`performLayout`, without a maximum of lines and without an ellipsis. Widths are exact. Heights
are left out: nothing that decides where a line ends reads them. An assertion that fails, or a
list that is read outside of it, gives no result.
-/

namespace FlutterEngine.WebText

open FlutterEngine.Std

variable {Style Width : Type} [AddCommGroup Width] [LinearOrder Width]

/-! ## Measuring -/

/-- `measureSubstring` in the style of a span: the widths of the code units, with the letter
spacing, add up. -/
structure Spanometer (Style Width : Type) [AddCommGroup Width] [LinearOrder Width] where
  measure : ParagraphSpan Style Width → Nat → Nat → Width
  additive : ∀ span start middle stop, start ≤ middle → middle ≤ stop →
    measure span start stop = measure span start middle + measure span middle stop
  nonneg : ∀ span start stop, 0 ≤ measure span start stop

namespace Spanometer

variable (spanometer : Spanometer Style Width) (fragment : LayoutFragment Style Width)

def widthExcludingTrailingSpaces : Width :=
  match fragment.span.placeholder with
  | some width => width
  | none =>
    spanometer.measure fragment.span fragment.start (fragment.stop - fragment.trailingSpaces)

def widthIncludingTrailingSpaces : Width :=
  match fragment.span.placeholder with
  | some width => width
  | none =>
    spanometer.measure fragment.span fragment.start (fragment.stop - fragment.trailingNewlines)

/-- What `_measure` asserts of a range. -/
def isWithin (span : ParagraphSpan Style Width) (start stop : Nat) : Bool :=
  span.start ≤ start && start ≤ span.stop && span.start ≤ stop && stop ≤ span.stop &&
    start ≤ stop

/-- Whether the assertions of `measureFragment` hold. -/
def canMeasure (fragment : LayoutFragment Style Width) : Bool :=
  fragment.isPlaceholder ||
    (isWithin fragment.span fragment.start (fragment.stop - fragment.trailingSpaces) &&
      isWithin fragment.span fragment.start (fragment.stop - fragment.trailingNewlines))

/-- The loop of `forceBreak`. -/
def breakWithin (span : ParagraphSpan Style Width) (start : Nat) (availableWidth : WithTop Width)
    (low high : Nat) : Nat :=
  if 1 < high - low then
    let mid := (low + high) / 2
    let width := spanometer.measure span start mid
    if (width : WithTop Width) < availableWidth then
      breakWithin span start availableWidth mid high
    else if availableWidth < (width : WithTop Width) then
      breakWithin span start availableWidth low mid
    else mid
  else low
termination_by high - low

def forceBreak (span : ParagraphSpan Style Width) (start stop : Nat)
    (availableWidth : WithTop Width) (allowEmpty : Bool) : Option Nat :=
  if isWithin span start stop then
    if availableWidth ≤ 0 then some (if allowEmpty then start else start + 1)
    else
      let low := spanometer.breakWithin span start availableWidth start stop
      some (if low = start && !allowEmpty then low + 1 else low)
  else none

end Spanometer

/-! ## The builder of a line -/

structure LineMetrics (Width : Type) [Zero Width] where
  width : Width := 0
  widthIncludingSpace : Width := 0
  lastBreakableFragment : Int := -1
  breakCount : Nat := 0
  spaceCount : Nat := 0
  trailingSpaces : Nat := 0

structure ParagraphLine (Style Width : Type) where
  lineNumber : Nat
  startIndex : Nat
  endIndex : Nat
  trailingNewlines : Nat
  trailingSpaces : Nat
  spaceCount : Nat
  hardBreak : Bool
  width : Width
  widthWithTrailingSpaces : Width
  fragments : List (LayoutFragment Style Width)

instance : Ranged (ParagraphLine Style Width) :=
  ⟨ParagraphLine.startIndex, ParagraphLine.endIndex⟩

structure LineBuilder (Style Width : Type) [Zero Width] where
  maxWidth : WithTop Width
  lineNumber : Nat := 0
  fragments : List (LayoutFragment Style Width) := []
  fragmentsForNextLine : Option (List (LayoutFragment Style Width)) := none
  metrics : LineMetrics Width := {}

/-- `_updateMetrics`. -/
def LineMetrics.update (metrics : LineMetrics Width) (spanometer : Spanometer Style Width)
    (fragment : LayoutFragment Style Width) : LineMetrics Width :=
  { metrics with
    spaceCount := metrics.spaceCount + fragment.trailingSpaces
    trailingSpaces :=
      if fragment.isSpaceOnly then metrics.trailingSpaces + fragment.trailingSpaces
      else fragment.trailingSpaces
    width :=
      if fragment.isSpaceOnly then metrics.width
      else metrics.widthIncludingSpace + spanometer.widthExcludingTrailingSpaces fragment
    widthIncludingSpace :=
      metrics.widthIncludingSpace + spanometer.widthIncludingTrailingSpaces fragment
    breakCount := if fragment.isBreak then metrics.breakCount + 1 else metrics.breakCount }

/-- A fragment at an index is counted. -/
def LineMetrics.add (spanometer : Spanometer Style Width) (metrics : LineMetrics Width)
    (fragment : LayoutFragment Style Width) (index : Nat) : LineMetrics Width :=
  let updated := metrics.update spanometer fragment
  if fragment.isBreak then { updated with lastBreakableFragment := index } else updated

namespace LineBuilder

variable (spanometer : Spanometer Style Width) (builder : LineBuilder Style Width)

/-- `_recalculateMetrics`. -/
def recalculateMetrics : LineBuilder Style Width :=
  { builder with
    metrics := builder.fragments.zipIdx.foldl
      (fun metrics (fragment, index) => metrics.add spanometer fragment index) {} }

def startIndex : Option Nat :=
  match builder.fragments.head? with
  | some first => some first.start
  | none => (builder.fragmentsForNextLine.getD []).head?.map LayoutFragment.start

def endIndex : Option Nat :=
  match builder.fragments.getLast? with
  | some last => some last.stop
  | none => (builder.fragmentsForNextLine.getD []).head?.map LayoutFragment.start

def isBreakable : Bool :=
  match builder.fragments.getLast? with
  | none => false
  | some last =>
    if last.isBreak then 1 < builder.metrics.breakCount else 0 < builder.metrics.breakCount

def isHardBreak : Bool := builder.fragments.getLast?.any LayoutFragment.isHardBreak

def isOverflowing : Bool := builder.maxWidth < (builder.metrics.width : WithTop Width)

def canAppendEmptyFragments : Bool :=
  if builder.isHardBreak then false
  else if builder.fragmentsForNextLine.any fun next => !next.isEmpty then false
  else true

def addFragment (fragment : LayoutFragment Style Width) : LineBuilder Style Width :=
  { builder with
    fragments := builder.fragments ++ [fragment]
    metrics := builder.metrics.add spanometer fragment builder.fragments.length }

/-- What is left of a fragment that has been split is measured, first in the line, then in the
next one. -/
def addSplit (fragmentsForNextLine : List (LayoutFragment Style Width))
    (split : Option (LayoutFragment Style Width) × Option (LayoutFragment Style Width)) :
    Option (LineBuilder Style Width) :=
  if split.1.all Spanometer.canMeasure && split.2.all Spanometer.canMeasure then
    let added :=
      match split.1 with
      | none => builder
      | some first => builder.addFragment spanometer first
    some
      { added with
        fragmentsForNextLine := some (split.2.toList ++ fragmentsForNextLine) }
  else none

def forceBreakLastFragment (availableWidth : WithTop Width) (allowEmptyLine : Bool) :
    Option (LineBuilder Style Width) :=
  match builder.fragments.getLast? with
  | none => none
  | some lastFragment =>
    if availableWidth < (builder.metrics.widthIncludingSpace : WithTop Width) then
      let fragmentsForNextLine := builder.fragmentsForNextLine.getD []
      let prepared := { builder with fragmentsForNextLine := some fragmentsForNextLine }
      let hasOtherFragments := decide (1 < builder.fragments.length)
      let allowLastFragmentToBeEmpty := hasOtherFragments || allowEmptyLine
      let removed :=
        { prepared with fragments := builder.fragments.dropLast }.recalculateMetrics spanometer
      if lastFragment.isPlaceholder then
        if allowLastFragmentToBeEmpty then
          some { removed with
            fragmentsForNextLine := some (lastFragment :: fragmentsForNextLine) }
        else some prepared
      else
        let lineWidthWithoutLastFragment := builder.metrics.widthIncludingSpace -
          spanometer.widthIncludingTrailingSpaces lastFragment
        let availableWidthForFragment :=
          availableWidth.map fun width => width - lineWidthWithoutLastFragment
        let forceBreakEnd := lastFragment.stop - lastFragment.trailingNewlines
        match spanometer.forceBreak lastFragment.span lastFragment.start forceBreakEnd
            availableWidthForFragment allowLastFragmentToBeEmpty with
        | none => none
        | some breakingPoint =>
          if breakingPoint = forceBreakEnd then some prepared
          else if lastFragment.start ≤ breakingPoint && breakingPoint ≤ lastFragment.stop then
            removed.addSplit spanometer fragmentsForNextLine
              (lastFragment.split breakingPoint)
          else none
    else none

/-- The search of `revertToLastBreakOpportunity`, from below an index. -/
def lastBreakBelow (fragments : List (LayoutFragment Style Width)) : Nat → Option Nat
  | 0 => none
  | i + 1 =>
    if fragments[i]?.any LayoutFragment.isBreak then some i else lastBreakBelow fragments i

def revertToLastBreakOpportunity : Option (LineBuilder Style Width) :=
  if builder.isBreakable then
    match lastBreakBelow builder.fragments (builder.fragments.length - 1) with
    | none => none
    | some i =>
      some ({ builder with
        fragmentsForNextLine := some (builder.fragments.drop (i + 1))
        fragments := builder.fragments.take (i + 1) }.recalculateMetrics spanometer)
  else none

/-- `appendZeroWidthFragments` over the fragments from `startFrom` on; the number is that of the
fragments that were appended. -/
def appendZeroWidthFragments (builder : LineBuilder Style Width) :
    List (LayoutFragment Style Width) → LineBuilder Style Width × Nat
  | [] => (builder, 0)
  | fragment :: fragments =>
    if builder.canAppendEmptyFragments &&
        spanometer.widthExcludingTrailingSpaces fragment = 0 then
      let appended := appendZeroWidthFragments (builder.addFragment spanometer fragment) fragments
      (appended.1, appended.2 + 1)
    else (builder, 0)

/-- The line, and what the builder keeps for `nextLine`. -/
def build : Option (ParagraphLine Style Width × LineBuilder Style Width) :=
  let lineLength := (builder.metrics.lastBreakableFragment + 1).toNat
  let built :=
    match builder.fragmentsForNextLine with
    | some _ => builder
    | none =>
      { builder with
        fragmentsForNextLine := some (builder.fragments.drop lineLength)
        fragments := builder.fragments.take lineLength }
  let trailingNewlines := (built.fragments.getLast?.map LayoutFragment.trailingNewlines).getD 0
  match built.startIndex, built.endIndex with
  | some startIndex, some endIndex =>
    if trailingNewlines ≤ endIndex - startIndex then
      some
        ({ lineNumber := built.lineNumber
           startIndex := startIndex
           endIndex := endIndex
           trailingNewlines := trailingNewlines
           trailingSpaces := built.metrics.trailingSpaces
           spaceCount := built.metrics.spaceCount
           hardBreak := built.isHardBreak
           width := built.metrics.width
           widthWithTrailingSpaces := built.metrics.widthIncludingSpace
           fragments := built.fragments }, built)
    else none
  | _, _ => none

def nextLine : LineBuilder Style Width :=
  { maxWidth := builder.maxWidth
    lineNumber := builder.lineNumber + 1
    fragments := builder.fragmentsForNextLine.getD [] : LineBuilder Style Width
    }.recalculateMetrics spanometer

end LineBuilder

/-! ## The layout -/

/-- The variables of `performLayout`. -/
structure TextLayout (Style Width : Type) [Zero Width] where
  lines : List (ParagraphLine Style Width) := []
  currentLine : LineBuilder Style Width
  i : Nat := 0

namespace TextLayout

variable (spanometer : Spanometer Style Width) (fragments : List (LayoutFragment Style Width))

/-- The current line is built, and the next one begins. -/
def buildLine (layout : TextLayout Style Width) : Option (TextLayout Style Width) :=
  layout.currentLine.build.map fun (line, built) =>
    { layout with lines := layout.lines ++ [line], currentLine := built.nextLine spanometer }

/-- What the inner loop does to a line that overflows. -/
def breakLine (layout : TextLayout Style Width) : Option (TextLayout Style Width) :=
  let broken :=
    if layout.currentLine.isBreakable then
      layout.currentLine.revertToLastBreakOpportunity spanometer
    else
      layout.currentLine.forceBreakLastFragment spanometer layout.currentLine.maxWidth false
  broken.bind fun line =>
    let appended := line.appendZeroWidthFragments spanometer (fragments.drop (layout.i + 1))
    buildLine spanometer
      { layout with currentLine := appended.1, i := layout.i + appended.2 }

/-- The inner loop, for as many rounds as it is given. -/
def breakLines : Nat → TextLayout Style Width → Option (TextLayout Style Width)
  | 0, _ => none
  | fuel + 1, layout =>
    if layout.currentLine.isOverflowing then
      (breakLine spanometer fragments layout).bind (breakLines fuel)
    else some layout

/-- The outer loop; the index grows in each round. -/
def addFragments (fuel : Nat) : Nat → TextLayout Style Width → Option (TextLayout Style Width)
  | 0, layout => some layout
  | rounds + 1, layout =>
    match fragments[layout.i]? with
    | none => some layout
    | some fragment =>
      let added :=
        { layout with currentLine := layout.currentLine.addFragment spanometer fragment }
      (breakLines spanometer fragments fuel added).bind fun broken =>
        let built :=
          if broken.currentLine.isHardBreak then buildLine spanometer broken else some broken
        built.bind fun layout => addFragments fuel rounds { layout with i := layout.i + 1 }

end TextLayout

/-- `performLayout`: the lines of the fragments of a text. -/
def performLayout (spanometer : Spanometer Style Width) (width : WithTop Width)
    (fragments : List (LayoutFragment Style Width)) (fuel : Nat) :
    Option (List (ParagraphLine Style Width)) :=
  if fragments.all Spanometer.canMeasure then
    (TextLayout.addFragments spanometer fragments fuel fragments.length
      { currentLine := { maxWidth := width } }).map TextLayout.lines
  else none

end FlutterEngine.WebText
