import Mathlib.Data.List.Forall2
import FlutterEngine.DisplayList.DlOpRecords
import FlutterEngine.Std.LittleEndian

/-!
# Comparing display lists

`CompareOps` of `display_list.cc` and the `equals` methods of `dl_op_records.h`. Two
buffers are walked record by record. Most records are compared by their bytes, which is put
off so that a stretch of them takes a single `memcmp`.
-/

namespace FlutterEngine.DisplayList

open FlutterEngine.Std

/-- `FOR_EACH_DISPLAY_LIST_OP`. -/
inductive DisplayListOpType where
  | setAntiAlias | setInvertColors
  | setStrokeCap | setStrokeJoin
  | setStyle | setStrokeWidth | setStrokeMiter
  | setColor | setBlendMode
  | setPodPathEffect | clearPathEffect
  | clearColorFilter | setPodColorFilter
  | clearColorSource | setPodColorSource | setImageColorSource | setRuntimeEffectColorSource
  | clearImageFilter | setPodImageFilter | setSharedImageFilter
  | clearMaskFilter | setPodMaskFilter
  | save | saveLayer | saveLayerBackdrop | restore
  | translate | scale | rotate | skew
  | transform2DAffine | transformFullPerspective | transformReset
  | clipIntersectRect | clipIntersectRRect | clipIntersectPath
  | clipDifferenceRect | clipDifferenceRRect | clipDifferencePath
  | drawPaint | drawColor
  | drawLine | drawRect | drawOval | drawCircle | drawRRect | drawDRRect | drawArc | drawPath
  | drawPoints | drawLines | drawPolygon | drawVertices
  | drawImage | drawImageWithAttr | drawImageRect | drawImageNine | drawImageNineWithAttr
  | drawAtlas | drawAtlasCulled
  | drawDisplayList | drawTextBlob | drawTextFrame
  | drawShadow | drawShadowTransparentOccluder
deriving DecidableEq, Repr

variable {p : Payloads}

/-! ## The types of records -/

def AttributeOp.type : AttributeOp p → DisplayListOpType
  | setAntiAlias _ => .setAntiAlias
  | setInvertColors _ => .setInvertColors
  | setStrokeCap _ => .setStrokeCap
  | setStrokeJoin _ => .setStrokeJoin
  | setStyle _ => .setStyle
  | setStrokeWidth _ => .setStrokeWidth
  | setStrokeMiter _ => .setStrokeMiter
  | setColor _ => .setColor
  | setBlendMode _ => .setBlendMode
  | setPodPathEffect _ => .setPodPathEffect
  | clearPathEffect => .clearPathEffect
  | clearColorFilter => .clearColorFilter
  | setPodColorFilter _ => .setPodColorFilter
  | clearColorSource => .clearColorSource
  | setPodColorSource _ => .setPodColorSource
  | setImageColorSource _ => .setImageColorSource
  | setRuntimeEffectColorSource _ => .setRuntimeEffectColorSource
  | clearImageFilter => .clearImageFilter
  | setPodImageFilter _ => .setPodImageFilter
  | setSharedImageFilter _ => .setSharedImageFilter
  | clearMaskFilter => .clearMaskFilter
  | setPodMaskFilter _ => .setPodMaskFilter

def SaveOp.type : SaveOp p → DisplayListOpType
  | save => .save
  | saveLayer _ _ => .saveLayer
  | saveLayerBackdrop _ _ _ => .saveLayerBackdrop

def TransformCall.type : TransformCall p → DisplayListOpType
  | translate _ _ => .translate
  | scale _ _ => .scale
  | rotate _ => .rotate
  | skew _ _ => .skew
  | transform2DAffine _ _ _ _ _ _ => .transform2DAffine
  | transformFullPerspective _ _ _ _ _ _ _ _ _ _ _ _ _ _ _ _ => .transformFullPerspective
  | transformReset => .transformReset

def TransformClipOp.type : TransformClipOp p → DisplayListOpType
  | transform call => call.type
  | clipIntersectRect _ _ => .clipIntersectRect
  | clipIntersectRRect _ _ => .clipIntersectRRect
  | clipIntersectPath _ _ => .clipIntersectPath
  | clipDifferenceRect _ _ => .clipDifferenceRect
  | clipDifferenceRRect _ _ => .clipDifferenceRRect
  | clipDifferencePath _ _ => .clipDifferencePath

def DrawOp.type : DrawOp p → DisplayListOpType
  | drawPaint => .drawPaint
  | drawColor _ _ => .drawColor
  | drawLine _ _ => .drawLine
  | drawRect _ => .drawRect
  | drawOval _ => .drawOval
  | drawCircle _ _ => .drawCircle
  | drawRRect _ => .drawRRect
  | drawDRRect _ _ => .drawDRRect
  | drawPath _ => .drawPath
  | drawArc _ _ _ _ => .drawArc
  | drawPoints _ => .drawPoints
  | drawLines _ => .drawLines
  | drawPolygon _ => .drawPolygon
  | drawVertices _ _ => .drawVertices
  | drawImage _ _ _ => .drawImage
  | drawImageWithAttr _ _ _ => .drawImageWithAttr
  | drawImageRect _ _ _ _ _ _ => .drawImageRect
  | drawImageNine _ _ _ _ => .drawImageNine
  | drawImageNineWithAttr _ _ _ _ => .drawImageNineWithAttr
  | drawAtlas _ _ _ _ _ _ => .drawAtlas
  | drawAtlasCulled _ _ _ _ _ _ _ => .drawAtlasCulled
  | drawDisplayList _ _ => .drawDisplayList
  | drawTextBlob _ _ _ => .drawTextBlob
  | drawTextFrame _ _ _ => .drawTextFrame
  | drawShadow _ _ _ _ => .drawShadow
  | drawShadowTransparentOccluder _ _ _ _ => .drawShadowTransparentOccluder

def DLOp.type : DLOp p → DisplayListOpType
  | set op => op.type
  | save op _ => op.type
  | restore => .restore
  | transformClip op => op.type
  | draw op => op.type

/-! ## The `equals` methods -/

/-- `DisplayListCompare`. -/
inductive DisplayListCompare where
  | notEqual | useBulkCompare | equal
deriving DecidableEq, Repr

/-- What a record that compares itself returns. -/
def DisplayListCompare.ofBool (same : Bool) : DisplayListCompare :=
  if same then .equal else .notEqual

/-- The comparisons that the records make of what they hold. -/
structure OpContents (p : Payloads) where
  scalarEquals : p.Scalar → p.Scalar → Bool
  pathEquals : p.Path → p.Path → Bool
  imageEquals : p.Image → p.Image → Bool
  runtimeEffectEquals : p.RuntimeEffect → p.RuntimeEffect → Bool
  /-- `Equals` of `dl_comparable.h`. -/
  imageFilterEquals : p.ImageFilter → p.ImageFilter → Bool
  /-- `DisplayList::Equals`. -/
  nestedEquals : p.Nested → p.Nested → Bool
  /-- `memcmp` of the transforms and the texture rectangles of as many sprites. -/
  spritesEqual : List (p.RSXform × SkRect p.Scalar) → List (p.RSXform × SkRect p.Scalar) → Bool

namespace OpContents

variable (contents : OpContents p)

def pointEquals (point other : SkPoint p.Scalar) : Bool :=
  contents.scalarEquals point.fX other.fX && contents.scalarEquals point.fY other.fY

def rectEquals (rect other : SkRect p.Scalar) : Bool :=
  contents.scalarEquals rect.fLeft other.fLeft && contents.scalarEquals rect.fTop other.fTop &&
    contents.scalarEquals rect.fRight other.fRight &&
    contents.scalarEquals rect.fBottom other.fBottom

/-- `DrawAtlasBaseOp::equals`. Both records have the same size when it compares what lies
behind them. -/
def atlasEquals (atlas : p.Image) (sprites : List (p.RSXform × SkRect p.Scalar))
    (colors : Option (List DlColor)) (mode : DlBlendMode) (sampling : DlImageSampling)
    (renderWithAttributes : Bool) (otherAtlas : p.Image)
    (otherSprites : List (p.RSXform × SkRect p.Scalar)) (otherColors : Option (List DlColor))
    (otherMode : DlBlendMode) (otherSampling : DlImageSampling)
    (otherRenderWithAttributes : Bool) : Bool :=
  sprites.length == otherSprites.length && mode == otherMode &&
    colors.isSome == otherColors.isSome && renderWithAttributes == otherRenderWithAttributes &&
    sampling == otherSampling && contents.imageEquals atlas otherAtlas &&
    contents.spritesEqual sprites otherSprites && colors == otherColors

open DisplayListCompare in
/-- `equals` of two records of one type. -/
def equals : DLOp p → DLOp p → DisplayListCompare
  | .set (.setRuntimeEffectColorSource source), .set (.setRuntimeEffectColorSource other) =>
    ofBool (contents.runtimeEffectEquals source other)
  | .set (.setSharedImageFilter filter), .set (.setSharedImageFilter other) =>
    ofBool (contents.imageFilterEquals filter other)
  | .save (.saveLayerBackdrop options rect backdrop) _,
      .save (.saveLayerBackdrop otherOptions otherRect otherBackdrop) _ =>
      ofBool (options == otherOptions && contents.rectEquals rect otherRect &&
        contents.imageFilterEquals backdrop otherBackdrop)
  | .transformClip (.clipIntersectPath path isAA),
      .transformClip (.clipIntersectPath otherPath otherIsAA)
  | .transformClip (.clipDifferencePath path isAA),
      .transformClip (.clipDifferencePath otherPath otherIsAA) =>
      ofBool (isAA == otherIsAA && contents.pathEquals path otherPath)
  | .draw (.drawPath path), .draw (.drawPath other) => ofBool (contents.pathEquals path other)
  | .draw (.drawImage image point sampling),
      .draw (.drawImage otherImage otherPoint otherSampling)
  | .draw (.drawImageWithAttr image point sampling),
      .draw (.drawImageWithAttr otherImage otherPoint otherSampling) =>
      ofBool (contents.pointEquals point otherPoint && sampling == otherSampling &&
        contents.imageEquals image otherImage)
  | .draw (.drawImageRect image src dst sampling renderWithAttributes constraint),
      .draw (.drawImageRect otherImage otherSrc otherDst otherSampling
        otherRenderWithAttributes otherConstraint) =>
      ofBool (contents.rectEquals src otherSrc && contents.rectEquals dst otherDst &&
        sampling == otherSampling && renderWithAttributes == otherRenderWithAttributes &&
        constraint == otherConstraint && contents.imageEquals image otherImage)
  | .draw (.drawImageNine image center dst mode),
      .draw (.drawImageNine otherImage otherCenter otherDst otherMode)
  | .draw (.drawImageNineWithAttr image center dst mode),
      .draw (.drawImageNineWithAttr otherImage otherCenter otherDst otherMode) =>
      ofBool (center == otherCenter && contents.rectEquals dst otherDst && mode == otherMode &&
        contents.imageEquals image otherImage)
  | .draw (.drawAtlas atlas sprites colors mode sampling renderWithAttributes),
      .draw (.drawAtlas otherAtlas otherSprites otherColors otherMode otherSampling
        otherRenderWithAttributes) =>
      ofBool (contents.atlasEquals atlas sprites colors mode sampling renderWithAttributes
        otherAtlas otherSprites otherColors otherMode otherSampling otherRenderWithAttributes)
  | .draw (.drawAtlasCulled atlas sprites colors mode sampling cullRect renderWithAttributes),
      .draw (.drawAtlasCulled otherAtlas otherSprites otherColors otherMode otherSampling
        otherCullRect otherRenderWithAttributes) =>
      ofBool (contents.rectEquals cullRect otherCullRect &&
        contents.atlasEquals atlas sprites colors mode sampling renderWithAttributes
          otherAtlas otherSprites otherColors otherMode otherSampling otherRenderWithAttributes)
  | .draw (.drawDisplayList displayList opacity),
      .draw (.drawDisplayList otherDisplayList otherOpacity) =>
      ofBool (contents.scalarEquals opacity otherOpacity &&
        contents.nestedEquals displayList otherDisplayList)
  | .draw (.drawShadow path color elevation dpr),
      .draw (.drawShadow otherPath otherColor otherElevation otherDpr)
  | .draw (.drawShadowTransparentOccluder path color elevation dpr),
      .draw (.drawShadowTransparentOccluder otherPath otherColor otherElevation otherDpr) =>
      ofBool (color == otherColor && contents.scalarEquals elevation otherElevation &&
        contents.scalarEquals dpr otherDpr && contents.pathEquals path otherPath)
  | _, _ => useBulkCompare

end OpContents

/-! ## Buffers -/

/-- A record as it lies in memory. `Push` stores the number of its bytes in 24 bits, and
checks that it fits. -/
structure OpRecord (p : Payloads) where
  op : DLOp p
  bytes : List Byte
  sized : 0 < bytes.length ∧ bytes.length < 2 ^ 24

namespace OpRecord

variable (record : OpRecord p)

def type : DisplayListOpType := record.op.type

def size : Nat := record.bytes.length

end OpRecord

/-- The bytes of records that lie one behind the other. -/
def bytesOf (records : List (OpRecord p)) : List Byte := records.flatMap OpRecord.bytes

/-- A call of `memcmp`, with the offsets of what it compares. -/
structure Memcmp where
  startA : Nat
  startB : Nat
  count : Nat
deriving DecidableEq, Repr

/-- Whether it returns 0. -/
def Memcmp.same (call : Memcmp) (bytesA bytesB : List Byte) : Bool :=
  (bytesA.drop call.startA).take call.count == (bytesB.drop call.startB).take call.count

/-- The loop of `CompareOps` and what follows it, with the calls of `memcmp`. A pointer is
an offset, and the records from there on. -/
def compareFrom (equals : DLOp p → DLOp p → DisplayListCompare) (bytesA bytesB : List Byte) :
    List (OpRecord p) → List (OpRecord p) → (ptrA ptrB bulkStartA bulkStartB : Nat) →
      Bool × List Memcmp
  | opA :: restA, opB :: restB, ptrA, ptrB, bulkStartA, bulkStartB =>
    if opA.type ≠ opB.type ∨ opA.size ≠ opB.size then (false, [])
    else
      let nextA := ptrA + opA.size
      let nextB := ptrB + opB.size
      match equals opA.op opB.op with
      | .notEqual => (false, [])
      | .useBulkCompare =>
        compareFrom equals bytesA bytesB restA restB nextA nextB bulkStartA bulkStartB
      | .equal =>
        let backlog : Memcmp := ⟨bulkStartA, bulkStartB, ptrA - bulkStartA⟩
        if 0 < backlog.count then
          if backlog.same bytesA bytesB then
            let (result, calls) :=
              compareFrom equals bytesA bytesB restA restB nextA nextB nextA nextB
            (result, backlog :: calls)
          else (false, [backlog])
        else compareFrom equals bytesA bytesB restA restB nextA nextB nextA nextB
  | [], [], ptrA, _, bulkStartA, bulkStartB =>
    if bulkStartA < ptrA then
      let backlog : Memcmp := ⟨bulkStartA, bulkStartB, ptrA - bulkStartA⟩
      (backlog.same bytesA bytesB, [backlog])
    else (true, [])
  | _, _, _, _, _, _ => (false, [])

/-- `CompareOps`, with its calls of `memcmp`. -/
def compareOps (contents : OpContents p) (a b : List (OpRecord p)) : Bool × List Memcmp :=
  compareFrom contents.equals (bytesOf a) (bytesOf b) a b 0 0 0 0

/-! ## What it decides -/

section Comparing

variable (equals : DLOp p → DLOp p → DisplayListCompare)

/-- The records have one type and one size. -/
def OpRecord.Alike (record other : OpRecord p) : Prop :=
  record.type = other.type ∧ record.size = other.size

/-- They are alike and ask for a comparison of their bytes. -/
def OpRecord.AskBulk (record other : OpRecord p) : Prop :=
  record.Alike other ∧ equals record.op other.op = .useBulkCompare

/-- They are alike, and equal by their own comparison or, where it asks for that, by their
bytes. -/
def OpRecord.Matches (record other : OpRecord p) : Prop :=
  record.Alike other ∧ (equals record.op other.op = .equal ∨
    equals record.op other.op = .useBulkCompare ∧ record.bytes = other.bytes)

/-- The call compares a stretch of records that ask for it, each of them whole. -/
def Memcmp.ComparesStretch (a b : List (OpRecord p)) (call : Memcmp) : Prop :=
  ∃ beforeA stretchA afterA beforeB stretchB afterB,
    a = beforeA ++ stretchA ++ afterA ∧ b = beforeB ++ stretchB ++ afterB ∧
    beforeA.length = beforeB.length ∧ stretchA ≠ [] ∧
    List.Forall₂ (OpRecord.AskBulk equals) stretchA stretchB ∧
    call.startA = (bytesOf beforeA).length ∧ call.startB = (bytesOf beforeB).length ∧
    call.count = (bytesOf stretchA).length ∧ call.count = (bytesOf stretchB).length

/-- From the record of this index on, each call compares a stretch of records and starts
behind what the one before it compared; and when the result is true, every record that asks
for it lies in what is compared. -/
structure BulkCompares (a b : List (OpRecord p)) (first : Nat) (result : Bool × List Memcmp) :
    Prop where
  stretches : ∀ call ∈ result.2, call.ComparesStretch equals a b
  later : ∀ call ∈ result.2, (bytesOf (a.take first)).length ≤ call.startA
  apart : result.2.Pairwise fun call next => call.startA + call.count < next.startA
  covers : result.1 = true → ∀ index opA opB, first ≤ index → a[index]? = some opA →
    b[index]? = some opB → opA.AskBulk equals opB → ∃ call ∈ result.2,
      call.startA ≤ (bytesOf (a.take index)).length ∧
        (bytesOf (a.take index)).length + opA.size ≤ call.startA + call.count

end Comparing

theorem OpRecord.alike_iff {record other : OpRecord p} :
    record.Alike other ↔ ¬(record.type ≠ other.type ∨ record.size ≠ other.size) := by
  rw [Alike, not_or, not_not, not_not]

theorem length_bytesOf_append (records others : List (OpRecord p)) :
    (bytesOf (records ++ others)).length = (bytesOf records).length + (bytesOf others).length := by
  simp [bytesOf]

theorem bytesOf_append (records others : List (OpRecord p)) :
    bytesOf (records ++ others) = bytesOf records ++ bytesOf others := List.flatMap_append

theorem bytesOf_singleton (record : OpRecord p) : bytesOf [record] = record.bytes := by
  simp [bytesOf]

theorem length_bytesOf_push (records : List (OpRecord p)) (record : OpRecord p) :
    (bytesOf (records ++ [record])).length = (bytesOf records).length + record.size := by
  rw [length_bytesOf_append, bytesOf_singleton, OpRecord.size]

theorem OpRecord.Alike.length_bytesOf {records others : List (OpRecord p)}
    (alike : List.Forall₂ OpRecord.Alike records others) :
    (bytesOf records).length = (bytesOf others).length := by
  induction alike with
  | nil => rfl
  | @cons record other records others first rest ih =>
    have size : record.bytes.length = other.bytes.length := first.2
    simp only [bytesOf, List.flatMap_cons, List.length_append] at ih ⊢
    rw [size, ih]

/-- Every record has bytes. -/
theorem length_bytesOf_pos {records : List (OpRecord p)} :
    0 < (bytesOf records).length ↔ records ≠ [] := by
  cases records with
  | nil => simp [bytesOf]
  | cons record records =>
    have sized := record.sized.1
    simp only [bytesOf, List.flatMap_cons, List.length_append, ne_eq, reduceCtorEq,
      not_false_eq_true, iff_true]
    omega

theorem slice_bytesOf (before stretch after : List (OpRecord p)) :
    ((bytesOf (before ++ stretch ++ after)).drop (bytesOf before).length).take
      (bytesOf stretch).length = bytesOf stretch := by
  rw [bytesOf_append, bytesOf_append, List.append_assoc, List.drop_left, List.take_left]

/-! ## The loop -/

/-- Where the loop is: these records are done with, these are the backlog, and these are to
come. -/
structure Walked (equals : DLOp p → DLOp p → DisplayListCompare)
    (a b doneA doneB backlogA backlogB restA restB : List (OpRecord p)) : Prop where
  splitA : a = doneA ++ backlogA ++ restA
  splitB : b = doneB ++ backlogB ++ restB
  done : List.Forall₂ OpRecord.Alike doneA doneB
  backlog : List.Forall₂ (OpRecord.AskBulk equals) backlogA backlogB

namespace Walked

variable {equals : DLOp p → DLOp p → DisplayListCompare}
  {a b doneA doneB backlogA backlogB restA restB : List (OpRecord p)} {opA opB : OpRecord p}

theorem backlogAlike (walked : Walked equals a b doneA doneB backlogA backlogB restA restB) :
    List.Forall₂ OpRecord.Alike backlogA backlogB :=
  walked.backlog.imp fun _ _ ask => ask.1

/-- A record that asks for it joins the backlog. -/
theorem putOff
    (walked : Walked equals a b doneA doneB backlogA backlogB (opA :: restA) (opB :: restB))
    (ask : opA.AskBulk equals opB) :
    Walked equals a b doneA doneB (backlogA ++ [opA]) (backlogB ++ [opB]) restA restB where
  splitA := by simp [walked.splitA]
  splitB := by simp [walked.splitB]
  done := walked.done
  backlog := List.rel_append walked.backlog (.cons ask .nil)

/-- A record that compares itself ends it. -/
theorem flush
    (walked : Walked equals a b doneA doneB backlogA backlogB (opA :: restA) (opB :: restB))
    (alike : opA.Alike opB) :
    Walked equals a b (doneA ++ backlogA ++ [opA]) (doneB ++ backlogB ++ [opB]) [] [] restA restB
    where
  splitA := by simp [walked.splitA]
  splitB := by simp [walked.splitB]
  done := List.rel_append (List.rel_append walked.done walked.backlogAlike) (.cons alike .nil)
  backlog := .nil

/-- Comparing the backlog compares its bytes. -/
theorem same_backlog (walked : Walked equals a b doneA doneB backlogA backlogB restA restB) :
    Memcmp.same ⟨(bytesOf doneA).length, (bytesOf doneB).length,
        (bytesOf (doneA ++ backlogA)).length - (bytesOf doneA).length⟩ (bytesOf a) (bytesOf b) =
      true ↔ bytesOf backlogA = bytesOf backlogB := by
  have sizes := OpRecord.Alike.length_bytesOf walked.backlogAlike
  rw [Memcmp.same, length_bytesOf_append, Nat.add_sub_cancel_left, beq_iff_eq]
  dsimp only
  rw [walked.splitA, slice_bytesOf, sizes, walked.splitB, slice_bytesOf]

end Walked

section Turns

variable {equals : DLOp p → DLOp p → DisplayListCompare}
  {a b doneA doneB backlogA backlogB restA restB : List (OpRecord p)}

/-- The loop with the pointers where it is. -/
abbrev compareAt (equals : DLOp p → DLOp p → DisplayListCompare)
    (a b doneA doneB backlogA backlogB restA restB : List (OpRecord p)) : Bool × List Memcmp :=
  compareFrom equals (bytesOf a) (bytesOf b) restA restB (bytesOf (doneA ++ backlogA)).length
    (bytesOf (doneB ++ backlogB)).length (bytesOf doneA).length (bytesOf doneB).length

/-- The call that compares the backlog. -/
def backlogCall (doneA doneB backlogA : List (OpRecord p)) : Memcmp :=
  ⟨(bytesOf doneA).length, (bytesOf doneB).length, (bytesOf backlogA).length⟩

/-- The backlog, when there is one, is compared before the rest. -/
def flushed (doneA doneB backlogA backlogB : List (OpRecord p)) (rest : Bool × List Memcmp) :
    Bool × List Memcmp :=
  if backlogA = [] then rest
  else if bytesOf backlogA = bytesOf backlogB then
    (rest.1, backlogCall doneA doneB backlogA :: rest.2)
  else (false, [backlogCall doneA doneB backlogA])

section Steps

variable {opA opB : OpRecord p}

/-- The backlog has bytes unless it is empty. -/
theorem lt_backlog (doneA backlogA : List (OpRecord p)) :
    (bytesOf doneA).length < (bytesOf (doneA ++ backlogA)).length ↔ backlogA ≠ [] := by
  rw [length_bytesOf_append, ← length_bytesOf_pos]
  omega

/-- The call of the loop is that of the backlog. -/
theorem backlogCall_eq (doneA doneB backlogA : List (OpRecord p)) :
    (⟨(bytesOf doneA).length, (bytesOf doneB).length,
      (bytesOf (doneA ++ backlogA)).length - (bytesOf doneA).length⟩ : Memcmp) =
      backlogCall doneA doneB backlogA := by
  rw [length_bytesOf_append, Nat.add_sub_cancel_left, backlogCall]

theorem compareAt_nil (walked : Walked equals a b doneA doneB backlogA backlogB [] []) :
    compareAt equals a b doneA doneB backlogA backlogB [] [] =
      flushed doneA doneB backlogA backlogB (true, []) := by
  have same := walked.same_backlog
  have more := lt_backlog doneA backlogA
  rw [backlogCall_eq] at same
  rw [compareAt, compareFrom, backlogCall_eq, flushed]
  by_cases empty : backlogA = []
  · rw [if_neg (more.not.mpr (not_not.mpr empty)), if_pos empty]
  · rw [if_pos (more.mpr empty), if_neg empty]
    dsimp only
    by_cases bytes : bytesOf backlogA = bytesOf backlogB
    · rw [if_pos bytes, same.mpr bytes]
    · rw [if_neg bytes, Bool.eq_false_iff.mpr (same.not.mpr bytes)]

theorem compareAt_equal
    (walked : Walked equals a b doneA doneB backlogA backlogB (opA :: restA) (opB :: restB))
    (alike : opA.Alike opB) (equal : equals opA.op opB.op = .equal) :
    compareAt equals a b doneA doneB backlogA backlogB (opA :: restA) (opB :: restB) =
      flushed doneA doneB backlogA backlogB
        (compareAt equals a b (doneA ++ backlogA ++ [opA]) (doneB ++ backlogB ++ [opB]) [] []
          restA restB) := by
  have same := walked.same_backlog
  rw [backlogCall_eq] at same
  have more := lt_backlog doneA backlogA
  rw [compareAt, compareFrom, if_neg (OpRecord.alike_iff.mp alike), equal]
  simp only [backlogCall_eq, ← length_bytesOf_push, compareAt, List.append_nil, Nat.sub_pos_iff_lt]
  rw [flushed]
  by_cases empty : backlogA = []
  · rw [if_neg (more.not.mpr (not_not.mpr empty)), if_pos empty]
  · rw [if_pos (more.mpr empty), if_neg empty]
    by_cases bytes : bytesOf backlogA = bytesOf backlogB
    · rw [if_pos bytes, if_pos (same.mpr bytes)]
    · rw [if_neg bytes, if_neg (same.not.mpr bytes)]

theorem compareAt_bulk (ask : opA.AskBulk equals opB) :
    compareAt equals a b doneA doneB backlogA backlogB (opA :: restA) (opB :: restB) =
      compareAt equals a b doneA doneB (backlogA ++ [opA]) (backlogB ++ [opB]) restA restB := by
  rw [compareAt, compareFrom, if_neg (OpRecord.alike_iff.mp ask.1), ask.2, compareAt]
  simp only [← List.append_assoc, length_bytesOf_push]

theorem compareAt_differ (differ : opA.Alike opB → equals opA.op opB.op = .notEqual) :
    compareAt equals a b doneA doneB backlogA backlogB (opA :: restA) (opB :: restB) =
      (false, []) := by
  rw [compareAt, compareFrom]
  split
  · rfl
  · next alike => rw [differ (OpRecord.alike_iff.mpr alike)]

/-- One of the buffers ends before the other. -/
theorem compareAt_ends (ends : restA = [] ∧ restB ≠ [] ∨ restA ≠ [] ∧ restB = []) :
    compareAt equals a b doneA doneB backlogA backlogB restA restB = (false, []) := by
  cases restA with
  | nil =>
    cases restB with
    | nil => simp at ends
    | cons opB restB => simp only [compareAt, compareFrom]
  | cons opA restA =>
    cases restB with
    | nil => simp only [compareAt, compareFrom]
    | cons opB restB => simp at ends

/-- The cases of a turn of the loop. -/
theorem turn_cases (equals : DLOp p → DLOp p → DisplayListCompare) (opA opB : OpRecord p) :
    (opA.Alike opB → equals opA.op opB.op = .notEqual) ∨ opA.AskBulk equals opB ∨
      opA.Alike opB ∧ equals opA.op opB.op = .equal := by
  by_cases alike : opA.Alike opB
  · cases asked : equals opA.op opB.op with
    | notEqual => exact .inl fun _ => rfl
    | useBulkCompare => exact .inr (.inl ⟨alike, asked⟩)
    | equal => exact .inr (.inr ⟨alike, rfl⟩)
  · exact .inl fun alike' => (alike alike').elim

end Steps

/-- The backlog, then the rest. -/
theorem flushed_iff (walked : Walked equals a b doneA doneB backlogA backlogB restA restB)
    {rest : Bool × List Memcmp} :
    (flushed doneA doneB backlogA backlogB rest).1 = true ↔
      bytesOf backlogA = bytesOf backlogB ∧ rest.1 = true := by
  unfold flushed
  by_cases empty : backlogA = []
  · have backlog := walked.backlog
    rw [empty, List.forall₂_nil_left_iff] at backlog
    simp [empty, backlog]
  · rw [if_neg empty]
    split
    · next bytes => simp [bytes]
    · next bytes => simp [bytes]

theorem compareAt_iff (walked : Walked equals a b doneA doneB backlogA backlogB restA restB) :
    (compareAt equals a b doneA doneB backlogA backlogB restA restB).1 = true ↔
      bytesOf backlogA = bytesOf backlogB ∧
        List.Forall₂ (OpRecord.Matches equals) restA restB := by
  induction restA generalizing restB doneA doneB backlogA backlogB with
  | nil =>
    cases restB with
    | nil => rw [compareAt_nil walked, flushed_iff walked]; simp
    | cons opB restB => simp [compareAt_ends (.inl ⟨rfl, List.cons_ne_nil opB restB⟩)]
  | cons opA restA ih =>
    cases restB with
    | nil => simp [compareAt_ends (.inr ⟨List.cons_ne_nil opA restA, rfl⟩)]
    | cons opB restB =>
      rw [List.forall₂_cons]
      rcases turn_cases equals opA opB with differ | ask | ⟨alike, equal⟩
      · rw [compareAt_differ differ]
        refine iff_of_false nofun ?_
        rintro ⟨-, ⟨alike, matches'⟩, -⟩
        simp [differ alike] at matches'
      · rw [compareAt_bulk ask, ih (walked.putOff ask)]
        have sizes := OpRecord.Alike.length_bytesOf walked.backlogAlike
        have matches_iff : opA.Matches equals opB ↔ opA.bytes = opB.bytes := by
          simp [OpRecord.Matches, ask.1, ask.2]
        rw [bytesOf_append, bytesOf_append, bytesOf_singleton, bytesOf_singleton, matches_iff,
          ← and_assoc]
        refine and_congr_left' ⟨fun bytes => List.append_inj bytes sizes, ?_⟩
        rintro ⟨backlog, last⟩
        rw [backlog, last]
      · rw [compareAt_equal walked alike equal, flushed_iff walked, ih (walked.flush alike)]
        simp [OpRecord.Matches, alike, equal]

/-! ## What it compares by bytes -/

theorem length_bytesOf_take_mono (records : List (OpRecord p)) {first last : Nat}
    (before : first ≤ last) :
    (bytesOf (records.take first)).length ≤ (bytesOf (records.take last)).length := by
  obtain ⟨between, split⟩ : records.take first <+: records.take last :=
    List.take_prefix_take_left before
  rw [← split, length_bytesOf_append]
  exact Nat.le_add_right _ _

theorem length_bytesOf_take_succ {records : List (OpRecord p)} {index : Nat} {record : OpRecord p}
    (found : records[index]? = some record) :
    (bytesOf (records.take (index + 1))).length =
      (bytesOf (records.take index)).length + record.size := by
  rw [List.take_add_one, found, Option.toList_some, length_bytesOf_push]

namespace Walked

variable (walked : Walked equals a b doneA doneB backlogA backlogB restA restB)

include walked

theorem take_done :
    a.take doneA.length = doneA := by
  rw [walked.splitA, List.append_assoc, List.take_left]

theorem take_backlog :
    a.take (doneA ++ backlogA).length = doneA ++ backlogA := by
  rw [walked.splitA, List.take_left]

theorem comparesStretch
    (some : backlogA ≠ []) : (backlogCall doneA doneB backlogA).ComparesStretch equals a b :=
  ⟨doneA, backlogA, restA, doneB, backlogB, restB, walked.splitA, walked.splitB,
    walked.done.length_eq, some, walked.backlog, rfl, rfl, rfl,
    OpRecord.Alike.length_bytesOf walked.backlogAlike⟩

/-- A record of the backlog lies in what its call compares. -/
theorem inBacklog {index : Nat} {opA : OpRecord p} (found : a[index]? = some opA)
    (first : doneA.length ≤ index) (last : index < (doneA ++ backlogA).length) :
    (backlogCall doneA doneB backlogA).startA ≤ (bytesOf (a.take index)).length ∧
      (bytesOf (a.take index)).length + opA.size ≤
        (backlogCall doneA doneB backlogA).startA + (backlogCall doneA doneB backlogA).count := by
  have start := length_bytesOf_take_mono a first
  have stop := length_bytesOf_take_mono a (Nat.succ_le_of_lt last)
  rw [walked.take_done] at start
  rw [walked.take_backlog, length_bytesOf_append, Nat.succ_eq_add_one,
    length_bytesOf_take_succ found] at stop
  exact ⟨start, stop⟩

/-- The backlog is compared before the rest, which starts behind it. -/
theorem flushed_bulkCompares
    {next : Nat} {rest : Bool × List Memcmp} (compares : BulkCompares equals a b next rest)
    (behind : ∀ call ∈ rest.2, (bytesOf (doneA ++ backlogA)).length < call.startA)
    (between : ∀ index opA opB, (doneA ++ backlogA).length ≤ index → index < next →
      a[index]? = some opA → b[index]? = some opB → ¬opA.AskBulk equals opB) :
    BulkCompares equals a b doneA.length (flushed doneA doneB backlogA backlogB rest) := by
  have start : (bytesOf doneA).length ≤ (bytesOf (doneA ++ backlogA)).length := by
    rw [length_bytesOf_append]
    exact Nat.le_add_right _ _
  have later : ∀ call ∈ rest.2, (bytesOf (a.take doneA.length)).length ≤ call.startA := by
    rw [walked.take_done]
    exact fun call member => start.trans (behind call member).le
  unfold flushed
  by_cases empty : backlogA = []
  · rw [if_pos empty]
    refine ⟨compares.stretches, later, compares.apart, ?_⟩
    intro result index opA opB first atA atB ask
    refine compares.covers result index opA opB (Nat.le_of_not_lt fun last => ?_) atA atB ask
    exact between index opA opB (by simpa [empty] using first) last atA atB ask
  · rw [if_neg empty]
    have stretch := walked.comparesStretch empty
    have first : (bytesOf (a.take doneA.length)).length ≤
        (backlogCall doneA doneB backlogA).startA := by
      rw [walked.take_done]
      exact le_refl _
    split
    · refine ⟨List.forall_mem_cons.mpr ⟨stretch, compares.stretches⟩,
        List.forall_mem_cons.mpr ⟨first, later⟩, List.pairwise_cons.mpr ⟨?_, compares.apart⟩, ?_⟩
      · rw [length_bytesOf_append] at behind
        exact behind
      · intro result index opA opB after atA atB ask
        rcases Nat.lt_or_ge index (doneA ++ backlogA).length with inside | outside
        · exact ⟨_, List.mem_cons_self, walked.inBacklog atA after inside⟩
        · have last : next ≤ index := Nat.le_of_not_lt fun before =>
            between index opA opB outside before atA atB ask
          obtain ⟨call, member, covers⟩ := compares.covers result index opA opB last atA atB ask
          exact ⟨call, List.mem_cons_of_mem _ member, covers⟩
    · exact ⟨by simpa using stretch, by simpa using first, List.pairwise_singleton _ _, nofun⟩

end Walked

theorem compareAt_bulkCompares
    (walked : Walked equals a b doneA doneB backlogA backlogB restA restB) :
    BulkCompares equals a b doneA.length
      (compareAt equals a b doneA doneB backlogA backlogB restA restB) := by
  have differ : ∀ first, BulkCompares equals a b first (false, []) := fun first =>
    ⟨(fun _ member => nomatch member), (fun _ member => nomatch member), .nil, nofun⟩
  induction restA generalizing restB doneA doneB backlogA backlogB with
  | nil =>
    cases restB with
    | nil =>
      rw [compareAt_nil walked]
      have ended : a.length = (doneA ++ backlogA).length := by
        rw [walked.splitA, List.append_nil]
      have nothing : BulkCompares equals a b a.length (true, []) := by
        refine ⟨(fun _ member => nomatch member), (fun _ member => nomatch member), .nil, ?_⟩
        intro _ index opA opB beyond atA
        rw [List.getElem?_eq_none beyond] at atA
        cases atA
      refine walked.flushed_bulkCompares nothing (fun _ member => nomatch member) ?_
      intro index opA opB first last
      omega
    | cons opB restB =>
      rw [compareAt_ends (.inl ⟨rfl, List.cons_ne_nil _ _⟩)]
      exact differ _
  | cons opA restA ih =>
    cases restB with
    | nil =>
      rw [compareAt_ends (.inr ⟨List.cons_ne_nil _ _, rfl⟩)]
      exact differ _
    | cons opB restB =>
      rcases turn_cases equals opA opB with unlike | ask | ⟨alike, equal⟩
      · rw [compareAt_differ unlike]
        exact differ _
      · rw [compareAt_bulk ask]
        exact ih (walked.putOff ask)
      · rw [compareAt_equal walked alike equal]
        have next := walked.flush alike
        refine walked.flushed_bulkCompares (ih next) (fun call member => ?_) ?_
        · have later := (ih next).later call member
          rw [next.take_done, length_bytesOf_push] at later
          have sized := opA.sized.1
          have size : opA.size = opA.bytes.length := rfl
          omega
        · intro index otherA otherB first last atA atB ask
          have here : index = (doneA ++ backlogA).length := by
            rw [List.length_append, List.length_singleton] at last
            omega
          have counts : (doneA ++ backlogA).length = (doneB ++ backlogB).length := by
            rw [List.length_append, List.length_append, walked.done.length_eq,
              walked.backlog.length_eq]
          rw [walked.splitA, here, List.getElem?_append_right le_rfl, Nat.sub_self] at atA
          rw [walked.splitB, here, counts, List.getElem?_append_right le_rfl,
            Nat.sub_self] at atB
          cases atA
          cases atB
          rw [OpRecord.AskBulk, equal] at ask
          cases ask.2

end Turns

theorem walked_start (equals : DLOp p → DLOp p → DisplayListCompare)
    (a b : List (OpRecord p)) : Walked equals a b [] [] [] [] a b where
  splitA := rfl
  splitB := rfl
  done := .nil
  backlog := .nil

theorem compareOps_eq_true (contents : OpContents p) (a b : List (OpRecord p)) :
    (compareOps contents a b).1 = true ↔ List.Forall₂ (OpRecord.Matches contents.equals) a b :=
  (compareAt_iff (walked_start contents.equals a b)).trans (and_iff_right rfl)

end FlutterEngine.DisplayList
