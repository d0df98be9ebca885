import FlutterEngine.DisplayList.DlBuilderBounds

/-!
# Drawing with a display list builder

Each drawing method of `dl_builder.cc` works out a `DrawStep`; `render` is what they then
all do: unless the paint has no effect or nothing is inside the clip, push the record and
report it to the current layer.
-/

namespace FlutterEngine.DisplayList

open DisplayListOpFlags

/-- What an operation covers: the whole clip, or some bounds with these flags. -/
inductive DrawContent (p : Payloads) where
  | unbounded
  | bounds (rects : List (SkRect p.Scalar)) (flags : DisplayListAttributeFlags)

/-- What a drawing method works out before it records. -/
structure DrawStep (p : Payloads) where
  result : OpResult
  content : DrawContent p
  op : DrawOp p
  /-- What it reports to the layer. -/
  compatible : Bool
  isUIThreadSafe : Bool := true
  nestedOpCount : Int := 0
  nestedBytes : Nat := 0

variable {p : Payloads} [SkScalar p.Scalar] {kit : Toolkit p}

namespace DisplayListBuilder

variable (builder : DisplayListBuilder kit)

/-! ## The common part -/

/-- Accumulate each of these bounds; none when nothing is inside the clip. -/
def accumulateRects (flags : DisplayListAttributeFlags) :
    DisplayListBuilder kit → List (SkRect p.Scalar) → Option (DisplayListBuilder kit)
  | _, [] => none
  | builder, bounds :: rects =>
    match builder.accumulateOpBounds bounds flags with
    | none => accumulateRects flags builder rects
    | some next => some ((accumulateRects flags next rects).getD next)

def accumulateContent (content : DrawContent p) : Option (DisplayListBuilder kit) :=
  match content with
  | .unbounded => builder.accumulateUnbounded
  | .bounds rects flags => accumulateRects flags builder rects

def render (step : DrawStep p) : DisplayListBuilder kit :=
  if step.result = .noEffect then builder
  else
    match builder.accumulateContent step.content with
    | none => builder
    | some builder =>
      let builder := ((builder.push (.draw step.op) 1).updateLayerOpacityCompatibility
        step.compatible).updateLayerResult step.result
      { builder with
        isUIThreadSafe := builder.isUIThreadSafe && step.isUIThreadSafe
        nestedOpCount := builder.nestedOpCount + step.nestedOpCount
        nestedBytes := builder.nestedBytes + step.nestedBytes }

/-- `CheckLayerOpacityCompatibility`. -/
def opacityCompatible (usesBlendAttribute : Bool) : Bool :=
  !usesBlendAttribute || builder.currentOpacityCompatibility

/-- `CheckLayerOpacityHairlineCompatibility`. -/
def opacityHairlineCompatible : Bool :=
  builder.currentOpacityCompatibility &&
    (builder.current.drawStyle == .fill || decide (kit.literal 0 < builder.current.strokeWidth))

/-! ## The drawing methods -/

def drawPaint : DrawStep p where
  result := builder.paintResult builder.current kDrawPaintFlags
  content := .unbounded
  op := .drawPaint
  compatible := builder.opacityCompatible true

def drawColor (color : DlColor) (mode : DlBlendMode) : DrawStep p where
  result := builder.paintResult { color, blendMode := mode } kDrawPaintFlags
  content := .unbounded
  op := .drawColor color mode
  compatible := isOpacityCompatible mode

/-- A geometric primitive with these bounds and flags. -/
def primitive (rect : SkRect p.Scalar) (flags : DisplayListAttributeFlags) (op : DrawOp p) :
    DrawStep p where
  result := builder.paintResult builder.current flags
  content := .bounds [rect] flags
  op
  compatible := builder.opacityCompatible true

def drawLine (p0 p1 : SkPoint p.Scalar) : DrawStep p :=
  let bounds := (SkRect.mk p0.fX p0.fY p1.fX p1.fY).makeSorted
  let flags :=
    if kit.literal 0 < bounds.width ∧ kit.literal 0 < bounds.height then kDrawLineFlags
    else kDrawHVLineFlags
  builder.primitive bounds flags (.drawLine p0 p1)

def drawRect (rect : SkRect p.Scalar) : DrawStep p :=
  builder.primitive rect.makeSorted kDrawRectFlags (.drawRect rect)

def drawOval (bounds : SkRect p.Scalar) : DrawStep p :=
  builder.primitive bounds.makeSorted kDrawOvalFlags (.drawOval bounds)

def drawCircle (center : SkPoint p.Scalar) (radius : p.Scalar) : DrawStep p :=
  let bounds : SkRect p.Scalar :=
    ⟨center.fX - radius, center.fY - radius, center.fX + radius, center.fY + radius⟩
  builder.primitive bounds kDrawCircleFlags (.drawCircle center radius)

def drawRRect (rrect : p.RRect) : DrawStep p :=
  if kit.isRect rrect then builder.drawRect (kit.getBounds rrect)
  else if kit.rrectIsOval rrect then builder.drawOval (kit.getBounds rrect)
  else builder.primitive (kit.getBounds rrect) kDrawRRectFlags (.drawRRect rrect)

def drawDRRect (outer inner : p.RRect) : DrawStep p :=
  builder.primitive (kit.getBounds outer) kDrawDRRectFlags (.drawDRRect outer inner)

def drawPath (path : p.Path) : DrawStep p where
  result := builder.paintResult builder.current kDrawPathFlags
  content :=
    if kit.isInverseFillType path then .unbounded
    else .bounds [kit.pathBounds path] kDrawPathFlags
  op := .drawPath path
  compatible := builder.opacityHairlineCompatible

def drawArc (bounds : SkRect p.Scalar) (start sweep : p.Scalar) (useCenter : Bool) :
    DrawStep p :=
  let flags := if useCenter then kDrawArcWithCenterFlags else kDrawArcNoCenterFlags
  { builder.primitive bounds flags (.drawArc bounds start sweep useCenter) with
    compatible :=
      if useCenter then builder.opacityHairlineCompatible else builder.opacityCompatible true }

def flagsForPointMode : PointMode → DisplayListAttributeFlags
  | .points => kDrawPointsAsPointsFlags
  | .lines => kDrawPointsAsLinesFlags
  | .polygon => kDrawPointsAsPolygonFlags

/-- No points draw nothing. -/
def drawPoints (mode : PointMode) (pts : List (SkPoint p.Scalar)) : DrawStep p where
  result := builder.paintResult builder.current (flagsForPointMode mode)
  content :=
    .bounds
      (if pts.isEmpty then []
        else [((AccumulationRect.blank kit).accumulatePoints pts).bounds kit])
      (flagsForPointMode mode)
  op :=
    match mode with
    | .points => .drawPoints pts
    | .lines => .drawLines pts
    | .polygon => .drawPolygon pts
  compatible := false

def drawVertices (vertices : p.Vertices) (mode : DlBlendMode) : DrawStep p :=
  { builder.primitive (kit.verticesBounds vertices) kDrawVerticesFlags
      (.drawVertices mode vertices) with
    compatible := false }

/-- An image in these bounds. -/
def imagePrimitive (image : p.Image) (rect : SkRect p.Scalar) (flags : DisplayListAttributeFlags)
    (renderWithAttributes : Bool) (op : DrawOp p) : DrawStep p :=
  { builder.primitive rect flags op with
    compatible := builder.opacityCompatible renderWithAttributes
    isUIThreadSafe := kit.imageIsUIThreadSafe image }

def drawImage (image : p.Image) (point : SkPoint p.Scalar) (sampling : DlImageSampling)
    (renderWithAttributes : Bool) : DrawStep p :=
  builder.imagePrimitive image
    (SkRect.makeXYWH point.fX point.fY (kit.imageWidth image) (kit.imageHeight image))
    (if renderWithAttributes then kDrawImageWithPaintFlags else kDrawImageFlags)
    renderWithAttributes
    (if renderWithAttributes then .drawImageWithAttr image point sampling
      else .drawImage image point sampling)

def drawImageRect (image : p.Image) (src dst : SkRect p.Scalar) (sampling : DlImageSampling)
    (renderWithAttributes : Bool) (constraint : SrcRectConstraint) : DrawStep p :=
  builder.imagePrimitive image dst
    (if renderWithAttributes then kDrawImageRectWithPaintFlags else kDrawImageRectFlags)
    renderWithAttributes
    (.drawImageRect image src dst sampling renderWithAttributes constraint)

def drawImageNine (image : p.Image) (center : SkIRect) (dst : SkRect p.Scalar)
    (filter : DlFilterMode) (renderWithAttributes : Bool) : DrawStep p :=
  builder.imagePrimitive image dst
    (if renderWithAttributes then kDrawImageNineWithPaintFlags else kDrawImageNineFlags)
    renderWithAttributes
    (if renderWithAttributes then .drawImageNineWithAttr image center dst filter
      else .drawImageNine image center dst filter)

/-- The corners of each sprite. -/
def atlasPoints (kit : Toolkit p) (sprites : List (p.RSXform × SkRect p.Scalar)) :
    List (SkPoint p.Scalar) :=
  sprites.flatMap fun (xform, tex) => kit.toQuad xform tex.width tex.height

/-- An empty atlas draws nothing. -/
def drawAtlas (atlas : p.Image) (sprites : List (p.RSXform × SkRect p.Scalar))
    (colors : Option (List DlColor)) (mode : DlBlendMode) (sampling : DlImageSampling)
    (cullRect : Option (SkRect p.Scalar)) (renderWithAttributes : Bool) : DrawStep p :=
  let flags := if renderWithAttributes then kDrawAtlasWithPaintFlags else kDrawAtlasFlags
  let atlasBounds := (AccumulationRect.blank kit).accumulatePoints (atlasPoints kit sprites)
  { result := builder.paintResult builder.current flags
    content := .bounds (if atlasBounds.isEmpty then [] else [atlasBounds.bounds kit]) flags
    op :=
      match cullRect with
      | some cullRect =>
        .drawAtlasCulled atlas sprites colors mode sampling cullRect renderWithAttributes
      | none => .drawAtlas atlas sprites colors mode sampling renderWithAttributes
    compatible := false
    isUIThreadSafe := kit.imageIsUIThreadSafe atlas }

/-- A display list that draws nothing, or is drawn with next to no opacity. -/
def drawsNothing (kit : Toolkit p) (displayList : p.Nested) (opacity : p.Scalar) : Bool :=
  !kit.isFinite opacity || decide (opacity ≤ kit.nearlyZero) ||
    kit.opCount false displayList == 0 || kit.isEmpty (kit.nestedBounds displayList)

/-- The rectangles of the display list that its bounds are accumulated by. -/
def nestedContent (displayList : p.Nested) : List (SkRect p.Scalar) :=
  match builder.accumulator with
  | .rect _ _ => [kit.nestedBounds displayList]
  | .rtree _ _ =>
    let query := builder.tracker.current.localCullRect kit.kMaxCullRect
    (kit.nestedRects displayList query).getD [kit.nestedBounds displayList]

/-- The paint that `SetAttributesFromPaint` is then called with is the current one, whose
effects `Equals` recognizes by their addresses, so it changes nothing. -/
def drawDisplayList (displayList : p.Nested) (opacity : p.Scalar) : DrawStep p where
  result :=
    if drawsNothing kit displayList opacity || builder.currentLayer.isNop then .noEffect
    else if kit.nestedModifiesTransparentBlack displayList then .affectsAll
    else .preservesTransparency
  content := .bounds (builder.nestedContent displayList) kDrawDisplayListFlags
  op := .drawDisplayList displayList (if opacity < kit.literal 1 then opacity else kit.literal 1)
  compatible := kit.nestedCanApplyGroupOpacity displayList
  isUIThreadSafe := kit.nestedIsUIThreadSafe displayList
  nestedOpCount := kit.opCount true displayList - 1
  nestedBytes := kit.nestedBytes displayList

/-- Text in these bounds. -/
def textPrimitive (rect : SkRect p.Scalar) (x y : p.Scalar) (op : DrawOp p) : DrawStep p :=
  { builder.primitive (rect.makeOffset x y) kDrawTextBlobFlags op with compatible := false }

def drawTextBlob (blob : p.TextBlob) (x y : p.Scalar) : DrawStep p :=
  builder.textPrimitive (kit.textBlobBounds blob) x y (.drawTextBlob blob x y)

def drawTextFrame (textFrame : p.TextFrame) (x y : p.Scalar) : DrawStep p :=
  builder.textPrimitive (kit.textFrameBounds textFrame) x y (.drawTextFrame textFrame x y)

def drawShadow (path : p.Path) (color : DlColor) (elevation : p.Scalar)
    (transparentOccluder : Bool) (dpr : p.Scalar) : DrawStep p where
  result := builder.paintResult { color } kDrawPaintFlags
  content :=
    .bounds [kit.shadowBounds path elevation dpr builder.tracker.current.matrix.matrix3x3]
      kDrawShadowFlags
  op :=
    if transparentOccluder then .drawShadowTransparentOccluder path color elevation dpr
    else .drawShadow path color elevation dpr
  compatible := false

/-- What the drawing method of the call works out. -/
def drawStep : DrawCall p → DrawStep p
  | .drawPaint => builder.drawPaint
  | .drawColor color mode => builder.drawColor color mode
  | .drawLine p0 p1 => builder.drawLine p0 p1
  | .drawRect rect => builder.drawRect rect
  | .drawOval bounds => builder.drawOval bounds
  | .drawCircle center radius => builder.drawCircle center radius
  | .drawRRect rrect => builder.drawRRect rrect
  | .drawDRRect outer inner => builder.drawDRRect outer inner
  | .drawPath path => builder.drawPath path
  | .drawArc bounds start sweep useCenter => builder.drawArc bounds start sweep useCenter
  | .drawPoints mode pts => builder.drawPoints mode pts
  | .drawVertices vertices mode => builder.drawVertices vertices mode
  | .drawImage image point sampling renderWithAttributes =>
    builder.drawImage image point sampling renderWithAttributes
  | .drawImageRect image src dst sampling renderWithAttributes constraint =>
    builder.drawImageRect image src dst sampling renderWithAttributes constraint
  | .drawImageNine image center dst filter renderWithAttributes =>
    builder.drawImageNine image center dst filter renderWithAttributes
  | .drawAtlas atlas sprites colors mode sampling cullRect renderWithAttributes =>
    builder.drawAtlas atlas sprites colors mode sampling cullRect renderWithAttributes
  | .drawDisplayList displayList opacity => builder.drawDisplayList displayList opacity
  | .drawTextBlob blob x y => builder.drawTextBlob blob x y
  | .drawTextFrame textFrame x y => builder.drawTextFrame textFrame x y
  | .drawShadow path color elevation transparentOccluder dpr =>
    builder.drawShadow path color elevation transparentOccluder dpr

def draw (call : DrawCall p) : DisplayListBuilder kit := builder.render (builder.drawStep call)

end DisplayListBuilder

/-! ## The methods that take a paint -/

/-- The attributes that the method sets from its paint; none when it takes no paint. -/
def DrawCall.paintFlags : DrawCall p → Option DisplayListAttributeFlags
  | drawPaint => some kDrawPaintFlags
  | drawLine _ _ => some kDrawLineFlags
  | drawRect _ => some kDrawRectFlags
  | drawOval _ => some kDrawOvalFlags
  | drawCircle _ _ => some kDrawCircleFlags
  | drawRRect _ => some kDrawRRectFlags
  | drawDRRect _ _ => some kDrawDRRectFlags
  | drawPath _ => some kDrawPathFlags
  | drawArc _ _ _ useCenter =>
    some (if useCenter then kDrawArcWithCenterFlags else kDrawArcNoCenterFlags)
  | drawPoints mode _ => some (DisplayListBuilder.flagsForPointMode mode)
  | drawVertices _ _ => some kDrawVerticesFlags
  | drawImage _ _ _ true => some kDrawImageWithPaintFlags
  | drawImageRect _ _ _ _ true _ => some kDrawImageRectWithPaintFlags
  | drawImageNine _ _ _ _ true => some kDrawImageNineWithPaintFlags
  | drawAtlas _ _ _ _ _ _ true => some kDrawAtlasWithPaintFlags
  | drawTextBlob _ _ _ => some kDrawTextBlobFlags
  | drawTextFrame _ _ _ => some kDrawTextBlobFlags
  | drawImage _ _ _ false | drawImageRect _ _ _ _ false _ | drawImageNine _ _ _ _ false
  | drawAtlas _ _ _ _ _ _ false | drawColor _ _ | drawDisplayList _ _
  | drawShadow _ _ _ _ _ => none

end FlutterEngine.DisplayList
