import FlutterEngine.DisplayList.DlPaint

/-!
# Records and the calls they make

The methods of `DlOpReceiver` and the records of `dl_op_records.h`, one family for
each base class. A dispatched record makes one call; records that set or clear the
same attribute, and records that differ in an argument of one method, share it.
-/

namespace FlutterEngine.DisplayList

/-- `DlCanvas::ClipOp`. -/
inductive ClipOp where
  | difference | intersect
deriving DecidableEq, Repr

/-- `DlCanvas::PointMode`. -/
inductive PointMode where
  | points | lines | polygon
deriving DecidableEq, Repr

/-- `DlCanvas::SrcRectConstraint`. -/
inductive SrcRectConstraint where
  | strict | fast
deriving DecidableEq, Repr

/-- `SaveLayerOptions`. -/
structure SaveLayerOptions where
  rendersWithAttributes : Bool := false
  canDistributeOpacity : Bool := false
  boundsFromCaller : Bool := false
  contentIsClipped : Bool := false
deriving DecidableEq, Repr

namespace SaveLayerOptions

def withoutOptimizations (options : SaveLayerOptions) : SaveLayerOptions :=
  { rendersWithAttributes := options.rendersWithAttributes
    boundsFromCaller := options.boundsFromCaller }

end SaveLayerOptions

variable (p : Payloads)

/-! ## Calls of a receiver -/

/-- The methods that set an attribute. -/
inductive AttributeCall where
  | setAntiAlias (aa : Bool)
  | setInvertColors (invert : Bool)
  | setStrokeCap (cap : DlStrokeCap)
  | setStrokeJoin (join : DlStrokeJoin)
  | setDrawStyle (style : DlDrawStyle)
  | setStrokeWidth (width : p.Scalar)
  | setStrokeMiter (limit : p.Scalar)
  | setColor (color : DlColor)
  | setBlendMode (mode : DlBlendMode)
  | setColorSource (source : Option (DlColorSource p))
  | setImageFilter (filter : Option p.ImageFilter)
  | setColorFilter (filter : Option p.ColorFilter)
  | setPathEffect (effect : Option p.PathEffect)
  | setMaskFilter (filter : Option p.MaskFilter)

/-- The methods that change the transform; a matrix is given row by row. -/
inductive TransformCall where
  | translate (tx ty : p.Scalar)
  | scale (sx sy : p.Scalar)
  | rotate (degrees : p.Scalar)
  | skew (sx sy : p.Scalar)
  | transform2DAffine (mxx mxy mxt myx myy myt : p.Scalar)
  | transformFullPerspective
      (mxx mxy mxz mxt myx myy myz myt mzx mzy mzz mzt mwx mwy mwz mwt : p.Scalar)
  | transformReset

/-- What `clipRect`, `clipRRect` and `clipPath` clip to. -/
inductive ClipShape where
  | rect (rect : SkRect p.Scalar)
  | rrect (rrect : p.RRect)
  | path (path : p.Path)

structure ClipCall where
  shape : ClipShape p
  clipOp : ClipOp
  isAA : Bool

/-- The methods that render. -/
inductive DrawCall where
  | drawPaint
  | drawColor (color : DlColor) (mode : DlBlendMode)
  | drawLine (p0 p1 : SkPoint p.Scalar)
  | drawRect (rect : SkRect p.Scalar)
  | drawOval (bounds : SkRect p.Scalar)
  | drawCircle (center : SkPoint p.Scalar) (radius : p.Scalar)
  | drawRRect (rrect : p.RRect)
  | drawDRRect (outer inner : p.RRect)
  | drawPath (path : p.Path)
  | drawArc (bounds : SkRect p.Scalar) (start sweep : p.Scalar) (useCenter : Bool)
  | drawPoints (mode : PointMode) (pts : List (SkPoint p.Scalar))
  | drawVertices (vertices : p.Vertices) (mode : DlBlendMode)
  | drawImage (image : p.Image) (point : SkPoint p.Scalar) (sampling : DlImageSampling)
      (renderWithAttributes : Bool)
  | drawImageRect (image : p.Image) (src dst : SkRect p.Scalar) (sampling : DlImageSampling)
      (renderWithAttributes : Bool) (constraint : SrcRectConstraint)
  | drawImageNine (image : p.Image) (center : SkIRect) (dst : SkRect p.Scalar)
      (filter : DlFilterMode) (renderWithAttributes : Bool)
  | drawAtlas (atlas : p.Image) (sprites : List (p.RSXform × SkRect p.Scalar))
      (colors : Option (List DlColor)) (mode : DlBlendMode) (sampling : DlImageSampling)
      (cullRect : Option (SkRect p.Scalar)) (renderWithAttributes : Bool)
  | drawDisplayList (displayList : p.Nested) (opacity : p.Scalar)
  | drawTextBlob (blob : p.TextBlob) (x y : p.Scalar)
  | drawTextFrame (textFrame : p.TextFrame) (x y : p.Scalar)
  | drawShadow (path : p.Path) (color : DlColor) (elevation : p.Scalar)
      (transparentOccluder : Bool) (dpr : p.Scalar)

inductive ReceiverCall where
  | set (call : AttributeCall p)
  | save
  | saveLayer (bounds : SkRect p.Scalar) (options : SaveLayerOptions)
      (backdrop : Option p.ImageFilter)
  | restore
  | transform (call : TransformCall p)
  | clip (call : ClipCall p)
  | draw (call : DrawCall p)

/-! ## Records -/

/-- The records that set an attribute. -/
inductive AttributeOp where
  | setAntiAlias (value : Bool)
  | setInvertColors (value : Bool)
  | setStrokeCap (value : DlStrokeCap)
  | setStrokeJoin (value : DlStrokeJoin)
  | setStyle (style : DlDrawStyle)
  | setStrokeWidth (width : p.Scalar)
  | setStrokeMiter (limit : p.Scalar)
  | setColor (color : DlColor)
  | setBlendMode (mode : DlBlendMode)
  | setPodPathEffect (effect : p.PathEffect)
  | clearPathEffect
  | clearColorFilter
  | setPodColorFilter (filter : p.ColorFilter)
  | clearColorSource
  | setPodColorSource (source : DlColorSource p)
  | setImageColorSource (source : p.ImageColorSource)
  | setRuntimeEffectColorSource (source : p.RuntimeEffect)
  | clearImageFilter
  | setPodImageFilter (filter : p.ImageFilter)
  | setSharedImageFilter (filter : p.ImageFilter)
  | clearMaskFilter
  | setPodMaskFilter (filter : p.MaskFilter)

/-- `SaveOpBase` and what `SaveLayerOp` and `SaveLayerBackdropOp` add to it. -/
inductive SaveOp where
  | save
  | saveLayer (options : SaveLayerOptions) (rect : SkRect p.Scalar)
  | saveLayerBackdrop (options : SaveLayerOptions) (rect : SkRect p.Scalar)
      (backdrop : p.ImageFilter)

/-- The records of `TransformClipOpBase`. -/
inductive TransformClipOp where
  | transform (call : TransformCall p)
  | clipIntersectRect (rect : SkRect p.Scalar) (isAA : Bool)
  | clipIntersectRRect (rrect : p.RRect) (isAA : Bool)
  | clipIntersectPath (path : p.Path) (isAA : Bool)
  | clipDifferenceRect (rect : SkRect p.Scalar) (isAA : Bool)
  | clipDifferenceRRect (rrect : p.RRect) (isAA : Bool)
  | clipDifferencePath (path : p.Path) (isAA : Bool)

/-- The records of `DrawOpBase`. -/
inductive DrawOp where
  | drawPaint
  | drawColor (color : DlColor) (mode : DlBlendMode)
  | drawLine (p0 p1 : SkPoint p.Scalar)
  | drawRect (rect : SkRect p.Scalar)
  | drawOval (oval : SkRect p.Scalar)
  | drawCircle (center : SkPoint p.Scalar) (radius : p.Scalar)
  | drawRRect (rrect : p.RRect)
  | drawDRRect (outer inner : p.RRect)
  | drawPath (path : p.Path)
  | drawArc (bounds : SkRect p.Scalar) (start sweep : p.Scalar) (center : Bool)
  | drawPoints (pts : List (SkPoint p.Scalar))
  | drawLines (pts : List (SkPoint p.Scalar))
  | drawPolygon (pts : List (SkPoint p.Scalar))
  | drawVertices (mode : DlBlendMode) (vertices : p.Vertices)
  | drawImage (image : p.Image) (point : SkPoint p.Scalar) (sampling : DlImageSampling)
  | drawImageWithAttr (image : p.Image) (point : SkPoint p.Scalar) (sampling : DlImageSampling)
  | drawImageRect (image : p.Image) (src dst : SkRect p.Scalar) (sampling : DlImageSampling)
      (renderWithAttributes : Bool) (constraint : SrcRectConstraint)
  | drawImageNine (image : p.Image) (center : SkIRect) (dst : SkRect p.Scalar)
      (mode : DlFilterMode)
  | drawImageNineWithAttr (image : p.Image) (center : SkIRect) (dst : SkRect p.Scalar)
      (mode : DlFilterMode)
  | drawAtlas (atlas : p.Image) (sprites : List (p.RSXform × SkRect p.Scalar))
      (colors : Option (List DlColor)) (mode : DlBlendMode) (sampling : DlImageSampling)
      (renderWithAttributes : Bool)
  | drawAtlasCulled (atlas : p.Image) (sprites : List (p.RSXform × SkRect p.Scalar))
      (colors : Option (List DlColor)) (mode : DlBlendMode) (sampling : DlImageSampling)
      (cullRect : SkRect p.Scalar) (renderWithAttributes : Bool)
  | drawDisplayList (displayList : p.Nested) (opacity : p.Scalar)
  | drawTextBlob (blob : p.TextBlob) (x y : p.Scalar)
  | drawTextFrame (textFrame : p.TextFrame) (x y : p.Scalar)
  | drawShadow (path : p.Path) (color : DlColor) (elevation dpr : p.Scalar)
  | drawShadowTransparentOccluder (path : p.Path) (color : DlColor) (elevation dpr : p.Scalar)

/-- `DLOp`: a record. `restoreIndex` is the op index of the record that restores. -/
inductive DLOp where
  | set (op : AttributeOp p)
  | save (op : SaveOp p) (restoreIndex : Int)
  | restore
  | transformClip (op : TransformClipOp p)
  | draw (op : DrawOp p)

variable {p}

/-! ## The call of a record -/

def AttributeOp.call : AttributeOp p → AttributeCall p
  | setAntiAlias value => .setAntiAlias value
  | setInvertColors value => .setInvertColors value
  | setStrokeCap value => .setStrokeCap value
  | setStrokeJoin value => .setStrokeJoin value
  | setStyle style => .setDrawStyle style
  | setStrokeWidth width => .setStrokeWidth width
  | setStrokeMiter limit => .setStrokeMiter limit
  | setColor color => .setColor color
  | setBlendMode mode => .setBlendMode mode
  | setPodPathEffect effect => .setPathEffect (some effect)
  | clearPathEffect => .setPathEffect none
  | clearColorFilter => .setColorFilter none
  | setPodColorFilter filter => .setColorFilter (some filter)
  | clearColorSource => .setColorSource none
  | setPodColorSource source => .setColorSource (some source)
  | setImageColorSource source => .setColorSource (some (.image source))
  | setRuntimeEffectColorSource source => .setColorSource (some (.runtimeEffect source))
  | clearImageFilter => .setImageFilter none
  | setPodImageFilter filter => .setImageFilter (some filter)
  | setSharedImageFilter filter => .setImageFilter (some filter)
  | clearMaskFilter => .setMaskFilter none
  | setPodMaskFilter filter => .setMaskFilter (some filter)

def SaveOp.call : SaveOp p → ReceiverCall p
  | save => .save
  | saveLayer options rect => .saveLayer rect options none
  | saveLayerBackdrop options rect backdrop => .saveLayer rect options (some backdrop)

def TransformClipOp.call : TransformClipOp p → ReceiverCall p
  | transform call => .transform call
  | clipIntersectRect rect isAA => .clip ⟨.rect rect, .intersect, isAA⟩
  | clipIntersectRRect rrect isAA => .clip ⟨.rrect rrect, .intersect, isAA⟩
  | clipIntersectPath path isAA => .clip ⟨.path path, .intersect, isAA⟩
  | clipDifferenceRect rect isAA => .clip ⟨.rect rect, .difference, isAA⟩
  | clipDifferenceRRect rrect isAA => .clip ⟨.rrect rrect, .difference, isAA⟩
  | clipDifferencePath path isAA => .clip ⟨.path path, .difference, isAA⟩

def DrawOp.call : DrawOp p → DrawCall p
  | drawPaint => .drawPaint
  | drawColor color mode => .drawColor color mode
  | drawLine p0 p1 => .drawLine p0 p1
  | drawRect rect => .drawRect rect
  | drawOval oval => .drawOval oval
  | drawCircle center radius => .drawCircle center radius
  | drawRRect rrect => .drawRRect rrect
  | drawDRRect outer inner => .drawDRRect outer inner
  | drawPath path => .drawPath path
  | drawArc bounds start sweep center => .drawArc bounds start sweep center
  | drawPoints pts => .drawPoints .points pts
  | drawLines pts => .drawPoints .lines pts
  | drawPolygon pts => .drawPoints .polygon pts
  | drawVertices mode vertices => .drawVertices vertices mode
  | drawImage image point sampling => .drawImage image point sampling false
  | drawImageWithAttr image point sampling => .drawImage image point sampling true
  | drawImageRect image src dst sampling renderWithAttributes constraint =>
    .drawImageRect image src dst sampling renderWithAttributes constraint
  | drawImageNine image center dst mode => .drawImageNine image center dst mode false
  | drawImageNineWithAttr image center dst mode => .drawImageNine image center dst mode true
  | drawAtlas atlas sprites colors mode sampling renderWithAttributes =>
    .drawAtlas atlas sprites colors mode sampling none renderWithAttributes
  | drawAtlasCulled atlas sprites colors mode sampling cullRect renderWithAttributes =>
    .drawAtlas atlas sprites colors mode sampling (some cullRect) renderWithAttributes
  | drawDisplayList displayList opacity => .drawDisplayList displayList opacity
  | drawTextBlob blob x y => .drawTextBlob blob x y
  | drawTextFrame textFrame x y => .drawTextFrame textFrame x y
  | drawShadow path color elevation dpr => .drawShadow path color elevation false dpr
  | drawShadowTransparentOccluder path color elevation dpr =>
    .drawShadow path color elevation true dpr

end FlutterEngine.DisplayList
