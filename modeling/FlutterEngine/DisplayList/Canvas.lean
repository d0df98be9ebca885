import FlutterEngine.DisplayList.DlOpRecords

/-!
# What a receiver paints

The contract of `DlOpReceiver`: attributes hold until they are set again, `restore`
takes transform, clip and layers back to what they were at the matching save. A call
comes with the op index of its record. The meaning of the transform calls is a
parameter, so two canvases that agree here agree for every arithmetic.
-/

namespace FlutterEngine.DisplayList

variable (p : Payloads)

/-- A transform type and what each transform call does to the current transform. -/
structure Transforms (Matrix : Type) where
  identity : Matrix
  concat : Matrix → TransformCall p → Matrix

/-- A clip and the transform it was made under. -/
structure ClipInForce (Matrix : Type) where
  call : ClipCall p
  transform : Matrix

/-- A layer that is open, with what it was opened under. -/
structure LayerInForce (Matrix : Type) where
  bounds : SkRect p.Scalar
  options : SaveLayerOptions
  backdrop : Option p.ImageFilter
  attributes : DlPaint p
  transform : Matrix
  clips : List (ClipInForce p Matrix)

/-- What `restore` takes back; the latest clip and the innermost layer are last. -/
structure Frame (Matrix : Type) where
  transform : Matrix
  clips : List (ClipInForce p Matrix) := []
  layers : List (LayerInForce p Matrix) := []

/-- A draw and what it was drawn under. -/
structure Painted (Matrix : Type) where
  index : Nat
  call : DrawCall p
  attributes : DlPaint p
  frame : Frame p Matrix

structure Canvas (Matrix : Type) where
  attributes : DlPaint p := {}
  frame : Frame p Matrix
  /-- The frames of the open saves, the innermost first. -/
  saved : List (Frame p Matrix) := []
  painted : List (Painted p Matrix) := []

variable {p} {Matrix : Type}

namespace DlPaint

/-- The setter of `DlPaint` a call amounts to. -/
def set (paint : DlPaint p) : AttributeCall p → DlPaint p
  | .setAntiAlias aa => { paint with isAntiAlias := aa }
  | .setInvertColors invert => { paint with isInvertColors := invert }
  | .setStrokeCap cap => { paint with strokeCap := cap }
  | .setStrokeJoin join => { paint with strokeJoin := join }
  | .setDrawStyle style => { paint with drawStyle := style }
  | .setStrokeWidth width => { paint with strokeWidth := width }
  | .setStrokeMiter limit => { paint with strokeMiter := limit }
  | .setColor color => { paint with color := color }
  | .setBlendMode mode => { paint with blendMode := mode }
  | .setColorSource source => { paint with colorSource := source }
  | .setImageFilter filter => { paint with imageFilter := filter }
  | .setColorFilter filter => { paint with colorFilter := filter }
  | .setPathEffect effect => { paint with pathEffect := effect }
  | .setMaskFilter filter => { paint with maskFilter := filter }

end DlPaint

namespace Canvas

variable (transforms : Transforms p Matrix)

def initial : Canvas p Matrix where
  frame := { transform := transforms.identity }

def push (canvas : Canvas p Matrix) : Canvas p Matrix :=
  { canvas with saved := canvas.frame :: canvas.saved }

def openLayer (bounds : SkRect p.Scalar) (options : SaveLayerOptions)
    (backdrop : Option p.ImageFilter) (attributes : DlPaint p) (frame : Frame p Matrix) :
    Frame p Matrix :=
  { frame with
    layers := frame.layers ++
      [⟨bounds, options, backdrop, attributes, frame.transform, frame.clips⟩] }

/-- Receive a call; none is a `restore` without a save. -/
def receive (canvas : Canvas p Matrix) (index : Nat) : ReceiverCall p → Option (Canvas p Matrix)
  | .set call => some { canvas with attributes := canvas.attributes.set call }
  | .save => some canvas.push
  | .saveLayer bounds options backdrop =>
    some { canvas.push with
      frame := openLayer bounds options backdrop canvas.attributes canvas.frame }
  | .restore =>
    match canvas.saved with
    | [] => none
    | frame :: saved => some { canvas with frame, saved }
  | .transform call =>
    some { canvas with
      frame := { canvas.frame with transform := transforms.concat canvas.frame.transform call } }
  | .clip call =>
    some { canvas with
      frame := { canvas.frame with
        clips := canvas.frame.clips ++ [⟨call, canvas.frame.transform⟩] } }
  | .draw call =>
    some { canvas with
      painted := canvas.painted ++ [⟨index, call, canvas.attributes, canvas.frame⟩] }

def receiveAll (canvas : Canvas p Matrix) : List (Nat × ReceiverCall p) → Option (Canvas p Matrix)
  | [] => some canvas
  | (index, call) :: calls => do
      let canvas ← canvas.receive transforms index call
      canvas.receiveAll calls

theorem receiveAll_append (canvas : Canvas p Matrix) (first second : List (Nat × ReceiverCall p)) :
    canvas.receiveAll transforms (first ++ second) =
      (canvas.receiveAll transforms first).bind fun canvas =>
        canvas.receiveAll transforms second := by
  induction first generalizing canvas with
  | nil => rfl
  | cons head first ih =>
    obtain ⟨index, call⟩ := head
    simp only [List.cons_append, receiveAll, Option.bind_eq_bind]
    cases canvas.receive transforms index call with
    | none => rfl
    | some canvas => exact ih canvas

/-- The canvas of these calls when every restore has its save and every save its restore. -/
def Paints (calls : List (Nat × ReceiverCall p)) (canvas : Canvas p Matrix) : Prop :=
  (initial transforms).receiveAll transforms calls = some canvas ∧ canvas.saved = []

end Canvas

end FlutterEngine.DisplayList
