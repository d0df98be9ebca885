import FlutterEngine.Std.Effects
import FlutterEngine.Std.Machine

/-!
# External textures of the OHOS embedding

`OHOSExternalTexture` of `ohos_external_texture.cpp`, and what it does to native images. What the
system answers to one call of the texture is a `NativeApi`. Fences, pixels and what is drawn with
them are left out, and so is the frame listener of the platform view, which only posts tasks. The
frame numbers do not overflow.
-/

namespace FlutterEngine.Ohos

open FlutterEngine.Std

/-- A native image that the texture made, or one that a caller passed to it. -/
inductive NativeImage where
  | made (index : Nat)
  | given (name : Nat)
deriving DecidableEq, Repr

/-- The producer window of a native image, which lives as long as the image. -/
structure NativeWindow where
  image : NativeImage
deriving DecidableEq, Repr

structure WindowBuffer where
  name : Nat
deriving DecidableEq, Repr

structure DlImage where
  name : Nat
deriving DecidableEq, Repr

/-- The listener the texture was made with, or `DefaultOnFrameAvailable` with its context. -/
inductive FrameListener where
  | own
  | default (context : NativeImage)
deriving DecidableEq, Repr

/-- What the system answers during one call; acquired buffers by the number of those before. -/
structure NativeApi (Rect : Type) where
  create : Bool := true
  acquireNativeWindow : Bool := true
  setOnFrameAvailableListener : FrameListener → Int := fun _ => 0
  acquireNativeWindowBuffer : Nat → Int × Option WindowBuffer := fun _ => (0, none)
  surfaceId : Int × UInt64 := (0, 1)
  bufferQueueSize : Int × Int := (0, 0)
  setBufferGeometry : Int := 0
  getUsage : Int := 0
  nativeBufferSize : Option (Int × Int) := none
  sizeRect : Int → Int → Rect
  /-- The image found or created for the next buffer, and for the last one. -/
  nextDlImage : Option DlImage := none
  oldDlImage : Option DlImage := none
  getImageInfo : Int := 0
  createNativeWindowBuffer : Option WindowBuffer := none
  accessPixels : Bool := true
  createPixelMapBuffer : Option WindowBuffer := none
  copyPixels : Bool := true
  unAccessPixels : Bool := true

structure OHOSExternalTexture (Rect : Type) where
  producerSurfaceId : UInt64 := 0
  producerHasFrame : Bool := false
  producerNativewindowWidth : Int := 0
  producerNativewindowHeight : Int := 0
  producerNativewindow : Option NativeWindow := none
  pixelmapBuffer : Option WindowBuffer := none
  lastNativeWindowBuffer : Option WindowBuffer := none
  nowPaintFrameSeqNum : Int := 0
  nowNewFrameSeqNum : Int := 0
  sourceIsExternal : Bool := false
  nativeImageSource : Option NativeImage := none
  oldDlImage : Option DlImage := none
  oldBufferBounds : Rect
  oldDrawBounds : Rect
  sizeChangeFrames : Nat := 0
  sizeIsChanging : Bool := false
  drawSizeHasChanged : Bool := true
  bufferSizeHasChanged : Bool := true
  sizeChangeBuffer : Option WindowBuffer := none
  /-- Whether `frame_listener_` has a function. -/
  listens : Bool
deriving DecidableEq, Repr

inductive ImageEvent where
  | used (image : NativeImage)
  | destroyed (image : NativeImage)
deriving DecidableEq, Repr

/-- The texture, and what it did to native images, the last event first. -/
structure TextureSession (Rect : Type) where
  texture : OHOSExternalTexture Rect
  made : Nat := 0
  acquired : Nat := 0
  listeners : List (NativeImage × FrameListener) := []
  events : List ImageEvent := []
  /-- The destructor has run. -/
  gone : Bool := false
deriving DecidableEq, Repr

variable {Rect : Type}

abbrev TextureEffect (Rect : Type) : Type → Type := StateT (TextureSession Rect) Option

/-! ## The native images -/

section System

variable (api : NativeApi Rect)

/-- Change members of the texture only. -/
def update (change : OHOSExternalTexture Rect → OHOSExternalTexture Rect) :
    TextureEffect Rect Unit :=
  modify fun session => { session with texture := change session.texture }

/-- A call of the system about this image, or about its window. -/
def useImage (image : NativeImage) : TextureEffect Rect Unit :=
  modify fun session => { session with events := .used image :: session.events }

def nativeImageCreate : TextureEffect Rect (Option NativeImage) := do
  let session ← get
  if api.create then
    set { session with made := session.made + 1 }
    return some (.made session.made)
  else return none

/-- `OH_NativeImage_Destroy`, which also unsets the listener. -/
def nativeImageDestroy (image : NativeImage) : TextureEffect Rect Unit :=
  modify fun session => { session with
    listeners := session.listeners.filter (·.1 ≠ image)
    events := .destroyed image :: session.events }

def nativeImageAcquireNativeWindow (image : NativeImage) :
    TextureEffect Rect (Option NativeWindow) := do
  useImage image
  return if api.acquireNativeWindow then some ⟨image⟩ else none

def nativeImageSetOnFrameAvailableListener (image : NativeImage) (listener : FrameListener) :
    TextureEffect Rect Int := do
  useImage image
  performIf (api.setOnFrameAvailableListener listener = 0) <|
    modify fun session => { session with
      listeners := (image, listener) :: session.listeners.filter (·.1 ≠ image) }
  return api.setOnFrameAvailableListener listener

def nativeImageAcquireNativeWindowBuffer (image : NativeImage) :
    TextureEffect Rect (Int × Option WindowBuffer) := do
  useImage image
  let session ← get
  set { session with acquired := session.acquired + 1 }
  return api.acquireNativeWindowBuffer session.acquired

end System

namespace OHOSExternalTexture

variable (api : NativeApi Rect)

/-! ## Buffers -/

/-- A buffer that cannot be released is destroyed, without its image. -/
def releaseWindowBuffer (image : NativeImage) : TextureEffect Rect Unit :=
  useImage image

def destroyPixelMapBuffer : TextureEffect Rect Unit :=
  update fun texture => { texture with pixelmapBuffer := none }

def updateWindowSize : TextureEffect Rect Rect := do
  update fun texture =>
    match api.nativeBufferSize with
    | none => texture
    | some (width, height) => { texture with
        producerNativewindowWidth := width, producerNativewindowHeight := height }
  let session ← get
  return api.sizeRect session.texture.producerNativewindowWidth
    session.texture.producerNativewindowHeight

/-- The last loop of `GetConsumerNativeBuffer`, which ends after so many frames. -/
def skipDelayed (image : NativeImage) (nowNwBuffer : Option WindowBuffer) :
    Nat → TextureEffect Rect (Option WindowBuffer)
  | 0 => return nowNwBuffer
  | frames + 1 => do
      let (ret, nwBuffer) ← nativeImageAcquireNativeWindowBuffer api image
      if nwBuffer.isSome ∧ ret = 0 then
        releaseWindowBuffer image
        update fun texture => { texture with
          lastNativeWindowBuffer := nwBuffer
          nowPaintFrameSeqNum := texture.nowPaintFrameSeqNum + 1 }
        skipDelayed image nwBuffer frames
      else
        update fun texture => { texture with nowPaintFrameSeqNum := texture.nowNewFrameSeqNum }
        return nowNwBuffer

/-- `GetConsumerNativeBuffer`, of a buffer that may be drawn. -/
def consumeBuffer (image : NativeImage) (nowNwBuffer : Option WindowBuffer) :
    TextureEffect Rect (Option WindowBuffer) := do
  let session ← get
  performIf session.texture.lastNativeWindowBuffer.isSome (releaseWindowBuffer image)
  update fun texture => { texture with
    lastNativeWindowBuffer := nowNwBuffer
    nowPaintFrameSeqNum := texture.nowPaintFrameSeqNum + 1 }
  let session ← get
  let nowNwBuffer ← skipDelayed api image nowNwBuffer
    (session.texture.nowNewFrameSeqNum - (session.texture.nowPaintFrameSeqNum + 3)).toNat
  update fun texture =>
    if texture.nowPaintFrameSeqNum < texture.nowNewFrameSeqNum ∧ texture.listens then
      { texture with nowNewFrameSeqNum := texture.nowNewFrameSeqNum - 1 }
    else texture
  return nowNwBuffer

variable [DecidableEq Rect]

/-- `GetConsumerNativeBuffer`, from the next buffer or the one kept while the size changed. -/
def chooseBuffer (image : NativeImage) (nowNwBuffer : Option WindowBuffer) :
    TextureEffect Rect (Option WindowBuffer) := do
  let session ← get
  performIf (nowNwBuffer.isSome ∧ session.texture.sizeChangeBuffer.isSome) do
    releaseWindowBuffer image
    update fun texture => { texture with nowPaintFrameSeqNum := texture.nowPaintFrameSeqNum + 1 }
  let nowNwBuffer := nowNwBuffer <|> session.texture.sizeChangeBuffer
  update fun texture => { texture with sizeChangeBuffer := none }
  let nowBufferBounds ← updateWindowSize api
  update fun texture => { texture with
    bufferSizeHasChanged := nowBufferBounds ≠ texture.oldBufferBounds }
  let session ← get
  if session.texture.sizeIsChanging ∧ ¬session.texture.drawSizeHasChanged ∧
      session.texture.bufferSizeHasChanged then
    update fun texture => { texture with sizeChangeBuffer := nowNwBuffer }
    return none
  else
    update fun texture => { texture with oldBufferBounds := nowBufferBounds }
    consumeBuffer api image nowNwBuffer

def getConsumerNativeBuffer : TextureEffect Rect (Option WindowBuffer) := do
  let session ← get
  if ¬session.texture.producerHasFrame then return session.texture.pixelmapBuffer
  else
    performIf session.texture.pixelmapBuffer.isSome destroyPixelMapBuffer
    match session.texture.nativeImageSource with
    | none => return none
    | some image =>
      let (ret, nowNwBuffer) ← nativeImageAcquireNativeWindowBuffer api image
      if (nowNwBuffer.isNone ∧ session.texture.sizeChangeBuffer.isNone) ∨ ret ≠ 0 then
        -- The queue of buffers is empty.
        update fun texture => { texture with nowPaintFrameSeqNum := texture.nowNewFrameSeqNum }
        return none
      else chooseBuffer api image nowNwBuffer

/-! ## Painting -/

def getNextDrawImage : TextureEffect Rect (Option DlImage) := do
  let nativeWindowBuffer ← getConsumerNativeBuffer api
  return nativeWindowBuffer.bind fun _ => api.nextDlImage

def getOldDlImage : TextureEffect Rect (Option DlImage) := do
  let session ← get
  performIf (session.texture.oldDlImage.isNone ∧ session.texture.lastNativeWindowBuffer.isSome) <|
    update fun texture => { texture with oldDlImage := api.oldDlImage }
  let session ← get
  return session.texture.oldDlImage

/-- What of `GetNewTransformBound` is asked of the image. -/
def getNewTransformBound : TextureEffect Rect Unit := do
  let session ← get
  match session.texture.pixelmapBuffer, session.texture.nativeImageSource with
  | none, some image => useImage image
  | _, _ => pure ()

/-- The end of a size change that was painted, or lasts too long. -/
def endSizeChange (texture : OHOSExternalTexture Rect) : OHOSExternalTexture Rect :=
  if ¬texture.sizeIsChanging then texture
  else if (texture.bufferSizeHasChanged ∧ texture.drawSizeHasChanged) ∨
      texture.sizeChangeFrames + 1 > 10 then
    { texture with sizeIsChanging := false, sizeChangeFrames := 0 }
  else { texture with sizeChangeFrames := texture.sizeChangeFrames + 1 }

/-- The next image, which becomes the old one, or else the old one. -/
def nextOrOldDlImage : Option DlImage → TextureEffect Rect (Option DlImage)
  | none => getOldDlImage api
  | some drawDlImage => do
      update fun texture => { texture with oldDlImage := some drawDlImage }
      return some drawDlImage

def chooseDlImage (freeze : Bool) : TextureEffect Rect (Option DlImage) :=
  if freeze then getOldDlImage api
  else do
    let drawDlImage ← getNextDrawImage api
    nextOrOldDlImage api drawDlImage

def paint (bounds : Rect) (freeze : Bool) : TextureEffect Rect Unit := do
  update fun texture => { texture with drawSizeHasChanged := bounds ≠ texture.oldDrawBounds }
  let drawDlImage ← chooseDlImage api freeze
  update fun texture =>
    endSizeChange <|
      if texture.sizeIsChanging ∧ texture.drawSizeHasChanged ∧ ¬texture.bufferSizeHasChanged then
        texture
      else { texture with oldDrawBounds := bounds }
  performIf drawDlImage.isSome getNewTransformBound

/-! ## Frames and contexts -/

/-- The loop of `MarkNewFrameAvailable`, which ends after so many frames. -/
def skipJanked (image : NativeImage) : Nat → TextureEffect Rect Unit
  | 0 => pure ()
  | frames + 1 => do
      let (ret, buffer) ← nativeImageAcquireNativeWindowBuffer api image
      if buffer.isSome ∧ ret = 0 then
        releaseWindowBuffer image
        update fun texture => { texture with
          nowPaintFrameSeqNum := texture.nowPaintFrameSeqNum + 1 }
        skipJanked image frames
      else
        update fun texture => { texture with nowPaintFrameSeqNum := texture.nowNewFrameSeqNum }

def markNewFrameAvailable : TextureEffect Rect Unit := do
  update fun texture => { texture with
    nowNewFrameSeqNum := texture.nowNewFrameSeqNum + 1, producerHasFrame := true }
  let session ← get
  match session.texture.producerNativewindow, session.texture.nativeImageSource with
  | some window, some image => do
      useImage window.image
      let (ret, bufferQueueSize) := api.bufferQueueSize
      let maxJankFrame := (bufferQueueSize * 2).tdiv 3
      performIf (¬(ret ≠ 0 ∨ bufferQueueSize > 100) ∧ maxJankFrame > 1) <|
        skipJanked api image (session.texture.nowNewFrameSeqNum -
          session.texture.nowPaintFrameSeqNum - maxJankFrame + 1).toNat
  | _, _ => pure ()

def onTextureUnregistered : TextureEffect Rect Unit :=
  update fun texture => { texture with oldDlImage := none }

def onGrContextCreated : TextureEffect Rect Unit := do
  let session ← get
  match session.texture.nativeImageSource with
  | none => pure ()
  | some image =>
    let _ ← nativeImageSetOnFrameAvailableListener api image .own

def onGrContextDestroyed : TextureEffect Rect Unit := do
  let session ← get
  match session.texture.nativeImageSource with
  | none => pure ()
  | some image =>
    let _ ← nativeImageSetOnFrameAvailableListener api image (.default image)
    update fun texture => { texture with oldDlImage := none }

/-! ## Producers -/

def getProducerSurfaceId : TextureEffect Rect UInt64 := do
  let session ← get
  match session.texture.nativeImageSource with
  | none => return 0
  | some image =>
    useImage image
    let (ret, surfaceId) := api.surfaceId
    if ret ≠ 0 then return 0
    else
      update fun texture => { texture with producerSurfaceId := surfaceId }
      return surfaceId

/-- The window of a producer, acquired when there is none yet. -/
def producerWindow (image : NativeImage) : TextureEffect Rect (Option NativeWindow) := do
  let session ← get
  match session.texture.producerNativewindow with
  | some window => return some window
  | none =>
    let window ← nativeImageAcquireNativeWindow api image
    update fun texture => { texture with producerNativewindow := window }
    return window

def getProducerWindowId : TextureEffect Rect (Option NativeWindow) := do
  let session ← get
  match session.texture.nativeImageSource with
  | none => return none
  | some image => producerWindow api image

def setProducerWindowSize (width height : Int) : TextureEffect Rect Bool := do
  let session ← get
  match session.texture.nativeImageSource with
  | none => return false
  | some image =>
    match ← producerWindow api image with
    | none => return false
    | some window =>
      useImage window.image
      if api.setBufferGeometry ≠ 0 then return false
      else
        update fun texture => { texture with
          producerNativewindowWidth := width, producerNativewindowHeight := height }
        return true

def notifyResizing (width height : Int) : TextureEffect Rect Unit :=
  update fun texture =>
    if width ≠ texture.producerNativewindowWidth ∨ height ≠ texture.producerNativewindowHeight then
      { texture with sizeIsChanging := true }
    else texture

/-- `SetPixelMapAsProducer`, of pointers that may be null; a failed `UnAccessPixels` is fatal. -/
def setPixelMapAsProducer (pixelMap nativeBuffer : Bool) : TextureEffect Rect Bool := do
  if ¬pixelMap ∨ api.getImageInfo ≠ 0 then return false
  else
    performIf nativeBuffer do
      destroyPixelMapBuffer
      update fun texture => { texture with pixelmapBuffer := api.createNativeWindowBuffer }
    if nativeBuffer ∧ api.createNativeWindowBuffer.isSome then return true
    else if ¬api.accessPixels then return false
    else
      destroyPixelMapBuffer
      update fun texture => { texture with pixelmapBuffer := api.createPixelMapBuffer }
      let session ← get
      let endRet := session.texture.pixelmapBuffer.isSome &&
        session.texture.producerNativewindow.isSome && api.copyPixels
      if api.unAccessPixels then return endRet else failure

/-! ## Native images made, set and reset -/

/-- An image is destroyed, unless a caller gave it; the frames of that one are let go of. -/
def endImage (sourceIsExternal : Bool) (image : NativeImage) : TextureEffect Rect Unit :=
  if ¬sourceIsExternal then nativeImageDestroy image
  else do
    let _ ← nativeImageSetOnFrameAvailableListener api image (.default image)

/-- What `DestroyNativeImageSource` does to a source that is not null. -/
def destroySource (texture : OHOSExternalTexture Rect) :
    Option NativeImage → TextureEffect Rect Unit
  | none => pure ()
  | some image => do
      performIf texture.lastNativeWindowBuffer.isSome (releaseWindowBuffer image)
      performIf texture.sizeChangeBuffer.isSome (releaseWindowBuffer image)
      endImage api texture.sourceIsExternal image
      update fun texture => { texture with
        lastNativeWindowBuffer := none, sizeChangeBuffer := none,
        nativeImageSource := none, producerNativewindow := none }

def destroyNativeImageSource : TextureEffect Rect Unit := do
  let session ← get
  destroySource api session.texture session.texture.nativeImageSource
  update fun texture => { texture with nowPaintFrameSeqNum := 0, nowNewFrameSeqNum := 0 }

def setNativeWindowCPUAccess : Option NativeWindow → TextureEffect Rect Unit
  | none => pure ()
  | some window => do
      useImage window.image
      performIf (api.getUsage = 0) (useImage window.image)

/-- The constructor. -/
def construct : TextureEffect Rect Unit := do
  match ← nativeImageCreate api with
  | none => pure ()
  | some image =>
    update fun texture => { texture with nativeImageSource := some image }
    let window ← nativeImageAcquireNativeWindow api image
    update fun texture => { texture with producerNativewindow := window }
    setNativeWindowCPUAccess api window
    let _ ← nativeImageSetOnFrameAvailableListener api image .own

/-- The destructor. -/
def destruct : TextureEffect Rect Unit := do
  destroyNativeImageSource api
  destroyPixelMapBuffer
  modify fun session => { session with gone := true }

/-- The buffers that an image still has are taken out, until there is none. -/
def drain (image : NativeImage) : Nat → TextureEffect Rect Unit
  | 0 => useImage image
  | queued + 1 => do
      useImage image
      releaseWindowBuffer image
      drain image queued

/-- `SetExternalNativeImage`, of a pointer that may be null, to an image with so many buffers. -/
def setExternalNativeImage (nativeImage : Option Nat) (queued : Nat) :
    TextureEffect Rect Bool := do
  let session ← get
  match nativeImage with
  | none => return false
  | some name =>
    if session.texture.nativeImageSource = some (.given name) then return true
    else
      let ret ← nativeImageSetOnFrameAvailableListener api (.given name) .own
      if ret ≠ 0 then return false
      else
        drain (.given name) queued
        destroyNativeImageSource api
        let window ← nativeImageAcquireNativeWindow api (.given name)
        update fun texture => { texture with
          nativeImageSource := some (.given name), producerNativewindow := window,
          sourceIsExternal := true, nowPaintFrameSeqNum := 0, nowNewFrameSeqNum := 0 }
        return true

/-- `Reset`, with the image that it made. -/
def resetTo (image : NativeImage) : TextureEffect Rect UInt64 := do
  update fun texture => { texture with nativeImageSource := some image }
  let window ← nativeImageAcquireNativeWindow api image
  update fun texture => { texture with producerNativewindow := window }
  if window.isNone then
    nativeImageDestroy image
    update fun texture => { texture with nativeImageSource := none }
    return 0
  else
    let ret ← nativeImageSetOnFrameAvailableListener api image .own
    if ret ≠ 0 then
      nativeImageDestroy image
      update fun texture => { texture with nativeImageSource := none }
      return 0
    else
      useImage image
      return api.surfaceId.2

def reset (needSurfaceId : Bool) : TextureEffect Rect UInt64 := do
  onTextureUnregistered
  destroyNativeImageSource api
  if ¬needSurfaceId then return 0
  else
    match ← nativeImageCreate api with
    | none => return 0
    | some image => resetTo api image

def defaultOnFrameAvailable (nativeImage : NativeImage) : TextureEffect Rect Unit := do
  let (ret, buffer) ← nativeImageAcquireNativeWindowBuffer api nativeImage
  performIf (buffer.isSome ∧ ret = 0) (releaseWindowBuffer nativeImage)

end OHOSExternalTexture

/-! ## Runs -/

inductive TextureCall (Rect : Type) where
  | paint (bounds : Rect) (freeze : Bool)
  | markNewFrameAvailable
  | onTextureUnregistered
  | onGrContextCreated
  | onGrContextDestroyed
  | getProducerSurfaceId
  | getProducerWindowId
  | setProducerWindowSize (width height : Int)
  | notifyResizing (width height : Int)
  | setPixelMapAsProducer (pixelMap nativeBuffer : Bool)
  | setExternalNativeImage (nativeImage : Option Nat) (queued : Nat)
  | reset (needSurfaceId : Bool)
  /-- The system tells the listener of this image of a frame. -/
  | frameAvailable (image : NativeImage)
  | destruct

namespace TextureSession

open OHOSExternalTexture

variable [DecidableEq Rect]

/-- What the constructor starts from. -/
def fresh (empty : Rect) (listens : Bool) : TextureSession Rect where
  texture := { oldBufferBounds := empty, oldDrawBounds := empty, listens := listens }

/-- A frame for an image, whose own listener posts a task that calls `MarkNewFrameAvailable`. -/
def frameAvailable (api : NativeApi Rect) (image : NativeImage) : TextureEffect Rect Unit := do
  let session ← get
  match session.listeners.lookup image with
  | none => failure
  | some .own => pure ()
  | some (.default context) => defaultOnFrameAvailable api context

def perform (api : NativeApi Rect) : TextureCall Rect → TextureEffect Rect Unit
  | .paint bounds freeze => paint api bounds freeze
  | .markNewFrameAvailable => markNewFrameAvailable api
  | .onTextureUnregistered => onTextureUnregistered
  | .onGrContextCreated => onGrContextCreated api
  | .onGrContextDestroyed => onGrContextDestroyed api
  | .getProducerSurfaceId => do let _ ← getProducerSurfaceId api
  | .getProducerWindowId => do let _ ← getProducerWindowId api
  | .setProducerWindowSize width height => do
      let _ ← setProducerWindowSize api width height
  | .notifyResizing width height => notifyResizing width height
  | .setPixelMapAsProducer pixelMap nativeBuffer => do
      let _ ← setPixelMapAsProducer api pixelMap nativeBuffer
  | .setExternalNativeImage nativeImage queued => do
      let _ ← setExternalNativeImage api nativeImage queued
  | .reset needSurfaceId => do let _ ← reset api needSurfaceId
  | .frameAvailable image => frameAvailable api image
  | .destruct => destruct api

/-- A new texture and the calls of it, each with what the system answers, until it is gone. -/
def machine : Machine (TextureSession Rect) (TextureCall Rect × NativeApi Rect) where
  Initial session := ∃ api empty listens,
    (construct api).run (fresh empty listens) = some ((), session)
  step session call :=
    if session.gone then none
    else ((perform call.2 call.1).run session).map (·.2)

end TextureSession

end FlutterEngine.Ohos
