import FlutterEngine.Ohos.ExternalTexture

/-!
# The native images of an external texture

Which native images a texture made, uses and destroys, over every run of its calls.
-/

namespace FlutterEngine.Ohos

open FlutterEngine.Std OHOSExternalTexture

/-! ## The ledger of images -/

/-- The image that an event is about. -/
def ImageEvent.image : ImageEvent → NativeImage
  | .used image | .destroyed image => image

variable {R : Type} {api : NativeApi R} {held : Option NativeImage} {image : NativeImage}
  {about : OHOSExternalTexture R → Prop}

/-- An image that can be used: the one held, or one of a caller. -/
def Live (held : Option NativeImage) (image : NativeImage) : Prop :=
  held = some image ∨ ∃ name, image = .given name

/-- Of the images the texture made, it destroyed all but the one it holds; and none of them comes
up after that. -/
structure Cared (held : Option NativeImage) (session : TextureSession R) : Prop where
  ordered : session.events.Pairwise fun later earlier => earlier ≠ .destroyed later.image
  own : ∀ image, .destroyed image ∈ session.events → ∃ index < session.made, image = .made index
  holds : ∀ image ∈ held, .destroyed image ∉ session.events ∧
    ∀ index, image = .made index → index < session.made
  kept : ∀ index < session.made,
    .destroyed (.made index) ∈ session.events ∨ held = some (.made index)
  listening : ∀ image context, (image, .default context) ∈ session.listeners →
    context = image ∧ Live held image

variable {session : TextureSession R}

theorem Cared.not_destroyed (cared : Cared held session)
    (live : Live held image) : .destroyed image ∉ session.events := by
  obtain holds | ⟨name, rfl⟩ := live
  · exact (cared.holds image holds).1
  · intro destroyed
    obtain ⟨index, _, same⟩ := cared.own _ destroyed
    cases same

/-- The ledger, with what is known of the texture. -/
def With (held : Option NativeImage) (about : OHOSExternalTexture R → Prop)
    (session : TextureSession R) : Prop :=
  Cared held session ∧ about session.texture ∧ session.gone = false

variable {change : OHOSExternalTexture R → OHOSExternalTexture R}

theorem update_ensures (about' : OHOSExternalTexture R → Prop)
    (changes : ∀ texture, about texture → about' (change texture)) :
    Ensures (With held about) (update change) fun _ => With held about' :=
  .modify fun session start =>
    ⟨⟨start.1.ordered, start.1.own, start.1.holds, start.1.kept, start.1.listening⟩,
      changes session.texture start.2.1, start.2.2⟩

theorem useImage_keeps (live : Live held image) : Keeps (With held about) (useImage image) := by
  refine .modify fun session ⟨cared, about, here⟩ => ⟨?_, about, here⟩
  have alive := cared.not_destroyed live
  refine ⟨?_, ?_, ?_, ?_, ?_⟩
  · refine List.pairwise_cons.mpr ⟨?_, cared.ordered⟩
    rintro earlier listed rfl
    exact alive listed
  · intro other destroyed
    exact cared.own other ((List.mem_cons.mp destroyed).resolve_left (by simp))
  · intro other holds
    obtain ⟨kept, known⟩ := cared.holds other holds
    exact ⟨by simpa using kept, known⟩
  · intro index known
    exact (cared.kept index known).imp_left (List.mem_cons_of_mem _)
  · exact cared.listening

/-- What is made is held. -/
theorem nativeImageCreate_ensures :
    Ensures (With none about) (nativeImageCreate api) fun made =>
      match made with
      | none => With none about
      | some image => With (some image) fun texture =>
        about texture ∧ api.create = true ∧ ∃ index, image = .made index := by
  refine .get_bind fun session ⟨cared, about, here⟩ => ?_
  refine .ite (fun creates => ?_) fun fails => ?_
  · rintro _ _ _ rfl runs
    cases runs
    refine ⟨⟨cared.ordered, ?_, ?_, ?_, ?_⟩, ⟨about, creates, _, rfl⟩, here⟩
    · intro image destroyed
      obtain ⟨index, known, same⟩ := cared.own image destroyed
      exact ⟨index, Nat.lt_succ_of_lt known, same⟩
    · rintro _ ⟨rfl⟩
      refine ⟨fun destroyed => ?_, ?_⟩
      · obtain ⟨index, known, same⟩ := cared.own _ destroyed
        cases same
        exact absurd known (lt_irrefl _)
      · rintro index ⟨rfl⟩
        exact Nat.lt_succ_self _
    · intro index known
      obtain known | rfl := Nat.lt_succ_iff_lt_or_eq.mp known
      · exact .inl ((cared.kept index known).resolve_right (by simp))
      · exact .inr rfl
    · intro image context listed
      obtain ⟨same, live⟩ := cared.listening image context listed
      exact ⟨same, .inr (live.resolve_left (by simp))⟩
  · refine .pure ?_
    rintro _ rfl
    exact ⟨cared, about, here⟩

/-- An image that is made and held can be destroyed, and none is held then. -/
theorem nativeImageDestroy_ensures {index : Nat} :
    Ensures (With (some (.made index)) about) (nativeImageDestroy (.made index))
      fun _ => With none about := by
  refine .modify fun session ⟨cared, about, here⟩ => ⟨?_, about, here⟩
  obtain ⟨alive, known⟩ := cared.holds _ rfl
  refine ⟨?_, ?_, by simp, ?_, ?_⟩
  · refine List.pairwise_cons.mpr ⟨?_, cared.ordered⟩
    rintro earlier listed rfl
    exact alive listed
  · intro image destroyed
    obtain same | destroyed := List.mem_cons.mp destroyed
    · cases same
      exact ⟨index, known index rfl, rfl⟩
    · exact cared.own image destroyed
  · intro other otherKnown
    obtain destroyed | same := cared.kept other otherKnown
    · exact .inl (List.mem_cons_of_mem _ destroyed)
    · cases same
      exact .inl List.mem_cons_self
  · intro image context listed
    obtain ⟨listed, other⟩ := List.mem_filter.mp listed
    obtain ⟨same, live⟩ := cared.listening image context listed
    refine ⟨same, .inr (live.resolve_left ?_)⟩
    rintro ⟨rfl⟩
    simp at other

/-- An image of a caller is let go of. -/
theorem With.release {name : Nat}
    (start : With (some (.given name)) about session) : With none about session := by
  obtain ⟨cared, about, here⟩ := start
  refine ⟨⟨cared.ordered, cared.own, by simp, ?_, ?_⟩, about, here⟩
  · intro index known
    exact .inl ((cared.kept index known).resolve_right (by simp))
  · intro image context listed
    obtain ⟨same, holds | given⟩ := cared.listening image context listed
    · exact ⟨same, .inr ⟨name, (Option.some_inj.mp holds).symm⟩⟩
    · exact ⟨same, .inr given⟩

/-- An image of a caller is taken up. -/
theorem With.take (start : With none about session) (name : Nat) :
    With (some (.given name)) about session := by
  obtain ⟨cared, about, here⟩ := start
  refine ⟨⟨cared.ordered, cared.own, ?_, ?_, ?_⟩, about, here⟩
  · rintro _ ⟨rfl⟩
    exact ⟨cared.not_destroyed (.inr ⟨name, rfl⟩), by rintro index ⟨⟩⟩
  · intro index known
    exact .inl ((cared.kept index known).resolve_right (by simp))
  · intro image context listed
    obtain ⟨same, live⟩ := cared.listening image context listed
    exact ⟨same, .inr (live.resolve_left (by simp))⟩

/-! ## Calls of the system -/

theorem nativeImageAcquireNativeWindow_ensures (live : Live held image) :
    Ensures (With held about) (nativeImageAcquireNativeWindow api image) fun window session =>
      With held about session ∧
        window = if api.acquireNativeWindow then some ⟨image⟩ else none :=
  .bind (useImage_keeps live) fun _ => .pure fun _ start => ⟨start, rfl⟩

variable {listener : FrameListener}

/-- The default listener of an image is told the image itself. -/
theorem nativeImageSetOnFrameAvailableListener_ensures (live : Live held image)
    (told : ∀ context, listener = .default context → context = image) :
    Ensures (With held about) (nativeImageSetOnFrameAvailableListener api image listener)
      fun ret session =>
        With held about session ∧ ret = api.setOnFrameAvailableListener listener := by
  refine .bind (useImage_keeps live) fun _ => .bind
    (.performIf (fun _ => ?_) fun _ _ => id : Keeps (With held about) _)
    fun _ => .pure fun _ start => ⟨start, rfl⟩
  refine .modify fun session ⟨cared, about, here⟩ =>
    ⟨⟨cared.ordered, cared.own, cared.holds, cared.kept, ?_⟩, about, here⟩
  intro other context listed
  obtain same | listed := List.mem_cons.mp listed
  · obtain ⟨rfl, rfl⟩ := Prod.mk.inj same
    exact ⟨told context rfl, live⟩
  · exact cared.listening other context (List.mem_filter.mp listed).1

theorem nativeImageSetOnFrameAvailableListener_keeps (live : Live held image)
    (told : ∀ context, listener = .default context → context = image) :
    Keeps (With held about) (nativeImageSetOnFrameAvailableListener api image listener) :=
  (nativeImageSetOnFrameAvailableListener_ensures live told).mono (fun _ => id) fun _ _ => And.left

theorem nativeImageAcquireNativeWindowBuffer_keeps (live : Live held image) :
    Keeps (With held about) (nativeImageAcquireNativeWindowBuffer api image) := by
  refine .bind (useImage_keeps live) fun _ => .get_bind fun session start => ?_
  rintro _ _ _ rfl runs
  cases runs
  exact ⟨⟨start.1.ordered, start.1.own, start.1.holds, start.1.kept, start.1.listening⟩, start.2⟩

/-! ## Calls that keep the image -/

/-- The source is the image held, the flag says whether a caller gave it, and the window is its
window. -/
structure Consistent (held : Option NativeImage) (texture : OHOSExternalTexture R) : Prop where
  source : texture.nativeImageSource = held
  flag : ∀ image ∈ held, texture.sourceIsExternal = true ↔ ∃ name, image = .given name
  window : ∀ window ∈ texture.producerNativewindow, ∀ image ∈ held, window.image = image

/-- The ledger and a consistent texture. -/
abbrev Steady (held : Option NativeImage) : TextureSession R → Prop :=
  With held (Consistent held)

theorem Steady.live (steady : Steady held session)
    (source : session.texture.nativeImageSource = some image) : Live held image :=
  .inl (steady.2.1.source ▸ source)

theorem Steady.window_live {window : NativeWindow} (steady : Steady held session)
    (source : session.texture.nativeImageSource = some image)
    (acquired : session.texture.producerNativewindow = some window) : Live held window.image := by
  have live : held = some image := steady.2.1.source ▸ source
  rw [steady.2.1.window window acquired image live]
  exact .inl live

theorem update_keeps
    (same : ∀ texture, Consistent held texture → Consistent held (change texture)) :
    Keeps (Steady held) (update change) :=
  update_ensures (Consistent held) same

theorem skipDelayed_keeps (live : Live held image) (frames : Nat) :
    ∀ nowNwBuffer,
      Keeps (Steady (R := R) held) (skipDelayed api image nowNwBuffer frames) := by
  induction frames with
  | zero => exact fun _ => .pure fun _ => id
  | succ frames ih =>
    intro nowNwBuffer
    refine .bind (nativeImageAcquireNativeWindowBuffer_keeps live) fun ⟨ret, nwBuffer⟩ =>
      .ite (fun _ => ?_) fun _ => ?_
    · exact .bind (useImage_keeps live) fun _ =>
        .bind (update_keeps fun _ same => ⟨same.1, same.2, same.3⟩) fun _ => ih nwBuffer
    · exact .bind (update_keeps fun _ same => ⟨same.1, same.2, same.3⟩) fun _ =>
        .pure fun _ => id

theorem consumeBuffer_keeps (live : Live held image) (nowNwBuffer : Option WindowBuffer) :
    Keeps (Steady (R := R) held) (consumeBuffer api image nowNwBuffer) := by
  refine .read fun session _ => .bind (.performIf (fun _ => useImage_keeps live) fun _ _ => id)
    fun _ => .bind (update_keeps fun _ same => ⟨same.1, same.2, same.3⟩) fun _ =>
    .read fun session _ => .bind (skipDelayed_keeps live _ _) fun _ =>
    .bind (update_keeps fun texture same => ?_) fun _ => .pure fun _ => id
  split
  · exact ⟨same.1, same.2, same.3⟩
  · exact same

theorem updateWindowSize_keeps : Keeps (Steady (R := R) held) (updateWindowSize api) := by
  refine .bind (update_keeps fun texture same => ?_) fun _ => .read fun _ _ => .pure fun _ => id
  split
  · exact same
  · exact ⟨same.1, same.2, same.3⟩

theorem destroyPixelMapBuffer_keeps : Keeps (Steady (R := R) held) destroyPixelMapBuffer :=
  update_keeps fun _ same => ⟨same.1, same.2, same.3⟩

theorem getOldDlImage_keeps : Keeps (Steady (R := R) held) (getOldDlImage api) :=
  .read fun _ _ => .bind
    (.performIf (fun _ => update_keeps fun _ same => ⟨same.1, same.2, same.3⟩) fun _ _ => id)
    fun _ => .read fun _ _ => .pure fun _ => id

theorem getNewTransformBound_keeps : Keeps (Steady (R := R) held) getNewTransformBound := by
  refine .read fun session steady => ?_
  split
  · rename_i source
    exact useImage_keeps (Steady.live steady source)
  · exact .pure fun _ => id

theorem Consistent.endSizeChange {texture : OHOSExternalTexture R}
    (same : Consistent held texture) : Consistent held (endSizeChange texture) := by
  unfold OHOSExternalTexture.endSizeChange
  split_ifs
  · exact ⟨same.1, same.2, same.3⟩
  · exact ⟨same.1, same.2, same.3⟩
  · exact same

theorem nextOrOldDlImage_keeps (drawDlImage : Option DlImage) :
    Keeps (Steady (R := R) held) (nextOrOldDlImage api drawDlImage) := by
  cases drawDlImage with
  | none => exact getOldDlImage_keeps
  | some drawDlImage =>
    exact .bind (update_keeps fun _ same => ⟨same.1, same.2, same.3⟩) fun _ =>
      .pure fun _ => id

section Painting

variable [DecidableEq R]

theorem chooseBuffer_keeps (live : Live held image) (nowNwBuffer : Option WindowBuffer) :
    Keeps (Steady (R := R) held) (chooseBuffer api image nowNwBuffer) := by
  refine .read fun session _ => .bind (.performIf (fun _ => ?_) fun _ _ => id) fun _ =>
    .bind (update_keeps fun _ same => ⟨same.1, same.2, same.3⟩) fun _ =>
    .bind updateWindowSize_keeps fun _ =>
    .bind (update_keeps fun _ same => ⟨same.1, same.2, same.3⟩) fun _ =>
    .read fun session _ => .ite (fun _ => ?_) fun _ => ?_
  · exact .bind (useImage_keeps live) fun _ =>
      update_keeps fun _ same => ⟨same.1, same.2, same.3⟩
  · exact .bind (update_keeps fun _ same => ⟨same.1, same.2, same.3⟩) fun _ =>
      .pure fun _ => id
  · exact .bind (update_keeps fun _ same => ⟨same.1, same.2, same.3⟩) fun _ =>
      consumeBuffer_keeps live _

theorem getConsumerNativeBuffer_keeps :
    Keeps (Steady (R := R) held) (getConsumerNativeBuffer api) := by
  refine .read fun session steady => .ite (fun _ => .pure fun _ => id) fun _ =>
    .bind (.performIf (fun _ => destroyPixelMapBuffer_keeps) fun _ _ => id) fun _ => ?_
  split
  · exact .pure fun _ => id
  · rename_i image source
    have live := Steady.live steady source
    refine .bind (nativeImageAcquireNativeWindowBuffer_keeps live) fun ⟨ret, nowNwBuffer⟩ =>
      .ite (fun _ => ?_) fun _ => chooseBuffer_keeps live nowNwBuffer
    exact .bind (update_keeps fun _ same => ⟨same.1, same.2, same.3⟩) fun _ =>
      .pure fun _ => id

theorem paint_keeps (bounds : R) (freeze : Bool) :
    Keeps (Steady held) (paint api bounds freeze) := by
  refine .bind (update_keeps fun _ same => ⟨same.1, same.2, same.3⟩) fun _ => .bind
    (.ite (fun _ => getOldDlImage_keeps) fun _ => .bind
      (.bind getConsumerNativeBuffer_keeps fun _ => .pure fun _ => id) nextOrOldDlImage_keeps)
    fun _ => .bind (update_keeps fun texture same => ?_) fun _ =>
    .performIf (fun _ => getNewTransformBound_keeps) fun _ _ => id
  apply Consistent.endSizeChange
  split
  · exact same
  · exact ⟨same.1, same.2, same.3⟩

end Painting

theorem skipJanked_keeps (live : Live held image) (frames : Nat) :
    Keeps (Steady (R := R) held) (skipJanked api image frames) := by
  induction frames with
  | zero => exact .pure fun _ => id
  | succ frames ih =>
    refine .bind (nativeImageAcquireNativeWindowBuffer_keeps live) fun ⟨ret, buffer⟩ =>
      .ite (fun _ => ?_) fun _ => ?_
    · exact .bind (useImage_keeps live) fun _ =>
        .bind (update_keeps fun _ same => ⟨same.1, same.2, same.3⟩) fun _ => ih
    · exact update_keeps fun _ same => ⟨same.1, same.2, same.3⟩

theorem markNewFrameAvailable_keeps : Keeps (Steady (R := R) held) (markNewFrameAvailable api) := by
  refine .bind (update_keeps fun _ same => ⟨same.1, same.2, same.3⟩) fun _ =>
    .read fun session steady => ?_
  split
  · rename_i window image acquired source
    exact .bind (useImage_keeps (Steady.window_live steady source acquired)) fun _ =>
      .performIf (fun _ => skipJanked_keeps (Steady.live steady source) _) fun _ _ => id
  · exact .pure fun _ => id

theorem onTextureUnregistered_keeps : Keeps (Steady (R := R) held) onTextureUnregistered :=
  update_keeps fun _ same => ⟨same.1, same.2, same.3⟩

theorem onGrContextCreated_keeps : Keeps (Steady (R := R) held) (onGrContextCreated api) := by
  refine .read fun session steady => ?_
  split
  · exact .pure fun _ => id
  · rename_i source
    exact .bind (nativeImageSetOnFrameAvailableListener_keeps (Steady.live steady source) (by simp))
      fun _ => .pure fun _ => id

theorem onGrContextDestroyed_keeps : Keeps (Steady (R := R) held) (onGrContextDestroyed api) := by
  refine .read fun session steady => ?_
  split
  · exact .pure fun _ => id
  · rename_i source
    exact .bind (nativeImageSetOnFrameAvailableListener_keeps (Steady.live steady source) (by simp))
      fun _ => update_keeps fun _ same => ⟨same.1, same.2, same.3⟩

theorem getProducerSurfaceId_keeps : Keeps (Steady (R := R) held) (getProducerSurfaceId api) := by
  refine .read fun session steady => ?_
  split
  · exact .pure fun _ => id
  · rename_i source
    refine .bind (useImage_keeps (Steady.live steady source)) fun _ =>
      .ite (fun _ => .pure fun _ => id) fun _ => ?_
    exact .bind (update_keeps fun _ same => ⟨same.1, same.2, same.3⟩) fun _ => .pure fun _ => id

theorem of_acquired {window : Option NativeWindow}
    (acquired : window = if api.acquireNativeWindow then some ⟨image⟩ else none) :
    ∀ held ∈ window, held.image = image := by
  rintro held listed
  rw [acquired] at listed
  split at listed
  · cases listed
    rfl
  · cases listed

/-- The producer window is that of the image. -/
theorem producerWindow_ensures :
    Ensures (Steady (R := R) (some image)) (producerWindow api image) fun window session =>
      Steady (some image) session ∧ ∀ acquired ∈ window, acquired.image = image := by
  refine .read fun session steady => ?_
  split
  · rename_i window acquired
    refine .pure fun _ start => ⟨start, ?_⟩
    rintro _ ⟨rfl⟩
    exact steady.2.1.window window acquired image rfl
  · refine .bind (nativeImageAcquireNativeWindow_ensures (.inl rfl)) fun window =>
      .assume fun acquired => ?_
    have ours : ∀ held ∈ window, held.image = image := of_acquired acquired
    refine .bind (update_keeps fun _ same => ⟨same.1, same.2, ?_⟩) fun _ =>
      .pure fun _ start => ⟨start, ours⟩
    rintro held listed _ ⟨rfl⟩
    exact ours held listed

theorem getProducerWindowId_keeps : Keeps (Steady (R := R) held) (getProducerWindowId api) := by
  refine .read fun session steady => ?_
  split
  · exact .pure fun _ => id
  · rename_i image source
    obtain rfl : held = some image := steady.2.1.source ▸ source
    exact producerWindow_ensures.mono (fun _ => id) fun _ _ => And.left

theorem setProducerWindowSize_keeps (width height : Int) :
    Keeps (Steady (R := R) held) (setProducerWindowSize api width height) := by
  refine .read fun session steady => ?_
  split
  · exact .pure fun _ => id
  · rename_i image source
    obtain rfl : held = some image := steady.2.1.source ▸ source
    refine .bind producerWindow_ensures fun window => .assume fun acquired => ?_
    cases window with
    | none => exact .pure fun _ => id
    | some window =>
      have live : Live (some image) window.image := .inl (by rw [acquired window rfl])
      refine .bind (useImage_keeps live) fun _ => .ite (fun _ => .pure fun _ => id) fun _ => ?_
      exact .bind (update_keeps fun _ same => ⟨same.1, same.2, same.3⟩) fun _ =>
        .pure fun _ => id

theorem notifyResizing_keeps (width height : Int) :
    Keeps (Steady (R := R) held) (notifyResizing width height) := by
  refine update_keeps fun texture same => ?_
  split
  · exact ⟨same.1, same.2, same.3⟩
  · exact same

theorem setPixelMapAsProducer_keeps (pixelMap nativeBuffer : Bool) :
    Keeps (Steady (R := R) held) (setPixelMapAsProducer api pixelMap nativeBuffer) := by
  refine .ite (fun _ => .pure fun _ => id) fun _ => .bind (.performIf (fun _ => ?_) fun _ _ => id)
    fun _ => .ite (fun _ => .pure fun _ => id) fun _ =>
    .ite (fun _ => .pure fun _ => id) fun _ => ?_
  · exact .bind destroyPixelMapBuffer_keeps fun _ =>
      update_keeps fun _ same => ⟨same.1, same.2, same.3⟩
  · exact .bind destroyPixelMapBuffer_keeps fun _ =>
      .bind (update_keeps fun _ same => ⟨same.1, same.2, same.3⟩) fun _ => .read fun _ _ =>
      .ite (fun _ => .pure fun _ => id) fun _ => .failure

theorem mem_of_lookup {listeners : List (NativeImage × FrameListener)}
    (listens : listeners.lookup image = some listener) : (image, listener) ∈ listeners := by
  obtain ⟨before, after, rfl, _⟩ := List.lookup_eq_some_iff.mp listens
  simp

theorem frameAvailable_keeps :
    Keeps (Steady (R := R) held) (TextureSession.frameAvailable api image) := by
  refine .read fun session steady => ?_
  split
  · exact .failure
  · exact .pure fun _ => id
  · rename_i context listens
    obtain ⟨rfl, live⟩ := steady.1.listening image context (mem_of_lookup listens)
    exact .bind (nativeImageAcquireNativeWindowBuffer_keeps live) fun _ =>
      .performIf (fun _ => useImage_keeps live) fun _ _ => id

/-! ## Calls that change the image -/

theorem endImage_ensures {sourceIsExternal : Bool}
    (flag : sourceIsExternal = true ↔ ∃ name, image = .given name) :
    Ensures (With (some image) about) (endImage api sourceIsExternal image)
      fun _ => With none about := by
  refine .ite (fun own => ?_) fun given => ?_
  · cases image with
    | made index => exact nativeImageDestroy_ensures
    | given name => exact absurd (flag.mpr ⟨name, rfl⟩) own
  · obtain ⟨name, rfl⟩ := flag.mp (not_not.mp given)
    exact .bind (nativeImageSetOnFrameAvailableListener_keeps (.inl rfl) (by simp)) fun _ =>
      .pure fun _ => With.release

/-- Without its image a texture is consistent; it remembers whether a caller gave one. -/
def Emptied (external : Bool) (texture : OHOSExternalTexture R) : Prop :=
  texture.nativeImageSource = none ∧ texture.sourceIsExternal = external

variable {external : Bool}

theorem Emptied.consistent {texture : OHOSExternalTexture R}
    (emptied : Emptied external texture) : Consistent none texture :=
  ⟨emptied.1, by simp, by simp⟩

/-- Destroying the source leaves no image held. -/
theorem destroyNativeImageSource_ensures (external : Bool) :
    Ensures
      (With (R := R) held fun texture =>
        Consistent held texture ∧ texture.sourceIsExternal = external)
      (destroyNativeImageSource api) fun _ => With none (Emptied external) := by
  refine .read fun session ⟨_, ⟨same, flag⟩, _⟩ => .bind (?_ : Ensures _ _ fun _ =>
    With none (Emptied external)) fun _ => update_ensures _ fun _ emptied => emptied
  rw [same.source]
  cases held with
  | none => exact .pure fun _ start => ⟨start.1, ⟨start.2.1.1.source, start.2.1.2⟩, start.2.2⟩
  | some image =>
    refine .bind (.performIf (fun _ => useImage_keeps (.inl rfl)) fun _ _ => id) fun _ =>
      .bind (.performIf (fun _ => useImage_keeps (.inl rfl)) fun _ _ => id) fun _ =>
      .bind (endImage_ensures (same.flag image rfl)) fun _ => update_ensures _ ?_
    exact fun _ start => ⟨rfl, start.2⟩

theorem destroyNativeImageSource_empties :
    Ensures (Steady (R := R) held) (destroyNativeImageSource api) fun _ => Steady none :=
  fun session result next start runs =>
    have ⟨cared, emptied, here⟩ := destroyNativeImageSource_ensures _ session result next
      ⟨start.1, ⟨start.2.1, rfl⟩, start.2.2⟩ runs
    ⟨cared, emptied.consistent, here⟩

/-- The image that `Reset` would make is kept: there is one, with a window and the listener. -/
def NativeApi.KeepsImage (api : NativeApi R) : Prop :=
  api.create = true ∧ api.acquireNativeWindow = true ∧ api.setOnFrameAvailableListener .own = 0

/-- The image that was just made is destroyed again. -/
theorem giveUp_ensures {index : Nat} {answer : UInt64} :
    Ensures (With (R := R) (some (.made index)) fun texture =>
        texture.nativeImageSource = some (.made index) ∧ texture.sourceIsExternal = external ∧
          about texture)
      (do
        nativeImageDestroy (.made index)
        update fun texture => { texture with nativeImageSource := none }
        return answer)
      fun _ session => ∃ held, Steady held session :=
  .bind nativeImageDestroy_ensures fun _ =>
    .bind (update_ensures _ fun _ same => Emptied.consistent ⟨rfl, same.2.1⟩) fun _ =>
    .pure fun _ start => ⟨none, start⟩

/-- A reset holds the image that it keeps, which is not one of a caller. -/
theorem resetTo_ensures {index : Nat} (create : api.create = true)
    (keeps : api.KeepsImage → external = false) :
    Ensures (With (R := R) (some (.made index)) (Emptied external))
      (resetTo api (.made index)) fun _ session => ∃ held, Steady held session := by
  refine .bind (update_ensures (fun texture =>
      texture.nativeImageSource = some (.made index) ∧ texture.sourceIsExternal = external)
      fun _ emptied => ⟨rfl, emptied.2⟩) fun _ =>
    .bind (nativeImageAcquireNativeWindow_ensures (.inl rfl)) fun window => .assume fun acquired =>
    .bind (update_ensures (fun texture =>
      texture.nativeImageSource = some (.made index) ∧ texture.sourceIsExternal = external ∧
        texture.producerNativewindow = window) fun _ same => ⟨same.1, same.2, rfl⟩) fun _ =>
    .ite (fun _ => giveUp_ensures) fun windowed => ?_
  refine .bind (nativeImageSetOnFrameAvailableListener_ensures (.inl rfl) (by simp)) fun ret =>
    .assume fun answered => .ite (fun _ => giveUp_ensures) fun listens => ?_
  have kept : api.KeepsImage := by
    refine ⟨create, ?_, answered ▸ not_not.mp listens⟩
    by_contra missing
    rw [if_neg missing] at acquired
    exact windowed (by simp [acquired])
  refine .bind (useImage_keeps (.inl rfl)) fun _ => .pure fun session start =>
    ⟨some (.made index), start.1, ⟨start.2.1.1, ?_, ?_⟩, start.2.2⟩
  · rintro _ ⟨rfl⟩
    rw [start.2.1.2.1, keeps kept]
    simp
  · rintro held listed _ ⟨rfl⟩
    rw [start.2.1.2.2] at listed
    exact of_acquired acquired held listed

/-- A reset keeps an image only while no caller has given one. -/
theorem reset_ensures {needSurfaceId : Bool}
    (keeps : needSurfaceId = true → api.KeepsImage → external = false) :
    Ensures
      (With (R := R) held fun texture =>
        Consistent held texture ∧ texture.sourceIsExternal = external)
      (reset api needSurfaceId) fun _ session => ∃ held, Steady held session := by
  have emptied : ∀ session, With (R := R) none (Emptied external) session →
      ∃ held, Steady held session := fun session start =>
    ⟨none, start.1, start.2.1.consistent, start.2.2⟩
  refine .bind (update_ensures _ fun _ same => ⟨⟨same.1.1, same.1.2, same.1.3⟩, same.2⟩) fun _ =>
    .bind (destroyNativeImageSource_ensures external) fun _ =>
    .ite (fun _ => .pure emptied) fun needed => .bind nativeImageCreate_ensures fun made => ?_
  cases made with
  | none => exact .pure emptied
  | some image =>
    intro session result next ⟨cared, ⟨emptied, create, index, made⟩, here⟩ runs
    subst made
    exact resetTo_ensures create (keeps (not_not.mp needed)) session result next
      ⟨cared, emptied, here⟩ runs

theorem drain_keeps (live : Live held image) (queued : Nat) :
    Keeps (With (R := R) held about) (drain image queued) := by
  induction queued with
  | zero => exact useImage_keeps live
  | succ queued ih =>
    exact .bind (useImage_keeps live) fun _ => .bind (useImage_keeps live) fun _ => ih

/-- A texture takes up an image of a caller, once it has let go of its own. -/
theorem setExternalNativeImage_ensures (nativeImage : Option Nat) (queued : Nat) :
    Ensures (Steady (R := R) held) (setExternalNativeImage api nativeImage queued)
      fun _ session => ∃ held, Steady held session := by
  refine .get_bind fun session steady => ?_
  have unchanged : ∀ now, now = session → ∃ held, Steady held now := by
    rintro _ rfl
    exact ⟨held, steady⟩
  cases nativeImage with
  | none => exact .pure unchanged
  | some name =>
    refine .ite (fun _ => .pure unchanged) fun _ =>
      (?_ : Ensures (Steady held) _ fun _ session => ∃ held, Steady held session).mono
        (by rintro _ rfl; exact steady) fun _ _ => id
    have given : ∀ {held}, Live held (.given name) := .inr ⟨name, rfl⟩
    refine .bind (nativeImageSetOnFrameAvailableListener_keeps given (by simp)) fun ret =>
      .ite (fun _ => .pure fun _ start => ⟨held, start⟩) fun _ =>
      .bind (drain_keeps given queued) fun _ => .bind destroyNativeImageSource_empties fun _ =>
      .bind (nativeImageAcquireNativeWindow_ensures given) fun window =>
      .assume fun acquired => .bind (update_ensures (Consistent (some (.given name)))
        fun _ same => ⟨rfl, by simp, ?_⟩) fun _ =>
      .pure fun _ start => ⟨some (.given name), start.take name⟩
    rintro held listed _ ⟨rfl⟩
    exact of_acquired acquired held listed

/-- The destructor holds no image in the end. -/
theorem destruct_ensures : Ensures (Steady (R := R) held) (destruct api)
    fun _ session => Cared none session ∧ session.gone = true :=
  .bind destroyNativeImageSource_empties fun _ => .bind destroyPixelMapBuffer_keeps fun _ =>
    .modify fun _ start => ⟨⟨start.1.ordered, start.1.own, start.1.holds, start.1.kept,
      start.1.listening⟩, rfl⟩

/-- The constructor holds the image that it makes. -/
theorem construct_ensures (own : external = false) :
    Ensures (With (R := R) none (Emptied external)) (construct api)
      fun _ session => ∃ held, Steady held session := by
  refine .bind nativeImageCreate_ensures fun made => ?_
  cases made with
  | none => exact .pure fun _ start => ⟨none, start.1, start.2.1.consistent, start.2.2⟩
  | some image =>
    refine .bind (update_ensures (fun texture =>
        texture.nativeImageSource = some image ∧ texture.sourceIsExternal = false ∧
          ∃ index, image = .made index) fun _ start => ⟨rfl, start.1.2.trans own, start.2.2⟩)
      fun _ => .bind (nativeImageAcquireNativeWindow_ensures (.inl rfl)) fun window =>
      .assume fun acquired => .bind (update_ensures (Consistent (some image))
        fun _ same => ⟨same.1, ?_, ?_⟩) fun _ => .bind ?_ fun _ =>
      .bind (nativeImageSetOnFrameAvailableListener_keeps (.inl rfl) (by simp)) fun _ =>
      .pure fun _ start => ⟨some image, start⟩
    · rintro _ ⟨rfl⟩
      obtain ⟨index, rfl⟩ := same.2.2
      simp [same.2.1]
    · rintro held listed _ ⟨rfl⟩
      exact of_acquired acquired held listed
    · cases window with
      | none => exact .pure fun _ => id
      | some window =>
        have live : Live (some image) window.image := .inl (by rw [of_acquired acquired _ rfl])
        exact .bind (useImage_keeps live) fun _ =>
          .performIf (fun _ => useImage_keeps live) fun _ _ => id

/-! ## Runs -/

namespace TextureSession

/-- A call that resets the texture to an image that it keeps is made only while no external image
has been set. -/
def ResetsOwn (session : TextureSession R) : TextureCall R × NativeApi R → Prop
  | (.reset needSurfaceId, api) =>
    needSurfaceId = true → api.KeepsImage → session.texture.sourceIsExternal = false
  | _ => True

/-- Nothing is destroyed twice or used after that, and no image of a caller is destroyed; once the
texture is gone, each image that it made is. -/
structure DestroysItsOwn (session : TextureSession R) : Prop where
  once : ∀ image, session.events.count (.destroyed image) ≤ 1
  given : ∀ name, .destroyed (.given name) ∉ session.events
  usable : ∀ later earlier image, session.events = later ++ .used image :: earlier →
    .destroyed image ∉ earlier
  all : session.gone = true → ∀ index < session.made,
    session.events.count (.destroyed (.made index)) = 1

theorem DestroysItsOwn.of_cared (cared : Cared held session)
    (none : session.gone = true → held = none) : session.DestroysItsOwn := by
  have once : ∀ image, session.events.count (.destroyed image) ≤ 1 := by
    intro image
    by_contra more
    have twice : [ImageEvent.destroyed image, .destroyed image].Sublist session.events :=
      List.replicate_sublist_iff.mpr (Nat.lt_of_not_le more)
    have ordered := cared.ordered.sublist twice
    exact (List.pairwise_cons.mp ordered).1 _ List.mem_cons_self rfl
  refine ⟨once, ?_, ?_, ?_⟩
  · intro name destroyed
    obtain ⟨index, _, same⟩ := cared.own _ destroyed
    cases same
  · rintro later earlier image whole destroyed
    have ordered := cared.ordered
    rw [whole] at ordered
    exact (List.pairwise_cons.mp (List.pairwise_append.mp ordered).2.1).1 _ destroyed rfl
  · intro gone index known
    obtain destroyed | holds := cared.kept index known
    · exact le_antisymm (once _) (List.count_pos_iff.mpr destroyed)
    · rw [none gone] at holds
      cases holds

/-- Until the texture is gone it is steady, and then it holds no image. -/
def Looked (session : TextureSession R) : Prop :=
  (∃ held, Steady held session) ∨ Cared none session ∧ session.gone = true

variable [DecidableEq R]

/-- Every call of a steady texture leaves it steady, or destructed. -/
theorem perform_ensures (call : TextureCall R × NativeApi R) :
    Ensures (fun session => Steady held session ∧ session.ResetsOwn call)
      (perform call.2 call.1) fun _ => Looked := by
  obtain ⟨call, api⟩ := call
  have kept : ∀ {effect : TextureEffect R Unit}, Keeps (Steady held) effect →
      Ensures (fun session => Steady held session ∧ session.ResetsOwn (call, api)) effect
        fun _ => Looked :=
    fun keeps => keeps.mono (fun _ => And.left) fun _ session steady => .inl ⟨held, steady⟩
  have answered : ∀ {α : Type} {effect : TextureEffect R α}, Keeps (Steady held) effect →
      Ensures (fun session => Steady held session ∧ session.ResetsOwn (call, api))
        (effect >>= fun _ => pure ()) fun _ => Looked :=
    fun keeps => kept (.bind keeps fun _ => .pure fun _ => id)
  cases call with
  | paint bounds freeze => exact kept (paint_keeps bounds freeze)
  | markNewFrameAvailable => exact kept markNewFrameAvailable_keeps
  | onTextureUnregistered => exact kept onTextureUnregistered_keeps
  | onGrContextCreated => exact kept onGrContextCreated_keeps
  | onGrContextDestroyed => exact kept onGrContextDestroyed_keeps
  | getProducerSurfaceId => exact answered getProducerSurfaceId_keeps
  | getProducerWindowId => exact answered getProducerWindowId_keeps
  | setProducerWindowSize width height => exact answered (setProducerWindowSize_keeps width height)
  | notifyResizing width height => exact kept (notifyResizing_keeps width height)
  | setPixelMapAsProducer pixelMap nativeBuffer =>
    exact answered (setPixelMapAsProducer_keeps pixelMap nativeBuffer)
  | setExternalNativeImage nativeImage queued =>
    exact .bind ((setExternalNativeImage_ensures nativeImage queued).mono (fun _ => And.left)
      fun _ _ => id) fun _ => .pure fun _ => .inl
  | reset needSurfaceId =>
    refine .bind ?_ fun _ => .pure fun _ => .inl
    exact fun session result next ⟨steady, own⟩ =>
      reset_ensures own session result next ⟨steady.1, ⟨steady.2.1, rfl⟩, steady.2.2⟩
  | frameAvailable image => exact kept frameAvailable_keeps
  | destruct => exact destruct_ensures.mono (fun _ => And.left) fun _ _ => .inr

/-- In every state reached by calls that reset the texture to an image only while it has none of a
caller, the texture has destroyed its own images once each, or still holds the last one. -/
theorem reachable_destroysItsOwn {session : TextureSession R}
    (reached : machine.Reachable ResetsOwn session) : session.DestroysItsOwn := by
  have looked : session.Looked := by
    refine reached.invariant Looked ?_ ?_
    · rintro session ⟨api, empty, listens, constructs⟩
      exact .inl (construct_ensures rfl _ _ _
        ⟨⟨.nil, by simp [fresh], by simp, by simp [fresh], by simp [fresh]⟩, ⟨rfl, rfl⟩, rfl⟩
        constructs)
    · intro session call next looked own steps
      replace steps : (if session.gone then none
        else ((perform call.2 call.1).run session).map (·.2)) = some next := steps
      obtain ⟨held, steady⟩ | ⟨_, gone⟩ := looked
      · rw [steady.2.2, if_neg (by simp)] at steps
        obtain ⟨⟨_, _⟩, runs, rfl⟩ := Option.map_eq_some_iff.mp steps
        exact perform_ensures call session _ _ ⟨steady, own⟩ runs
      · rw [gone] at steps
        cases steps
  obtain ⟨held, steady⟩ | ⟨cared, gone⟩ := looked
  · exact .of_cared steady.1 (by simp [steady.2.2])
  · exact .of_cared cared fun _ => rfl

section Samples

instance (session : TextureSession Unit) (call : TextureCall Unit × NativeApi Unit) :
    Decidable (session.ResetsOwn call) :=
  match call with
  | (.reset _, _) => inferInstanceAs (Decidable (_ → (_ ∧ _ ∧ _) → _))
  | (.paint .., _) | (.markNewFrameAvailable, _) | (.onTextureUnregistered, _)
  | (.onGrContextCreated, _) | (.onGrContextDestroyed, _) | (.getProducerSurfaceId, _)
  | (.getProducerWindowId, _) | (.setProducerWindowSize .., _) | (.notifyResizing .., _)
  | (.setPixelMapAsProducer .., _) | (.setExternalNativeImage .., _) | (.frameAvailable _, _)
  | (.destruct, _) => inferInstanceAs (Decidable True)

/-- Every call of the system succeeds, and every image always has a buffer. -/
def answers : NativeApi Unit where
  acquireNativeWindowBuffer acquired := (0, some ⟨acquired⟩)
  bufferQueueSize := (0, 6)
  sizeRect _ _ := ()

def opened : TextureSession Unit :=
  (((construct answers).run (fresh () true)).map (·.2)).getD (fresh () true)

theorem initial_opened : machine.Initial opened := ⟨answers, (), true, rfl⟩

/-- A texture that was reset before it got an image of a caller destroys both of its own. -/
theorem reachable_destroysItsOwn_resetFirst :
    ∃ session : TextureSession Unit, machine.Reachable ResetsOwn session ∧
      session.gone = true ∧ session.made = 2 ∧ session.DestroysItsOwn := by
  have start : machine.Reachable ResetsOwn opened := .initial initial_opened
  obtain ⟨session, reached, gone⟩ := start.exists_of_run
    [(.reset true, answers), (.markNewFrameAvailable, answers), (.paint () false, answers),
      (.setExternalNativeImage (some 0) 1, answers), (.onGrContextDestroyed, answers),
      (.frameAvailable (.given 0), answers), (.destruct, answers)]
    (fun session => session.gone ∧ session.made = 2) (by decide) (by decide)
  obtain ⟨gone, made⟩ := of_decide_eq_true gone
  exact ⟨session, reached, gone, made, reachable_destroysItsOwn reached⟩

/-- A texture that was reset after it got an image of a caller never destroys the one it made. -/
theorem not_destroysItsOwn_of_resetAfter :
    ∃ session : TextureSession Unit, machine.Reachable (fun _ _ => True) session ∧
      session.gone = true ∧ session.made = 2 ∧ .destroyed (.made 1) ∉ session.events ∧
      ¬session.DestroysItsOwn := by
  have start : machine.Reachable (fun _ _ => True) opened := .initial initial_opened
  obtain ⟨session, reached, gone⟩ := start.exists_of_run
    [(.setExternalNativeImage (some 0) 0, answers), (.reset true, answers), (.destruct, answers)]
    (fun session => session.gone ∧ session.made = 2 ∧ .destroyed (.made 1) ∉ session.events)
    (by decide) (by decide)
  obtain ⟨gone, made, kept⟩ := of_decide_eq_true gone
  refine ⟨session, reached, gone, made, kept, fun destroys => kept ?_⟩
  have once := destroys.all gone 1 (by omega)
  exact List.count_pos_iff.mp (by omega)

end Samples

end TextureSession

end FlutterEngine.Ohos
