import FlutterEngine.Ohos.Preserved

/-!
# The standard method codec of the OHOS embedding

`StandardMethodCodec` of `StandardMethodCodec.ets`. A text that may be null is an `Option`;
`FlutterException` is among what decoding throws, with its code, message and details.
-/

namespace FlutterEngine.Ohos

open FlutterEngine.Std WriteBuffer StandardMessageCodec

structure MethodCall where
  method : String
  args : Value

/-- The details of an error; of an `Error` only its stack is sent, which may be undefined. -/
inductive ErrorDetails where
  | value (details : Value)
  | error (stack : Option String)

/-- What decoding a method call or an envelope can throw. -/
inductive MethodThrown where
  | message (thrown : Thrown)
  | methodCallCorrupted
  | envelopeCorrupted
  | flutterException (code : String) (message : Option String) (details : Value)

/-- A text that may be null. -/
def Value.ofText? : Option String → Value
  | none => .null
  | some text => .string text

/-- The text, where the value is one or null. -/
def Value.text? : Value → Option (Option String)
  | .null => some none
  | .string text => some (some text)
  | _ => none

@[simp] theorem Value.text?_ofText? (text : Option String) : (ofText? text).text? = some text := by
  cases text <;> rfl

/-- `hasRemaining`. -/
def ByteBuffer.hasRemaining (buffer : ByteBuffer) : Bool := buffer.byteOffset < buffer.dataView.length

namespace StandardMethodCodec

variable (utf8 : NativeUtf8)

/-! ## Encoding -/

def encodeMethodCall (methodCall : MethodCall) : List Byte :=
  let stream := writeValue utf8 (ofLength 1024) (.string methodCall.method)
  (writeValue utf8 stream methodCall.args).buffer

def encodeSuccessEnvelope (result : Value) : List Byte :=
  (writeValue utf8 ((ofLength 1024).writeUint8 0) result).buffer

/-- What is sent of the details of an error. -/
def ErrorDetails.sent : ErrorDetails → Value
  | .value details => details
  | .error stack => .ofText? stack

/-- The part that the envelopes of errors have in common. -/
def writeError (errorCode : String) (errorMessage : Option String) (errorDetails : ErrorDetails) :
    WriteBuffer :=
  let stream := writeValue utf8 ((ofLength 1024).writeUint8 1) (.string errorCode)
  let stream := writeValue utf8 stream (.ofText? errorMessage)
  writeValue utf8 stream (ErrorDetails.sent errorDetails)

def encodeErrorEnvelope (errorCode : String) (errorMessage : Option String)
    (errorDetails : ErrorDetails) : List Byte :=
  (writeError utf8 errorCode errorMessage errorDetails).buffer

def encodeErrorEnvelopeWithStacktrace (errorCode : String) (errorMessage : Option String)
    (errorDetails : ErrorDetails) (errorStacktrace : Option String) : List Byte :=
  let stream := writeError utf8 errorCode errorMessage errorDetails
  (writeValue utf8 stream (.ofText? errorStacktrace)).buffer

/-! ## Decoding -/

/-- `readValue` of the message codec, with fuel for the bytes of the buffer. -/
def readMessage (buffer : ByteBuffer) : Except MethodThrown (Value × ByteBuffer) :=
  (readValue utf8 (buffer.dataView.length + 1) buffer).mapError .message

def decodeMethodCall (methodCall : List Byte) : Except MethodThrown MethodCall := do
  let (method, buffer) ← readMessage utf8 { dataView := methodCall }
  let (args, buffer) ← readMessage utf8 buffer
  match method with
  | .string method =>
    if !buffer.hasRemaining then return ⟨method, args⟩ else throw .methodCallCorrupted
  | _ => throw .methodCallCorrupted

/-- The case of an error in `decodeEnvelope`, which always throws. -/
def decodeError (buffer : ByteBuffer) : Except MethodThrown Value := do
  let (code, buffer) ← readMessage utf8 buffer
  let (message, buffer) ← readMessage utf8 buffer
  let (details, buffer) ← readMessage utf8 buffer
  match code, message.text? with
  | .string code, some message =>
    if !buffer.hasRemaining then throw (.flutterException code message details)
    else throw .envelopeCorrupted
  | _, _ => throw .envelopeCorrupted

def decodeEnvelope (envelope : List Byte) : Except MethodThrown Value := do
  let (flag, buffer) ← (ByteBuffer.readUint8 { dataView := envelope }).mapError .message
  if flag = 0 then
    let (result, buffer) ← readMessage utf8 buffer
    -- Falls through intentionally.
    if !buffer.hasRemaining then return result else decodeError utf8 buffer
  else if flag = 1 then decodeError utf8 buffer
  else throw .envelopeCorrupted

/-! ## Values that come back -/

/-- The message codec gives the value back. -/
structure RoundTrips (value : Value) : Prop where
  supported : Supported utf8 value
  decodes : decodeMessage utf8 (some (encodeMessage utf8 value)) = .ok value

variable {utf8} {stream : WriteBuffer} {bytes : List Byte} {value : Value}

theorem RoundTrips.readBack (trips : RoundTrips utf8 value) : readBack value = .ok value := by
  rw [← decodeMessage_encodeMessage trips.supported]
  exact trips.decodes

/-- A value that comes back from a message of its own comes back from any place. -/
theorem RoundTrips.readMessage_at (trips : RoundTrips utf8 value) (stream : WriteBuffer)
    (within : (writeValue utf8 stream value).buffer <+: bytes) :
    readMessage utf8 (readerAt bytes stream) =
      .ok (value, readerAt bytes (writeValue utf8 stream value)) := by
  have fueled : (writeValue utf8 stream value).byteOffset ≤ bytes.length + 1 + stream.byteOffset := by
    have shorter := within.length_le
    rw [length_buffer] at shorter
    omega
  rw [readMessage, readValue_at value stream bytes.length trips.supported within fueled,
    trips.readBack]
  rfl

theorem prefix_writeValue_self (utf8 : NativeUtf8) (stream : WriteBuffer) (value : Value) :
    stream.buffer <+: (writeValue utf8 stream value).buffer :=
  (grows_of_type (prefix_writeValue utf8 value stream)).1

theorem hasRemaining_end : (readerAt stream.buffer stream).hasRemaining = false := by
  simp [ByteBuffer.hasRemaining]

/-- Something remains where a value is still to be read. -/
theorem hasRemaining_before (stream : WriteBuffer) (value : Value) :
    (readerAt (writeValue utf8 stream value).buffer stream).hasRemaining = true := by
  have later := (grows_of_type (prefix_writeValue utf8 value stream)).2
  simpa [ByteBuffer.hasRemaining] using later

theorem readFlag (flag : Byte) (within : ((ofLength 1024).writeUint8 flag).buffer <+: bytes) :
    ByteBuffer.readUint8 { dataView := bytes } =
      .ok (flag, readerAt bytes ((ofLength 1024).writeUint8 flag)) :=
  readUint8_at within

/-! ## Calls and envelopes -/

theorem decodeMethodCall_encodeMethodCall {methodCall : MethodCall}
    (method : RoundTrips utf8 (.string methodCall.method)) (args : RoundTrips utf8 methodCall.args) :
    decodeMethodCall utf8 (encodeMethodCall utf8 methodCall) = .ok methodCall := by
  have methodRead := method.readMessage_at (ofLength 1024)
    (prefix_writeValue_self utf8 _ methodCall.args)
  have argsRead := args.readMessage_at
    (writeValue utf8 (ofLength 1024) (.string methodCall.method)) List.prefix_rfl
  rw [decodeMethodCall, encodeMethodCall]
  change (readMessage utf8 (readerAt _ (ofLength 1024)) >>= _) = _
  rw [methodRead]
  change (readMessage utf8 (readerAt _ (writeValue utf8 (ofLength 1024) _)) >>= _) = _
  rw [argsRead]
  change (if !(readerAt _ _).hasRemaining then _ else _) = _
  rw [hasRemaining_end]
  rfl

theorem decodeEnvelope_encodeSuccessEnvelope {result : Value} (trips : RoundTrips utf8 result) :
    decodeEnvelope utf8 (encodeSuccessEnvelope utf8 result) = .ok result := by
  have resultRead := trips.readMessage_at ((ofLength 1024).writeUint8 0) List.prefix_rfl
  rw [decodeEnvelope, encodeSuccessEnvelope, readFlag 0 (prefix_writeValue_self utf8 _ result)]
  change (readMessage utf8 (readerAt _ _) >>= _) = _
  rw [resultRead]
  change (if !(readerAt _ _).hasRemaining then _ else _) = _
  rw [hasRemaining_end]
  rfl

section Errors

variable {errorCode : String} {errorMessage : Option String} {details : Value}
  (code : RoundTrips utf8 (.string errorCode))
  (message : RoundTrips utf8 (.ofText? errorMessage)) (sent : RoundTrips utf8 details)
include code message sent

/-- The envelope of an error is decoded by whether something is left after its details. -/
theorem decodeEnvelope_error {remains : Bool}
    (within : (writeError utf8 errorCode errorMessage (.value details)).buffer <+: bytes)
    (left : (readerAt bytes
      (writeError utf8 errorCode errorMessage (.value details))).hasRemaining = remains) :
    decodeEnvelope utf8 bytes =
      .error (if remains then .envelopeCorrupted
        else .flutterException errorCode errorMessage details) := by
  have detailed := (prefix_writeValue_self utf8 _ details).trans within
  have messaged := (prefix_writeValue_self utf8 _ (.ofText? errorMessage)).trans detailed
  have coded := (prefix_writeValue_self utf8 _ (.string errorCode)).trans messaged
  have codeRead := code.readMessage_at _ messaged
  have messageRead := message.readMessage_at _ detailed
  have detailsRead := sent.readMessage_at _ within
  rw [decodeEnvelope, readFlag 1 coded]
  change decodeError utf8 (readerAt bytes _) = _
  rw [decodeError, codeRead]
  change (readMessage utf8 (readerAt bytes _) >>= _) = _
  rw [messageRead]
  change (readMessage utf8 (readerAt bytes _) >>= _) = _
  rw [detailsRead]
  simp only [Value.text?_ofText?]
  change (if !(readerAt bytes _).hasRemaining then _ else _) = _
  rw [writeError, ErrorDetails.sent] at left
  rw [left]
  cases remains <;> rfl

theorem decodeEnvelope_encodeErrorEnvelope :
    decodeEnvelope utf8 (encodeErrorEnvelope utf8 errorCode errorMessage (.value details)) =
      .error (.flutterException errorCode errorMessage details) :=
  decodeEnvelope_error code message sent List.prefix_rfl hasRemaining_end

/-- The decoder does not know of the stack trace. -/
theorem decodeEnvelope_encodeErrorEnvelopeWithStacktrace (errorStacktrace : Option String) :
    decodeEnvelope utf8
        (encodeErrorEnvelopeWithStacktrace utf8 errorCode errorMessage (.value details)
          errorStacktrace) = .error .envelopeCorrupted :=
  decodeEnvelope_error code message sent (prefix_writeValue_self utf8 _ _) (hasRemaining_before _ _)

end Errors

/-! ## What is sent over a channel -/

/-- What one side encodes for the other: a call, or one of the three envelopes. -/
inductive Sent where
  | methodCall (call : MethodCall)
  | success (result : Value)
  | error (errorCode : String) (errorMessage : Option String) (errorDetails : Value)
  | errorWithStacktrace (errorCode : String) (errorMessage : Option String) (errorDetails : Value)
      (errorStacktrace : Option String)

namespace Sent

variable (utf8 : NativeUtf8)

/-- Everything sent comes back from the message codec. -/
def AllRoundTrip : Sent → Prop
  | .methodCall call =>
    RoundTrips utf8 (.string call.method) ∧ RoundTrips utf8 call.args
  | .success result => RoundTrips utf8 result
  | .error errorCode errorMessage errorDetails =>
    RoundTrips utf8 (.string errorCode) ∧ RoundTrips utf8 (.ofText? errorMessage) ∧
      RoundTrips utf8 errorDetails
  | .errorWithStacktrace errorCode errorMessage errorDetails errorStacktrace =>
    (RoundTrips utf8 (.string errorCode) ∧ RoundTrips utf8 (.ofText? errorMessage) ∧
      RoundTrips utf8 errorDetails) ∧ RoundTrips utf8 (.ofText? errorStacktrace)

/-- The decoder gives back what was encoded: an error as a `FlutterException`. -/
def ComesBack : Sent → Prop
  | .methodCall call =>
    decodeMethodCall utf8 (encodeMethodCall utf8 call) = .ok call
  | .success result => decodeEnvelope utf8 (encodeSuccessEnvelope utf8 result) = .ok result
  | .error errorCode errorMessage errorDetails =>
    decodeEnvelope utf8 (encodeErrorEnvelope utf8 errorCode errorMessage (.value errorDetails)) =
      .error (.flutterException errorCode errorMessage errorDetails)
  | .errorWithStacktrace errorCode errorMessage errorDetails errorStacktrace =>
    decodeEnvelope utf8
        (encodeErrorEnvelopeWithStacktrace utf8 errorCode errorMessage (.value errorDetails)
          errorStacktrace) =
      .error (.flutterException errorCode errorMessage errorDetails)

/-- Not by `encodeErrorEnvelopeWithStacktrace`. -/
def WithoutStacktrace : Sent → Prop
  | .errorWithStacktrace .. => False
  | _ => True

end Sent

/-- Whatever is sent, exactly the envelopes with a stack trace do not come back. -/
theorem comesBack_iff (utf8 : NativeUtf8) (sent : Sent) (trips : sent.AllRoundTrip utf8) :
    sent.ComesBack utf8 ↔ sent.WithoutStacktrace := by
  cases sent with
  | methodCall call =>
    exact iff_of_true (decodeMethodCall_encodeMethodCall trips.1 trips.2) trivial
  | success result => exact iff_of_true (decodeEnvelope_encodeSuccessEnvelope trips) trivial
  | error errorCode errorMessage errorDetails =>
    obtain ⟨code, message, details⟩ := trips
    exact iff_of_true (decodeEnvelope_encodeErrorEnvelope code message details) trivial
  | errorWithStacktrace errorCode errorMessage errorDetails errorStacktrace =>
    obtain ⟨⟨code, message, details⟩, -⟩ := trips
    refine iff_of_false ?_ id
    rw [Sent.ComesBack, decodeEnvelope_encodeErrorEnvelopeWithStacktrace code message details]
    rintro ⟨⟩

theorem roundTrips_of_preserved {utf8 : NativeUtf8} {value : Value}
    (supported : Supported utf8 value) (back : readBack value = .ok value) :
    RoundTrips utf8 value :=
  ⟨supported, (decodeMessage_encodeMessage supported).trans back⟩

theorem roundTrips_failure :
    RoundTrips standardUtf8 (.string "failed") ∧ RoundTrips standardUtf8 (.ofText? none) ∧
      RoundTrips standardUtf8 (.array [.null, .bigInt64Array [7]]) :=
  ⟨roundTrips_of_preserved (by decide : _ < 2 ^ 32) rfl, roundTrips_of_preserved trivial rfl,
    roundTrips_of_preserved ⟨by decide, trivial, (by decide : 1 < 2 ^ 32), trivial⟩ rfl⟩

theorem comesBack_failure :
    (Sent.error "failed" none (.array [.null, .bigInt64Array [7]])).ComesBack standardUtf8 :=
  (comesBack_iff standardUtf8 (.error ..) roundTrips_failure).mpr trivial

/-- The same error with an empty stack trace is rejected as corrupted. -/
theorem not_comesBack_withStacktrace :
    (Sent.errorWithStacktrace "failed" none (.array [.null, .bigInt64Array [7]])
        (some "")).AllRoundTrip standardUtf8 ∧
      ¬(Sent.errorWithStacktrace "failed" none (.array [.null, .bigInt64Array [7]])
        (some "")).ComesBack standardUtf8 := by
  obtain ⟨code, message, details⟩ := roundTrips_failure
  refine ⟨⟨roundTrips_failure, roundTrips_of_preserved (by decide : _ < 2 ^ 32) rfl⟩, ?_⟩
  rw [Sent.ComesBack, decodeEnvelope_encodeErrorEnvelopeWithStacktrace code message details]
  rintro ⟨⟩

end StandardMethodCodec

end FlutterEngine.Ohos
