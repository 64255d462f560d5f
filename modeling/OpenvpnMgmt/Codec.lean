import OpenvpnMgmt.Frame
import OpenvpnMgmt.Notifications
import OpenvpnMgmt.Wire

/-!
The codec: the encoder queues the kind of response each command expects, the decoder matches
frames against the front of that queue. `takeBytes` is what one line of the wire does to the
whole codec; the loop of `decode` is that, line after line, up to the first result.
-/
namespace MgmtCodec
open TextOps Utf8Text LineFraming MgmtEncoder MgmtCommand MgmtMessage MgmtFrame MgmtNotifications
  MgmtWire

structure OvpnCodec where
  expectedQueue : List ResponseKind
  multiLineBuf : Option (List Text)
  maxMultiLineLines : AccumulationLimit
  encoderMode : EncoderMode
  frameDecoder : FrameDecoder
  /- Only read for a log message of `encode`. -/
  frameDecoderAccumulating : Bool
  deriving DecidableEq

def OvpnCodec.new : OvpnCodec := ⟨[], none, .max 10000, .sanitize, .new, false⟩

def OvpnCodec.withMaxMultiLineLines (c : OvpnCodec) (limit : AccumulationLimit) : OvpnCodec :=
  { c with maxMultiLineLines := limit }

def OvpnCodec.withMaxClientEnvEntries (c : OvpnCodec) (limit : AccumulationLimit) : OvpnCodec :=
  { c with frameDecoder := { c.frameDecoder with maxClientEnvEntries := limit } }

def OvpnCodec.withEncoderMode (c : OvpnCodec) (mode : EncoderMode) : OvpnCodec :=
  { c with encoderMode := mode }

def OvpnCodec.expectedFront (c : OvpnCodec) : ResponseKind :=
  c.expectedQueue.head?.getD .successOrError

def OvpnCodec.consumeExpected (c : OvpnCodec) : OvpnCodec :=
  { c with expectedQueue := c.expectedQueue.tail }

/- The kind is queued before anything is validated. -/
def OvpnCodec.encode (engine : Bytes → Text) (c : OvpnCodec) (item : OvpnCommand) (dst : Bytes) :
    OvpnCodec × Bytes × Except EncodeError Unit :=
  let c := { c with expectedQueue := c.expectedQueue ++ [item.expectedResponse] }
  match commandWire engine c.encoderMode item with
  | .error e => (c, dst, .error e)
  | .ok (.line text) => (c, writeLine dst text, .ok ())
  | .ok (.block header lines) =>
    let (result, dst) := writeBlock dst header lines c.encoderMode
    (c, dst, result)

/-- The kind is queued whether or not the command is accepted, and nothing else changes. -/
theorem encode_codec (engine : Bytes → Text) (c : OvpnCodec) (item : OvpnCommand) (dst : Bytes) :
    (c.encode engine item dst).1 =
      { c with expectedQueue := c.expectedQueue ++ [item.expectedResponse] } := by
  unfold OvpnCodec.encode
  simp only
  split <;> rfl

abbrev Decoded := OvpnCodec × Option (Except IoError OvpnMessage)

def OvpnCodec.takeLine (c : OvpnCodec) (line : Text) : Decoded :=
  if line = [] ∧ c.multiLineBuf = none ∧ c.expectedFront ≠ .multiLine then (c, none)
  else if line.head? = some '>' ∧ ':' ∉ line.tail then
    (c, some (.ok (.unrecognized line .malformedNotification)))
  else match c.multiLineBuf with
    | some buf =>
      match c.maxMultiLineLines with
      | .max most =>
        if most ≤ buf.length then (c, some (.error (.multiLineAccumulationLimitExceeded most)))
        else ({ c with multiLineBuf := some (buf ++ [line]) }, none)
      | .unlimited => ({ c with multiLineBuf := some (buf ++ [line]) }, none)
    | none =>
      match c.expectedFront with
      | .multiLine => ({ c with multiLineBuf := some [line] }, none)
      | .successOrError | .noResponse =>
        (c.consumeExpected, some (.ok (.unrecognized line .unexpectedLine)))

def OvpnCodec.takeEnd (c : OvpnCodec) : Decoded :=
  match c.multiLineBuf with
  | some lines =>
    ({ c with multiLineBuf := none }.consumeExpected, some (.ok (.multiLine lines)))
  | none =>
    -- A block without lines, or an END nobody asked for.
    if c.expectedFront = .multiLine then (c.consumeExpected, some (.ok (.multiLine [])))
    else (c, some (.ok (.unrecognized endMarker .unexpectedLine)))

def OvpnCodec.takeFrame (c : OvpnCodec) : Frame → Decoded
  | .success text => (c.consumeExpected, some (.ok (.success text)))
  | .error text => (c.consumeExpected, some (.ok (.error text)))
  | .passwordPrompt => (c, some (.ok .passwordPrompt))
  | .info payload => (c, some (.ok (.info payload)))
  | .notification kind payload => (c, some (.ok (parseNotificationFromFrame kind payload)))
  | .clientEnv event args env =>
    ({ c with frameDecoderAccumulating := false }, some (.ok (parseClientEnv event args env)))
  | .endMarker => c.takeEnd
  | .line line => c.takeLine line

theorem takeFrame_keeps (c : OvpnCodec) (frame : Frame) :
    (c.takeFrame frame).1.frameDecoder = c.frameDecoder ∧
      (c.takeFrame frame).1.encoderMode = c.encoderMode := by
  cases frame with
  | line line =>
    simp only [OvpnCodec.takeFrame, OvpnCodec.takeLine]
    repeat' split
    all_goals exact ⟨rfl, rfl⟩
  | endMarker =>
    simp only [OvpnCodec.takeFrame, OvpnCodec.takeEnd]
    repeat' split
    all_goals exact ⟨rfl, rfl⟩
  | _ => exact ⟨rfl, rfl⟩

def OvpnCodec.withFrames (c : OvpnCodec) (d : FrameDecoder) : OvpnCodec :=
  { c with frameDecoder := d }

/- A frame error drops the open block and every pending expectation. -/
def OvpnCodec.reset (c : OvpnCodec) : OvpnCodec :=
  { c with multiLineBuf := none, expectedQueue := [], frameDecoderAccumulating := false }

def OvpnCodec.decodeFuel :
    Nat → OvpnCodec → Bytes → OvpnCodec × Bytes × Except IoError (Option OvpnMessage)
  | 0, c, src => (c, src, .ok none)
  | fuel + 1, c, src =>
    match c.frameDecoder.decode src with
    | (d, rest, .ok none) =>
      let accumulating := c.frameDecoderAccumulating || decide (rest.length < src.length)
      ({ c.withFrames d with frameDecoderAccumulating := accumulating }, rest, .ok none)
    | (d, rest, .error e) => ((c.withFrames d).reset, rest, .error e)
    | (d, rest, .ok (some frame)) =>
      match (c.withFrames d).takeFrame frame with
      | (c, some (.ok message)) => (c, rest, .ok (some message))
      | (c, some (.error e)) => (c, rest, .error e)
      | (c, none) => decodeFuel fuel c rest

def OvpnCodec.decode (c : OvpnCodec) (src : Bytes) :
    OvpnCodec × Bytes × Except IoError (Option OvpnMessage) :=
  c.decodeFuel (src.length + 1) src

def OvpnCodec.takeBytes (c : OvpnCodec) (lineBytes : Bytes) : Decoded :=
  match c.frameDecoder.takeBytes lineBytes with
  | (d, none) => (c.withFrames d, none)
  | (d, some (.error e)) => ((c.withFrames d).reset, some (.error e))
  | (d, some (.ok frame)) => (c.withFrames d).takeFrame frame

section Lines
variable {c : OvpnCodec} {lineBytes : Bytes}

theorem takeBytes_split {out : Option (Except IoError Frame)}
    (line : (c.frameDecoder.takeBytes lineBytes).2 = out) :
    c.frameDecoder.takeBytes lineBytes = ((c.frameDecoder.takeBytes lineBytes).1, out) :=
  Prod.ext rfl line

theorem takeBytes_silent (line : (c.frameDecoder.takeBytes lineBytes).2 = none) :
    c.takeBytes lineBytes = (c.withFrames (c.frameDecoder.takeBytes lineBytes).1, none) := by
  rw [OvpnCodec.takeBytes, takeBytes_split line]

theorem takeBytes_failed {e : IoError}
    (line : (c.frameDecoder.takeBytes lineBytes).2 = some (.error e)) :
    c.takeBytes lineBytes =
      ((c.withFrames (c.frameDecoder.takeBytes lineBytes).1).reset, some (.error e)) := by
  rw [OvpnCodec.takeBytes, takeBytes_split line]

theorem takeBytes_framed {frame : Frame}
    (line : (c.frameDecoder.takeBytes lineBytes).2 = some (.ok frame)) :
    c.takeBytes lineBytes =
      (c.withFrames (c.frameDecoder.takeBytes lineBytes).1).takeFrame frame := by
  rw [OvpnCodec.takeBytes, takeBytes_split line]

end Lines

end MgmtCodec
