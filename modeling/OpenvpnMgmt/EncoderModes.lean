import OpenvpnMgmt.EncodeSafety
import OpenvpnMgmt.Lib.Rows

/-!
The two modes of the encoder against each other, what a failed call leaves in the outgoing
buffer, and reading a block back from its bytes.
-/
namespace MgmtEncoderModes
open TextOps Utf8Text SeparatedRows MgmtEncoder MgmtValues MgmtCommand MgmtCodec MgmtWire
  MgmtEncodeSafety

/-! Strict and sanitize -/

theorem strip_eq_self {s : Text} : strip s = s ↔ WireClean s :=
  ⟨fun same => same ▸ strip_clean s, strip_of_clean⟩

theorem bodyLine_eq_self {s : Text} : bodyLine s = s ↔ BodyClean s := by
  constructor
  · intro same
    exact ⟨same ▸ bodyLine_clean s, same ▸ bodyLine_ne_end s⟩
  · rintro ⟨clean, other⟩
    rw [bodyLine, strip_of_clean clean, if_neg other]

def Unaltered (cmd : OvpnCommand) : Prop :=
  (∀ s ∈ gatedFields cmd, strip s = s) ∧ ∀ lines ∈ bodyLines cmd, ∀ s ∈ lines, bodyLine s = s

theorem unaltered_iff {cmd : OvpnCommand} :
    Unaltered cmd ↔ (∀ s ∈ gatedFields cmd, WireClean s) ∧
      ∀ lines ∈ bodyLines cmd, ∀ s ∈ lines, WireClean s ∧ s ≠ endMarker := by
  simp only [Unaltered, strip_eq_self, bodyLine_eq_self]
  rfl

section Modes
variable (engine : Bytes → Text)

theorem wire_modes {cmd : OvpnCommand} (clean : ∀ s ∈ gatedFields cmd, WireClean s) :
    commandWire engine .strict cmd = commandWire engine .sanitize cmd := by
  cases cmd with
  | kill target =>
    cases target <;> simp_all [commandWire, killWire, gatedFields, -wireSafe_sanitize]
  | username authType value =>
    simp_all [commandWire, credentialWire, gatedFields]
  | password authType value =>
    simp_all [commandWire, credentialWire, gatedFields]
  | clientDeny deny =>
    obtain ⟨cid, kid, reason, clientReason⟩ := deny
    cases clientReason <;> simp_all [commandWire, clientDenyWire, gatedFields]
  | clientKill cid message =>
    cases message <;> simp_all [commandWire, clientKillWire, gatedFields, -wireSafe_sanitize]
  | remote action =>
    cases action <;> simp_all [commandWire, remoteWire, gatedFields, -wireSafe_sanitize]
  | proxy action =>
    cases action <;> simp_all [commandWire, proxyWire, gatedFields, -wireSafe_sanitize]
  | status format => cases format <;> rfl
  | verb level => cases level <;> rfl
  | mute threshold => cases threshold <;> rfl
  | _ => simp_all [commandWire, gatedFields, -wireSafe_sanitize]

/-- The strict mode accepts what the sanitize mode leaves alone, and then both write the same. -/
theorem modes_agree (c : OvpnCodec) (cmd : OvpnCommand) (dst : Bytes) :
    (((c.withEncoderMode .strict).encode engine cmd dst).2.2 = .ok () ↔ Unaltered cmd) ∧
      (Unaltered cmd ↔ (∀ s ∈ gatedFields cmd, WireClean s) ∧
        ∀ lines ∈ bodyLines cmd, ∀ s ∈ lines, WireClean s ∧ s ≠ endMarker) ∧
      (Unaltered cmd → ∃ bytes,
        ((c.withEncoderMode .strict).encode engine cmd dst).2 = (dst ++ bytes, .ok ()) ∧
        ((c.withEncoderMode .sanitize).encode engine cmd dst).2 = (dst ++ bytes, .ok ())) ∧
      ((c.withEncoderMode .sanitize).encode engine cmd dst).2.2 = .ok () := by
  have strict : Accepted (c.withEncoderMode .strict).encoderMode cmd ↔ Unaltered cmd := by
    rw [unaltered_iff]
    exact or_iff_right (by rintro ⟨⟩)
  have repaired : Accepted (c.withEncoderMode .sanitize).encoderMode cmd := Or.inl rfl
  obtain ⟨w, form, -, written⟩ := encode_accepted engine repaired dst
  refine ⟨?_, unaltered_iff, ?_, congrArg (·.2.2) written⟩
  · rw [← strict]
    constructor
    · intro accepted
      by_contra rejected
      obtain ⟨e, failed⟩ := encode_rejected engine rejected dst
      rw [accepted] at failed
      cases failed
    · intro accepted
      obtain ⟨v, -, -, sent⟩ := encode_accepted engine accepted dst
      rw [sent]
  · intro unaltered
    obtain ⟨v, other, -, sent⟩ := encode_accepted engine (strict.mpr unaltered) dst
    have same : v = w := by
      have both := (wire_modes engine (unaltered_iff.mp unaltered).1).symm.trans other
      exact Except.ok.inj (both.symm.trans form)
    exact ⟨wireBytes w, by rw [sent, same], by rw [written]⟩

end Modes

/-! What a failed call leaves behind -/

theorem writeBody_extends (dst : Bytes) (mode : EncoderMode) (lines : List Text) :
    dst <+: (writeBody dst mode lines).2 := by
  induction lines generalizing dst with
  | nil =>
    rw [writeBody, writeLine_eq]
    exact List.prefix_append dst _
  | cons s more ih =>
    rcases writeBody_cons dst mode s more with ⟨-, written⟩ | ⟨-, e, failed⟩
    · rw [written]
      exact (List.prefix_append dst _).trans (ih _)
    · rw [failed]

/-- The header is in the buffer before any line of the body is looked at. -/
theorem writeBlock_writes (dst : Bytes) (header : Text) (lines : List Text) (mode : EncoderMode) :
    (writeBlock dst header lines mode).2 ≠ dst := by
  intro same
  have longer := (writeBody_extends (writeLine dst header) mode lines).length_le
  rw [show (writeBody (writeLine dst header) mode lines).2 = dst from same, writeLine_eq] at longer
  simp only [lineBytes, List.length_append, List.length_singleton] at longer
  omega

def BlockFailureWritesNothing (dst : Bytes) (header : Text) (lines : List Text)
    (mode : EncoderMode) : Prop :=
  ∀ out e, writeBlock dst header lines mode = (.error e, out) → out = dst

def EncodeFailureWritesNothing (engine : Bytes → Text) (c : OvpnCodec) (cmd : OvpnCommand)
    (dst : Bytes) : Prop :=
  ∀ after out e, c.encode engine cmd dst = (after, out, .error e) → out = dst

theorem block_failure_iff (dst : Bytes) (header : Text) (lines : List Text) (mode : EncoderMode) :
    BlockFailureWritesNothing dst header lines mode ↔
      mode = .sanitize ∨ ∀ s ∈ lines, BodyClean s := by
  constructor
  · intro nothing
    by_contra refused
    obtain ⟨e, out, failed⟩ := writeBody_refused refused (writeLine dst header)
    have unchanged := nothing out e failed
    have written := writeBlock_writes dst header lines mode
    rw [show writeBlock dst header lines mode = (.error e, out) from failed] at written
    exact written unchanged
  · intro accepted out e failed
    rw [writeBlock, writeBody_accepted accepted] at failed
    cases failed

theorem block_ungated {cmd : OvpnCommand} {lines : List Text} (block : bodyLines cmd = some lines) :
    gatedFields cmd = [] := by
  cases cmd <;> first | rfl | simp [bodyLines] at block

theorem encode_failure_iff (engine : Bytes → Text) (c : OvpnCodec) (cmd : OvpnCommand)
    (dst : Bytes) :
    EncodeFailureWritesNothing engine c cmd dst ↔
      c.encoderMode = .sanitize ∨ ∀ lines ∈ bodyLines cmd, ∀ s ∈ lines, BodyClean s := by
  cases form : commandWire engine c.encoderMode cmd with
  | error e =>
    refine iff_of_true ?_ (Or.inr fun lines block => ?_)
    · intro after out e failed
      simp only [OvpnCodec.encode, form] at failed
      cases failed
      rfl
    · have accepted := (wire_succeeds engine c.encoderMode cmd).mpr
        (Or.inr (by simp [block_ungated block]))
      obtain ⟨w, found⟩ := accepted
      rw [form] at found
      cases found
  | ok w =>
    have shaped := (wire_shaped engine c.encoderMode cmd w form).1
    rw [← shaped]
    cases w with
    | line text =>
      refine iff_of_true ?_ (Or.inr (by simp [wireBody]))
      intro after out e failed
      simp only [OvpnCodec.encode, form] at failed
      cases failed
    | block header lines =>
      have direct := block_failure_iff dst header lines c.encoderMode
      have same : EncodeFailureWritesNothing engine c cmd dst ↔
          BlockFailureWritesNothing dst header lines c.encoderMode := by
        simp only [EncodeFailureWritesNothing, BlockFailureWritesNothing, OvpnCodec.encode, form]
        constructor
        · intro nothing out e failed
          exact nothing _ out e (by rw [failed])
        · intro nothing after out e failed
          cases written : writeBlock dst header lines c.encoderMode with
          | mk result left =>
            rw [written] at failed
            cases failed
            exact nothing left e written
      rw [same, direct]
      simp [wireBody]

/-- The lines of a body are validated while they are written, so only a body without a refused
    line keeps the promise; every other failure comes before the first byte. -/
theorem failure_writes_nothing_iff (engine : Bytes → Text) (dst : Bytes) :
    (∀ (c : OvpnCodec) (cmd : OvpnCommand), EncodeFailureWritesNothing engine c cmd dst ↔
      c.encoderMode = .sanitize ∨ ∀ lines ∈ bodyLines cmd, ∀ s ∈ lines, BodyClean s) ∧
      ∀ (header : Text) (lines : List Text) (mode : EncoderMode),
        BlockFailureWritesNothing dst header lines mode ↔
          mode = .sanitize ∨ ∀ s ∈ lines, BodyClean s :=
  ⟨fun c cmd => encode_failure_iff engine c cmd dst,
    fun header lines mode => block_failure_iff dst header lines mode⟩

/-- A refused `client-auth` whose header and first line wait for the next command. -/
theorem refused_block_leaves_header :
    ¬ EncodeFailureWritesNothing Base64Text.encode (OvpnCodec.new.withEncoderMode .strict)
        (.clientAuth 0 1 [lit "push x", lit "END"]) [] ∧
      ((OvpnCodec.new.withEncoderMode .strict).encode Base64Text.encode
        (.clientAuth 0 1 [lit "push x", lit "END"]) []).2 =
        (toUtf8 (lit "client-auth 0 1\npush x\n"), .error .endInBlockBody) := by
  have left : ((OvpnCodec.new.withEncoderMode .strict).encode Base64Text.encode
      (.clientAuth 0 1 [lit "push x", lit "END"]) []).2 =
      (toUtf8 (lit "client-auth 0 1\npush x\n"), .error .endInBlockBody) := by decide +kernel
  refine ⟨?_, left⟩
  intro nothing
  have empty := nothing _ _ .endInBlockBody (Prod.ext rfl left)
  exact absurd empty (by decide +kernel)

/-! Reading a block back -/

/- A reader of blocks: the pieces between the newlines, the first one as header, the lines up to
   the first END, and what follows it. -/
def readBlock (bytes : Bytes) : Option (Text × List Text × Text) := do
  let pieces ← (bytes.splitOn newline).mapM fromUtf8
  let header ← pieces.head?
  match pieces.tail.dropWhile (· ≠ endMarker) with
  | [] => none
  | _ :: after => some (header, pieces.tail.takeWhile (· ≠ endMarker), join '\n' after)

theorem newline_mem_iff (s : Text) : newline ∈ toUtf8 s ↔ '\n' ∈ s :=
  ascii_mem_toUtf8 (c := '\n') (by decide) s

theorem pieces_lines {lines : List Text} (free : ∀ s ∈ lines, '\n' ∉ s) :
    (lines.flatMap lineBytes).splitOn newline = lines.map toUtf8 ++ [[]] := by
  induction lines with
  | nil => rfl
  | cons s more ih =>
    have first : newline ∉ toUtf8 s := (newline_mem_iff s).not.mpr (free s (by simp))
    have rest := ih fun t member => free t (by simp [member])
    have shape : (s :: more).flatMap lineBytes =
        toUtf8 s ++ newline :: more.flatMap lineBytes := by simp [lineBytes]
    rw [shape, List.splitOn_append_cons_self_of_not_mem first, rest]
    rfl

theorem decode_pieces (lines : List Text) :
    (lines.map toUtf8 ++ [[]]).mapM fromUtf8 = some (lines ++ [[]]) := by
  induction lines with
  | nil => rfl
  | cons s more ih =>
    rw [List.map_cons, List.cons_append, List.mapM_cons, fromUtf8_toUtf8, ih]
    rfl

theorem readBlock_lines {header : Text} {body : List Text} (free : '\n' ∉ header)
    (clean : ∀ s ∈ body, '\n' ∉ s ∧ s ≠ endMarker) :
    readBlock ((header :: (body ++ [endMarker])).flatMap lineBytes) = some (header, body, []) := by
  have all : ∀ s ∈ header :: (body ++ [endMarker]), '\n' ∉ s := by
    intro s member
    simp only [List.mem_cons, List.mem_append, List.not_mem_nil, or_false] at member
    rcases member with rfl | inside | rfl
    · exact free
    · exact (clean s inside).1
    · decide
  have taken : (body ++ endMarker :: [[]]).takeWhile (· ≠ endMarker) = body := by
    rw [List.takeWhile_append_of_pos (by simpa using fun s member => (clean s member).2)]
    simp
  have dropped : (body ++ endMarker :: [[]]).dropWhile (· ≠ endMarker) = endMarker :: [[]] := by
    rw [List.dropWhile_append_of_pos (by simpa using fun s member => (clean s member).2)]
    simp
  have pieces : (header :: (body ++ [endMarker])) ++ [[]] = header :: (body ++ endMarker :: [[]]) := by
    simp
  rw [readBlock, pieces_lines all, decode_pieces, pieces]
  simp only [Option.bind_eq_bind, Option.bind_some, List.head?_cons, List.tail_cons, taken, dropped,
    join_single]

/-- Every body line comes back in its repaired form, which in the strict mode is the line. -/
theorem block_reads_back {header : Text} (free : '\n' ∉ header) {lines : List Text}
    {mode : EncoderMode} {dst out : Bytes}
    (written : writeBlock dst header lines mode = (.ok (), out)) :
    ∃ bytes, out = dst ++ bytes ∧ readBlock bytes = some (header, lines.map bodyLine, []) ∧
      (mode = .strict → lines.map bodyLine = lines) := by
  have accepted : mode = .sanitize ∨ ∀ s ∈ lines, BodyClean s := by
    by_contra refused
    obtain ⟨e, left, failed⟩ := writeBody_refused refused (writeLine dst header)
    rw [writeBlock, failed] at written
    cases written
  rw [writeBlock, writeBody_accepted accepted, writeLine_eq, List.append_assoc] at written
  cases written
  refine ⟨(header :: (lines.map bodyLine ++ [endMarker])).flatMap lineBytes, ?_, ?_, ?_⟩
  · simp [trailer]
  · refine readBlock_lines free fun s member => ?_
    obtain ⟨line, -, rfl⟩ := List.mem_map.mp member
    exact ⟨fun inside => bodyLine_clean line _ inside (by decide), bodyLine_ne_end line⟩
  · intro strict
    have clean := accepted.resolve_left (by rw [strict]; rintro ⟨⟩)
    rw [List.map_congr_left fun s member => bodyLine_eq_self.mpr (clean s member), List.map_id']

/-- Stripping can make an END that the reader must not stop at. -/
theorem block_reads_back_split_end :
    readBlock (writeBlock [] (lit "client-auth 0 1") [lit "E\nND", lit "push x"] .sanitize).2 =
      some (lit "client-auth 0 1", [lit " END", lit "push x"], []) := by
  have written : writeBlock [] (lit "client-auth 0 1") [lit "E\nND", lit "push x"] .sanitize =
      (.ok (), _) := writeBody_accepted (Or.inl rfl) (writeLine [] (lit "client-auth 0 1"))
  obtain ⟨bytes, same, read, -⟩ := block_reads_back (by simp [lit_eq]) written
  have repaired : [lit "E\nND", lit "push x"].map bodyLine = [lit " END", lit "push x"] := by
    decide +kernel
  rw [written, same, List.nil_append, read, repaired]

end MgmtEncoderModes
