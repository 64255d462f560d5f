import OpenvpnMgmt.Lib.Base64
import OpenvpnMgmt.Draining

/-!
What `encode` may put on the wire and when it fails. Every user string passes the gate of the
encoder mode, except the protocol of `kill`; so one command is one line or one block, and the
only failures are those of the gate.
-/
namespace MgmtEncodeSafety
open TextOps Utf8Text LineFraming Base64Text MgmtEncoder MgmtValues MgmtCommand MgmtMessage
  MgmtCodec MgmtWire MgmtDraining

/- The strings of a command that pass the gate, in the order they do. -/
def gatedFields : OvpnCommand → List Text
  | .kill (.commonName name) => [name]
  | .kill (.address _ ip _) => [ip]
  | .username authType value | .password authType value => [authType.toText, value.expose]
  | .challengeResponse stateId response => [stateId, response.expose]
  | .needOk name _ => [name]
  | .needStr name value => [name, value]
  | .pushUpdateBroad options | .pushUpdateCid _ options => [options]
  | .clientDeny deny => deny.reason :: deny.clientReason.toList
  | .clientKill _ message => message.toList
  | .clientPendingAuth _ _ extra _ => [extra]
  | .crResponse response => [response.expose]
  | .remote (.modify host _) => [host]
  | .proxy (.http host _ _) | .proxy (.socks host _) => [host]
  | .managementPassword pw => [pw.expose]
  | .raw cmd | .rawMultiLine cmd => [cmd]
  | _ => []

def bodyLines : OvpnCommand → Option (List Text)
  | .rsaSig base64Lines | .pkSig base64Lines => some base64Lines
  | .clientAuth _ _ configLines => some configLines
  | .certificate pemLines => some pemLines
  | _ => none

/- The one string that reaches the wire past the gate. -/
def ungated : OvpnCommand → Text
  | .kill (.address protocol _ _) => protocol.toText
  | _ => []

/-! The gate inside the wire forms -/

@[simp] theorem gate_bind {α : Type} (s field : Text) (mode : EncoderMode) (k : Text → Encoded α) :
    (wireSafe s field mode >>= k) =
      if mode = .sanitize ∨ WireClean s then k (strip s) else .error (.unsafeCharacters field) := by
  rw [wireSafe_eq]
  split <;> rfl

@[simp] theorem gate_map {α : Type} (s field : Text) (mode : EncoderMode) (f : Text → α) :
    (f <$> wireSafe s field mode) =
      if mode = .sanitize ∨ WireClean s then pure (f (strip s)) else .error (.unsafeCharacters field) := by
  rw [wireSafe_eq]
  split <;> rfl

@[simp] theorem quoted_bind {α : Type} (s : Text) (field : String) (mode : EncoderMode)
    (k : Text → Encoded α) :
    (quoted s field mode >>= k) =
      if mode = .sanitize ∨ WireClean s then k (quote (escape (strip s)))
      else .error (.unsafeCharacters (lit field)) := by
  simp only [quoted, gate_bind]
  split <;> rfl

@[simp] theorem quoted_map {α : Type} (s : Text) (field : String) (mode : EncoderMode) (f : Text → α) :
    (f <$> quoted s field mode) =
      if mode = .sanitize ∨ WireClean s then pure (f (quote (escape (strip s))))
      else .error (.unsafeCharacters (lit field)) := by
  rw [map_eq_pure_bind, quoted_bind]

def Yields (p : Wire → Prop) (x : Encoded Wire) : Prop := ∀ w, x = .ok w → p w

@[simp] theorem yields_pure {p : Wire → Prop} (w : Wire) : Yields p (pure w) ↔ p w := by
  constructor
  · exact fun all => all w rfl
  · rintro good _ ⟨⟩
    exact good

@[simp] theorem yields_ite {p : Wire → Prop} {c : Prop} [Decidable c] (x : Encoded Wire)
    (e : EncodeError) : Yields p (if c then x else .error e) ↔ (c → Yields p x) := by
  split
  · simp [*]
  · refine iff_of_true ?_ (fun yes => absurd yes ‹_›)
    rintro w ⟨⟩

def Succeeds (x : Encoded Wire) : Prop := ∃ w, x = .ok w

@[simp] theorem succeeds_pure (w : Wire) : Succeeds (pure w) := ⟨w, rfl⟩

@[simp] theorem succeeds_ite {c : Prop} [Decidable c] (x : Encoded Wire) (e : EncodeError) :
    Succeeds (if c then x else .error e) ↔ c ∧ Succeeds x := by
  split
  · simp [*]
  · simp [*, Succeeds]

theorem either_both (p : Prop) (a b : Prop) : (p ∨ a) ∧ (p ∨ b) ↔ p ∨ a ∧ b := or_and_left.symm

theorem wire_succeeds (engine : Bytes → Text) (mode : EncoderMode) (cmd : OvpnCommand) :
    Succeeds (commandWire engine mode cmd) ↔
      mode = .sanitize ∨ ∀ s ∈ gatedFields cmd, WireClean s := by
  cases cmd with
  | kill target => cases target <;> simp [commandWire, killWire, gatedFields]
  | username authType value =>
    simp [commandWire, credentialWire, gatedFields, either_both]
  | password authType value =>
    simp [commandWire, credentialWire, gatedFields, either_both]
  | challengeResponse stateId response => simp [commandWire, gatedFields, either_both]
  | needStr name value => simp [commandWire, gatedFields, either_both]
  | clientDeny deny =>
    obtain ⟨cid, kid, reason, clientReason⟩ := deny
    cases clientReason <;> simp [commandWire, clientDenyWire, gatedFields, either_both]
  | clientKill cid message => cases message <;> simp [commandWire, clientKillWire, gatedFields]
  | remote action => cases action <;> simp [commandWire, remoteWire, gatedFields]
  | proxy action => cases action <;> simp [commandWire, proxyWire, gatedFields]
  | status format => cases format <;> simp [commandWire, gatedFields]
  | verb level => cases level <;> simp [commandWire, gatedFields]
  | mute threshold => cases threshold <;> simp [commandWire, gatedFields]
  | _ => simp [commandWire, gatedFields]

/-! Bytes of lines -/

def carriageReturn : UInt8 := 13
def nul : UInt8 := 0

def lineBytes (s : Text) : Bytes := toUtf8 s ++ [newline]

theorem writeLine_eq (dst : Bytes) (s : Text) : writeLine dst s = dst ++ lineBytes s := by
  simp [writeLine, lineBytes]

theorem wireClean_iff_bytes (s : Text) :
    WireClean s ↔ newline ∉ toUtf8 s ∧ carriageReturn ∉ toUtf8 s ∧ nul ∉ toUtf8 s := by
  have byte (c : Char) (ascii : c.toNat < 128) := ascii_mem_toUtf8 ascii s
  have lf := byte '\n' (by decide)
  have cr := byte '\r' (by decide)
  have zero := byte '\x00' (by decide)
  rw [show newline = UInt8.ofNat '\n'.toNat from rfl, lf,
    show carriageReturn = UInt8.ofNat '\r'.toNat from rfl, cr,
    show nul = UInt8.ofNat '\x00'.toNat from rfl, zero]
  constructor
  · intro clean
    refine ⟨?_, ?_, ?_⟩ <;> exact fun member => clean _ member (by decide)
  · rintro ⟨noLf, noCr, noZero⟩ c member bad
    simp only [wireUnsafe, List.mem_cons, List.not_mem_nil, or_false] at bad
    rcases bad with rfl | rfl | rfl
    · exact noLf member
    · exact noCr member
    · exact noZero member

theorem lineBytes_isLine {s : Text} (clean : WireClean s) : IsLine newline (lineBytes s) :=
  ⟨toUtf8 s, rfl, ((wireClean_iff_bytes s).mp clean).1⟩

theorem lineBytes_inj {a b : Text} : lineBytes a = lineBytes b ↔ a = b := by
  constructor
  · intro same
    have texts : toUtf8 a = toUtf8 b := List.append_cancel_right same
    have back := congrArg fromUtf8 texts
    simpa only [fromUtf8_toUtf8, Option.some.injEq] using back
  · exact congrArg lineBytes

/-! The lines of a command -/

def bodyLine (s : Text) : Text :=
  if strip s = endMarker then ' ' :: endMarker else strip s

def BodyClean (s : Text) : Prop := WireClean s ∧ s ≠ endMarker

instance (s : Text) : Decidable (BodyClean s) := inferInstanceAs (Decidable (_ ∧ _))

def trailer : Option (List Text) → List Text
  | none => []
  | some lines => lines.map bodyLine ++ [endMarker]

def firstLine : Wire → Text
  | .line text => text
  | .block header _ => header

def wireBody : Wire → Option (List Text)
  | .line _ => none
  | .block _ lines => some lines

def wireBytes (w : Wire) : Bytes := (firstLine w :: trailer (wireBody w)).flatMap lineBytes

theorem bodyLine_clean (s : Text) : WireClean (bodyLine s) := by
  rw [bodyLine]
  split
  · decide
  · exact strip_clean s

theorem bodyLine_ne_end (s : Text) : bodyLine s ≠ endMarker := by
  rw [bodyLine]
  split
  · decide
  · assumption

theorem trailer_clean (body : Option (List Text)) : ∀ s ∈ trailer body, WireClean s := by
  cases body with
  | none => simp [trailer]
  | some lines =>
    intro s member
    simp only [trailer, List.mem_append, List.mem_map, List.mem_singleton] at member
    rcases member with ⟨line, -, rfl⟩ | rfl
    · exact bodyLine_clean line
    · decide

/-- A line of the body either is written as its `bodyLine` or ends the block with an error. -/
theorem writeBody_cons (dst : Bytes) (mode : EncoderMode) (s : Text) (more : List Text) :
    (mode = .sanitize ∨ BodyClean s) ∧
        writeBody dst mode (s :: more) = writeBody (dst ++ lineBytes (bodyLine s)) mode more ∨
      ¬ (mode = .sanitize ∨ BodyClean s) ∧
        ∃ e, writeBody dst mode (s :: more) = (.error e, dst) := by
  cases mode with
  | sanitize =>
    refine Or.inl ⟨Or.inl rfl, ?_⟩
    simp only [writeBody, wireSafe_sanitize, writeLine_eq, bodyLine]
    split <;> rfl
  | strict =>
    by_cases clean : WireClean s
    · by_cases marker : s = endMarker
      · subst marker
        exact Or.inr ⟨by simp [BodyClean], .endInBlockBody, by
          simp [writeBody, wireSafe_of_clean clean]⟩
      · refine Or.inl ⟨Or.inr ⟨clean, marker⟩, ?_⟩
        simp [writeBody, wireSafe_of_clean clean, marker, writeLine_eq, bodyLine,
          strip_of_clean clean]
    · exact Or.inr ⟨by simp [BodyClean, clean], .unsafeCharacters (lit "block body line"), by
        simp [writeBody, wireSafe_strict_error clean]⟩

theorem writeBody_accepted {mode : EncoderMode} {lines : List Text}
    (accepted : mode = .sanitize ∨ ∀ s ∈ lines, BodyClean s) (dst : Bytes) :
    writeBody dst mode lines = (.ok (), dst ++ (trailer (some lines)).flatMap lineBytes) := by
  induction lines generalizing dst with
  | nil => simp [writeBody, writeLine_eq, trailer]
  | cons s more ih =>
    have tail := ih (accepted.imp_right fun all t member => all t (by simp [member]))
    rcases writeBody_cons dst mode s more with ⟨-, written⟩ | ⟨refused, -⟩
    · simp [written, tail, trailer]
    · exact absurd (accepted.imp_right fun all => all s (by simp)) refused

theorem writeBody_refused {mode : EncoderMode} {lines : List Text}
    (refused : ¬ (mode = .sanitize ∨ ∀ s ∈ lines, BodyClean s)) (dst : Bytes) :
    ∃ e out, writeBody dst mode lines = (.error e, out) := by
  induction lines generalizing dst with
  | nil => exact absurd (Or.inr (by simp)) refused
  | cons s more ih =>
    rcases writeBody_cons dst mode s more with ⟨open_, written⟩ | ⟨-, e, failed⟩
    · rw [written]
      refine ih (fun accepted => refused ?_) _
      rcases open_ with sanitize | clean
      · exact Or.inl sanitize
      · exact accepted.imp_right fun all => by simpa using ⟨clean, all⟩
    · exact ⟨e, dst, failed⟩

theorem encode_line {engine : Bytes → Text} {c : OvpnCodec} {cmd : OvpnCommand} {w : Wire}
    (form : commandWire engine c.encoderMode cmd = .ok w)
    (accepted : c.encoderMode = .sanitize ∨ ∀ lines ∈ wireBody w, ∀ s ∈ lines, BodyClean s)
    (dst : Bytes) :
    c.encode engine cmd dst =
      ({ c with expectedQueue := c.expectedQueue ++ [cmd.expectedResponse] },
        dst ++ wireBytes w, .ok ()) := by
  cases w with
  | line text => simp [OvpnCodec.encode, form, wireBytes, wireBody, firstLine, trailer, writeLine_eq]
  | block header lines =>
    have body : c.encoderMode = .sanitize ∨ ∀ s ∈ lines, BodyClean s :=
      accepted.imp_right fun all => all lines rfl
    simp [OvpnCodec.encode, form, writeBlock, writeBody_accepted body, wireBytes, wireBody,
      firstLine, writeLine_eq]

theorem encode_refused {engine : Bytes → Text} {c : OvpnCodec} {cmd : OvpnCommand}
    (refused : ∀ w, commandWire engine c.encoderMode cmd = .ok w →
      ¬ (c.encoderMode = .sanitize ∨ ∀ lines ∈ wireBody w, ∀ s ∈ lines, BodyClean s))
    (dst : Bytes) : ∃ e, (c.encode engine cmd dst).2.2 = .error e := by
  cases form : commandWire engine c.encoderMode cmd with
  | error e => exact ⟨e, by simp [OvpnCodec.encode, form]⟩
  | ok w =>
    have body := refused w form
    cases w with
    | line text => exact absurd (Or.inr (by simp [wireBody])) body
    | block header lines =>
      have unclean : ¬ (c.encoderMode = .sanitize ∨ ∀ s ∈ lines, BodyClean s) := by
        simpa [wireBody] using body
      obtain ⟨e, out, failed⟩ := writeBody_refused unclean (writeLine dst header)
      exact ⟨e, by simp [OvpnCodec.encode, form, writeBlock, failed]⟩

/- The body of the wire form is the body of the command, and no header reads as an end. -/
def Shaped (cmd : OvpnCommand) (w : Wire) : Prop :=
  wireBody w = bodyLines cmd ∧ (wireBody w ≠ none → firstLine w ≠ endMarker)

theorem wire_shaped (engine : Bytes → Text) (mode : EncoderMode) (cmd : OvpnCommand) :
    Yields (Shaped cmd) (commandWire engine mode cmd) := by
  cases cmd with
  | kill target => cases target <;> simp [commandWire, killWire, Shaped, wireBody, bodyLines]
  | username authType value =>
    simp [commandWire, credentialWire, Shaped, wireBody, bodyLines]
  | password authType value =>
    simp [commandWire, credentialWire, Shaped, wireBody, bodyLines]
  | clientDeny deny =>
    obtain ⟨cid, kid, reason, clientReason⟩ := deny
    cases clientReason <;> simp [commandWire, clientDenyWire, Shaped, wireBody, bodyLines]
  | clientKill cid message =>
    cases message <;> simp [commandWire, clientKillWire, Shaped, wireBody, bodyLines]
  | remote action => cases action <;> simp [commandWire, remoteWire, Shaped, wireBody, bodyLines]
  | proxy action => cases action <;> simp [commandWire, proxyWire, Shaped, wireBody, bodyLines]
  | status format => cases format <;> simp [commandWire, Shaped, wireBody, bodyLines]
  | verb level => cases level <;> simp [commandWire, Shaped, wireBody, bodyLines]
  | mute threshold => cases threshold <;> simp [commandWire, Shaped, wireBody, bodyLines]
  | _ => simp [commandWire, Shaped, wireBody, bodyLines, firstLine, lit_eq, endMarker]

/-! Every text of a first line -/

@[simp] theorem wireClean_quoted (s : Text) : WireClean (quote (escape (strip s))) :=
  quote_clean (escape_clean (strip_clean s))

@[simp] theorem wireClean_display {w : Nat} (n : BitVec w) : WireClean (display n) := by
  intro c member unsafe_
  have digit := display_isDigit n c member
  simp only [wireUnsafe, List.mem_cons, List.not_mem_nil, or_false] at unsafe_
  rcases unsafe_ with rfl | rfl | rfl <;> simp [Char.isDigit] at digit

theorem base64_clean {t : Text} (base64 : IsBase64 t) : WireClean t := by
  intro c member unsafe_
  have letter := base64 c member
  simp only [wireUnsafe, List.mem_cons, List.not_mem_nil, or_false] at unsafe_
  rcases unsafe_ with rfl | rfl | rfl
  all_goals exact absurd letter (by decide)

theorem keywords_clean :
    (∀ m : StreamMode, WireClean m.toText) ∧ (∀ f : StatusFormat, WireClean f.toText) ∧
      (∀ m : AuthRetryMode, WireClean m.toText) ∧ (∀ s : Signal, WireClean s.toText) ∧
      (∀ r : NeedOkResponse, WireClean r.toText) ∧ (∀ r : RemoteEntryRange, WireClean r.toText) := by
  refine ⟨?_, ?_, ?_, ?_, ?_, ?_⟩ <;> intro value <;> cases value <;>
    simp [StreamMode.toText, StatusFormat.toText, AuthRetryMode.toText, Signal.toText,
      NeedOkResponse.toText, RemoteEntryRange.toText, lit_eq, wireUnsafe]

theorem wire_clean {engine : Bytes → Text} (base64 : ∀ b, IsBase64 (engine b))
    (mode : EncoderMode) (cmd : OvpnCommand) (protocol : WireClean (ungated cmd)) :
    Yields (fun w => WireClean (firstLine w)) (commandWire engine mode cmd) := by
  obtain ⟨stream, status, retry, signal, needOk, range⟩ := keywords_clean
  have encoded (b : Bytes) : WireClean (engine b) := base64_clean (base64 b)
  cases cmd with
  | kill target =>
    cases target with
    | commonName name => simp [commandWire, killWire, firstLine, lit_eq, wireUnsafe]
    | address proto ip port =>
      have proto_clean : WireClean proto.toText := protocol
      simp [commandWire, killWire, firstLine, lit_eq, wireUnsafe, proto_clean]
  | username authType value =>
    simp [commandWire, credentialWire, firstLine, lit_eq, wireUnsafe]
  | password authType value =>
    simp [commandWire, credentialWire, firstLine, lit_eq, wireUnsafe]
  | challengeResponse stateId response =>
    have value : WireClean (lit "CRV1::" ++ strip stateId ++ lit "::" ++ strip response.expose) := by
      simp [lit_eq, wireUnsafe]
    have line := quote_clean (escape_clean value)
    simpa [commandWire, firstLine, lit_eq, wireUnsafe] using fun _ _ => line
  | staticChallengeResponse password response =>
    have value : WireClean (lit "SCRV1:" ++ engine (toUtf8 password.expose) ++
        ':' :: engine (toUtf8 response.expose)) := by
      simp [lit_eq, wireUnsafe, encoded]
    have line := quote_clean (escape_clean value)
    simpa [commandWire, firstLine, lit_eq, wireUnsafe] using line
  | clientDeny deny =>
    obtain ⟨cid, kid, reason, clientReason⟩ := deny
    cases clientReason <;> simp [commandWire, clientDenyWire, firstLine, lit_eq, wireUnsafe]
  | clientKill cid message =>
    cases message <;> simp [commandWire, clientKillWire, firstLine, lit_eq, wireUnsafe]
  | remote action =>
    cases action <;> simp [commandWire, remoteWire, firstLine, lit_eq, wireUnsafe]
  | proxy action =>
    cases action with
    | http host port nonCleartextOnly =>
      cases nonCleartextOnly <;> simp [commandWire, proxyWire, firstLine, lit_eq, wireUnsafe]
    | _ => simp [commandWire, proxyWire, firstLine, lit_eq, wireUnsafe]
  | status format =>
    cases format <;> simp [commandWire, firstLine, lit_eq, wireUnsafe, StatusFormat.toText]
  | verb level => cases level <;> simp [commandWire, firstLine, lit_eq, wireUnsafe]
  | mute threshold => cases threshold <;> simp [commandWire, firstLine, lit_eq, wireUnsafe]
  | _ => simp [commandWire, firstLine, lit_eq, wireUnsafe, stream, retry, signal, needOk, range]

/-! One command, one line or one block -/

def newlines : Option (List Text) → Nat
  | none => 1
  | some lines => lines.length + 2

structure WellFramed (cmd : OvpnCommand) (bytes : Bytes) : Prop where
  ended : bytes.getLast? = some newline
  noReturn : carriageReturn ∉ bytes
  noNul : nul ∉ bytes
  counted : bytes.count newline = newlines (bodyLines cmd)
  closed : bodyLines cmd ≠ none → ∃ earlier,
    cut newline bytes = (earlier ++ [lineBytes endMarker], []) ∧ lineBytes endMarker ∉ earlier

theorem lines_clean {s : Text} {more : List Text} (clean : ∀ t ∈ s :: more, WireClean t) :
    ((s :: more).flatMap lineBytes).getLast? = some newline ∧
      carriageReturn ∉ (s :: more).flatMap lineBytes ∧ nul ∉ (s :: more).flatMap lineBytes := by
  refine ⟨?_, ?_, ?_⟩
  · obtain ⟨front, last, eq⟩ : ∃ front last, s :: more = front ++ [last] :=
      ⟨_, _, (List.dropLast_concat_getLast (List.cons_ne_nil s more)).symm⟩
    rw [eq, List.flatMap_append]
    simp [lineBytes]
  · intro member
    obtain ⟨t, line, byte⟩ := List.mem_flatMap.mp member
    rcases List.mem_append.mp byte with inside | ending
    · exact ((wireClean_iff_bytes t).mp (clean t line)).2.1 inside
    · exact absurd ending (by decide)
  · intro member
    obtain ⟨t, line, byte⟩ := List.mem_flatMap.mp member
    rcases List.mem_append.mp byte with inside | ending
    · exact ((wireClean_iff_bytes t).mp (clean t line)).2.2 inside
    · exact absurd ending (by decide)

theorem wellFramed_of_clean {cmd : OvpnCommand} {w : Wire} (shaped : Shaped cmd w)
    (clean : WireClean (firstLine w)) : WellFramed cmd (wireBytes w) := by
  obtain ⟨body, header⟩ := shaped
  have all : ∀ t ∈ firstLine w :: trailer (wireBody w), WireClean t := by
    simpa using ⟨clean, trailer_clean (wireBody w)⟩
  have whole : ∀ l ∈ (firstLine w :: trailer (wireBody w)).map lineBytes, IsLine newline l := by
    intro l member
    obtain ⟨t, line, rfl⟩ := List.mem_map.mp member
    exact lineBytes_isLine (all t line)
  have joined : wireBytes w = ((firstLine w :: trailer (wireBody w)).map lineBytes).flatten :=
    List.flatMap_def ..
  obtain ⟨ended, noReturn, noNul⟩ := lines_clean all
  refine ⟨ended, noReturn, noNul, ?_, ?_⟩
  · rw [joined, count_lines whole, ← body]
    cases wireBody w <;> simp [trailer, newlines]
  · intro block
    rw [← body] at block
    have cutting := cut_lines whole []
    rw [List.append_nil, ← joined] at cutting
    cases lines : wireBody w with
    | none => exact absurd lines block
    | some lines' =>
      refine ⟨(firstLine w :: lines'.map bodyLine).map lineBytes, ?_, ?_⟩
      · simpa [lines, trailer, cut] using cutting
      · intro member
        obtain ⟨t, line, same⟩ := List.mem_map.mp member
        rw [lineBytes_inj] at same
        subst same
        rcases List.mem_cons.mp line with first | later
        · exact header block first.symm
        · obtain ⟨s, -, eq⟩ := List.mem_map.mp later
          exact bodyLine_ne_end s eq

theorem clean_of_wellFramed {cmd : OvpnCommand} {text : Text} (single : bodyLines cmd = none)
    (framed : WellFramed cmd (lineBytes text)) : WireClean text := by
  obtain ⟨-, noReturn, noNul, counted, -⟩ := framed
  rw [wireClean_iff_bytes]
  simp only [lineBytes, List.mem_append, not_or] at noReturn noNul
  refine ⟨?_, noReturn.1, noNul.1⟩
  simp only [lineBytes, List.count_append, single, newlines] at counted
  rw [← List.count_eq_zero]
  simpa using counted

def Accepted (mode : EncoderMode) (cmd : OvpnCommand) : Prop :=
  mode = .sanitize ∨
    (∀ s ∈ gatedFields cmd, WireClean s) ∧ ∀ lines ∈ bodyLines cmd, ∀ s ∈ lines, BodyClean s

section Encoding
variable (engine : Bytes → Text)

theorem encode_accepted {c : OvpnCodec} {cmd : OvpnCommand} (accepted : Accepted c.encoderMode cmd)
    (dst : Bytes) :
    ∃ w, commandWire engine c.encoderMode cmd = .ok w ∧ Shaped cmd w ∧
      c.encode engine cmd dst =
        ({ c with expectedQueue := c.expectedQueue ++ [cmd.expectedResponse] },
          dst ++ wireBytes w, .ok ()) := by
  obtain ⟨w, form⟩ := (wire_succeeds engine c.encoderMode cmd).mpr
    (accepted.imp_right fun both => both.1)
  have shaped := wire_shaped engine c.encoderMode cmd w form
  refine ⟨w, form, shaped, encode_line form ?_ dst⟩
  rw [shaped.1]
  exact accepted.imp_right fun both => both.2

theorem encode_rejected {c : OvpnCodec} {cmd : OvpnCommand}
    (rejected : ¬ Accepted c.encoderMode cmd) (dst : Bytes) :
    ∃ e, (c.encode engine cmd dst).2.2 = .error e := by
  refine encode_refused (fun w form body => rejected ?_) dst
  have gate := (wire_succeeds engine c.encoderMode cmd).mp ⟨w, form⟩
  rw [(wire_shaped engine c.encoderMode cmd w form).1] at body
  rcases gate with sanitize | clean
  · exact Or.inl sanitize
  · exact body.imp_right fun all => ⟨clean, all⟩

/- What is appended on success is one line, or one block. -/
def NoInjection (c : OvpnCodec) (cmd : OvpnCommand) (dst : Bytes) : Prop :=
  ∀ out, (c.encode engine cmd dst).2 = (out, .ok ()) →
    ∃ bytes, out = dst ++ bytes ∧ WellFramed cmd bytes

theorem kill_accepted {mode : EncoderMode} (protocol : TransportProtocol) (ip : Text) (port : U16) :
    Accepted mode (.kill (.address protocol ip port)) ↔ mode = .sanitize ∨ WireClean ip := by
  simp [Accepted, gatedFields, bodyLines]

theorem kill_line (mode : EncoderMode) (protocol : TransportProtocol) (ip : Text) (port : U16)
    {w : Wire} (form : commandWire engine mode (.kill (.address protocol ip port)) = .ok w) :
    ∃ front back, w = .line (front ++ protocol.toText ++ back) := by
  simp only [commandWire, killWire, gate_bind] at form
  split at form
  · cases form
    exact ⟨lit "kill ", ':' :: strip ip ++ ':' :: display port, by simp⟩
  · cases form

/-- The protocol of `kill` is the only string that reaches the wire past the gate: an `unknown`
    one with a separator inside breaks the framing whenever the command is accepted. -/
theorem no_injection_iff (base64 : ∀ b, IsBase64 (engine b)) (c : OvpnCodec) (cmd : OvpnCommand)
    (dst : Bytes) :
    NoInjection engine c cmd dst ↔
      ∀ protocol ip port, cmd = .kill (.address protocol ip port) →
        WireClean protocol.toText ∨ c.encoderMode = .strict ∧ ¬ WireClean ip := by
  constructor
  · rintro framed protocol ip port rfl
    by_contra dirty
    simp only [not_or, not_and, not_not] at dirty
    have accepted : Accepted c.encoderMode (.kill (.address protocol ip port)) := by
      rw [kill_accepted]
      cases mode : c.encoderMode with
      | sanitize => exact Or.inl rfl
      | strict => exact Or.inr (dirty.2 mode)
    obtain ⟨w, form, -, sent⟩ := encode_accepted engine accepted dst
    obtain ⟨front, back, rfl⟩ := kill_line engine c.encoderMode protocol ip port form
    obtain ⟨bytes, same, wellFramed⟩ := framed _ (congrArg Prod.snd sent)
    rw [List.append_cancel_left_eq] at same
    subst same
    have line : wireBytes (.line (front ++ protocol.toText ++ back)) =
        lineBytes (front ++ protocol.toText ++ back) := by
      simp [wireBytes, firstLine, wireBody, trailer]
    rw [line] at wellFramed
    have clean := clean_of_wellFramed rfl wellFramed
    simp only [wireClean_append] at clean
    exact dirty.1 clean.1.2
  · intro condition out sent
    by_cases accepted : Accepted c.encoderMode cmd
    · obtain ⟨w, form, shaped, written⟩ := encode_accepted engine accepted dst
      rw [written] at sent
      cases sent
      refine ⟨wireBytes w, rfl, wellFramed_of_clean shaped ?_⟩
      refine wire_clean base64 c.encoderMode cmd ?_ w form
      unfold ungated
      split
      · rename_i protocol ip port
        rcases condition protocol ip port rfl with clean | ⟨strict, dirty⟩
        · exact clean
        · rw [kill_accepted, strict] at accepted
          simp [dirty] at accepted
      · exact wireClean_nil
    · obtain ⟨e, failed⟩ := encode_rejected engine accepted dst
      rw [sent] at failed
      cases failed

end Encoding

theorem no_injection_static_challenge :
    NoInjection Base64Text.encode OvpnCodec.new
      (.staticChallengeResponse ⟨lit "pass\nword"⟩ ⟨lit "123456"⟩) [] :=
  (no_injection_iff Base64Text.encode encode_isBase64 _ _ _).mpr (by rintro _ _ _ ⟨⟩)

/-- `kill` of a client over a protocol that carries a second command. -/
theorem kill_injects_signal :
    ¬ NoInjection Base64Text.encode OvpnCodec.new
      (.kill (.address (.unknown (lit "tcp\nsignal SIGTERM\n")) (lit "10.0.0.1") 1194)) [] := by
  intro framed
  obtain ⟨bytes, written, wellFramed⟩ :=
    framed (lineBytes (lit "kill tcp\nsignal SIGTERM\n:10.0.0.1:1194")) (by decide +kernel)
  rw [List.nil_append] at written
  subst written
  exact absurd wellFramed.counted (by decide +kernel)

/-! Failed commands and the queue -/

def FailureUntracked (engine : Bytes → Text) (c : OvpnCodec) (cmd : OvpnCommand) (dst : Bytes) :
    Prop :=
  ∀ after out e, c.encode engine cmd dst = (after, out, .error e) →
    after.expectedQueue = c.expectedQueue

theorem failureUntracked_iff (engine : Bytes → Text) (c : OvpnCodec) (cmd : OvpnCommand)
    (dst : Bytes) : FailureUntracked engine c cmd dst ↔ Accepted c.encoderMode cmd := by
  constructor
  · intro untracked
    by_contra rejected
    obtain ⟨e, failed⟩ := encode_rejected engine rejected dst
    have same : (c.encode engine cmd dst).1.expectedQueue = c.expectedQueue :=
      untracked _ _ e (Prod.ext rfl (Prod.ext rfl failed))
    rw [encode_codec] at same
    simp at same
  · intro accepted after out e failed
    obtain ⟨w, -, -, written⟩ := encode_accepted engine accepted dst
    rw [written] at failed
    cases failed

/-- A `kill` that fails, then `status`: the block of the answer meets the entry of the `kill`. -/
theorem failed_kill_shifts_status :
    ¬ FailureUntracked Base64Text.encode (OvpnCodec.new.withEncoderMode .strict)
        (.kill (.commonName (lit "client\n1"))) [] ∧
      (drain (((OvpnCodec.new.withEncoderMode .strict).encode Base64Text.encode
          (.kill (.commonName (lit "client\n1"))) []).1.encode Base64Text.encode (.status .v1) []).1
          (toUtf8 (lit "up\nEND\n"))).2.2 =
        [.ok (.unrecognized (lit "up") .unexpectedLine), .ok (.multiLine [])] ∧
      (drain ((OvpnCodec.new.withEncoderMode .strict).encode Base64Text.encode (.status .v1) []).1
          (toUtf8 (lit "up\nEND\n"))).2.2 = [.ok (.multiLine [lit "up"])] := by
  refine ⟨?_, by decide +kernel, by decide +kernel⟩
  intro untracked
  have same := untracked
    { OvpnCodec.new.withEncoderMode .strict with expectedQueue := [.successOrError] } []
    (.unsafeCharacters (lit "kill CN")) (by decide +kernel)
  exact absurd same (by decide +kernel)

end MgmtEncodeSafety
