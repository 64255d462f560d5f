import OpenvpnMgmt.Accounting
import OpenvpnMgmt.Lib.Results

/-!
Where the decoder can abort. The definitions of this module are those of `decode` once more, with
every operation that may panic as one that may fail: `split_to`, `advance`, a slice of a `str`,
`expect` and the debug assertion on the type of a challenge. Each of them agrees with its
counterpart but for the assertion, which fails on lines that are known (`Mislabelled`).
The spare capacity of the buffer is left out.
-/
namespace MgmtPanics
open TextOps Utf8Text LineFraming Results MgmtEncoder MgmtValues MgmtMessage MgmtFrame
  MgmtNotifications MgmtCodec MgmtDraining MgmtServerStream MgmtMatching MgmtBlocks MgmtCalls
  MgmtClientBlocks MgmtAccounting

inductive Panic where
  | splitTo
  | advance
  | slice
  | expect
  | assertion
  deriving DecidableEq, Repr

abbrev Checked (α : Type) := Except Panic α

def splitTo (src : Bytes) (count : Nat) : Checked (Bytes × Bytes) :=
  if count ≤ src.length then .ok (src.take count, src.drop count) else .error .splitTo

def advance (src : Bytes) (count : Nat) : Checked Bytes :=
  if count ≤ src.length then .ok (src.drop count) else .error .advance

/- `&t[start..]`, with the offset in bytes. -/
def sliceFrom : Text → Nat → Checked Text
  | t, 0 => .ok t
  | [], _ + 1 => .error .slice
  | c :: rest, start =>
    if c.utf8Size ≤ start then sliceFrom rest (start - c.utf8Size) else .error .slice

def expect {α : Type} : Option α → Checked α
  | some a => .ok a
  | none => .error .expect

def debugAssertEq (left right : Text) : Checked Unit :=
  if left = right then .ok () else .error .assertion

/-! The frame decoder -/

def takeFrameLineChecked (d : FrameDecoder) (line : Text) : Checked (Taken Frame) :=
  if line = [] ∧ d.clientNotification = none then .ok (d, some (.ok (.line line)))
  else match d.clientNotification, stripPrefix line (lit ">CLIENT:ENV,") with
    | some accum, some rest =>
      if rest = lit "END" then do
        -- `take().expect("guarded by if-let")`
        let finished ← expect d.clientNotification
        return ({ d with clientNotification := none },
          some (.ok (.clientEnv finished.event finished.args finished.env)))
      else .ok (d.takeEnv accum rest)
    | _, _ => .ok (d.classify line)

def takeFrameBytesChecked (d : FrameDecoder) (lineBytes : Bytes) : Checked (Taken Frame) :=
  match fromUtf8 lineBytes with
  | none => .ok ({ d with clientNotification := none }, some (.error .invalidData))
  | some text => takeFrameLineChecked d (trimLineEnd text)

def frameDecodeFuelChecked :
    Nat → FrameDecoder → Bytes → Checked (FrameDecoder × Bytes × Except IoError (Option Frame))
  | 0, d, src => .ok (d, src, .ok none)
  | fuel + 1, d, src =>
    match src.idxOf? newline with
    | none =>
      if toUtf8 pwPrompt <+: src then do
        let consume := (toUtf8 pwPrompt).length
        let consume := if src[consume]? = some carriageReturn then consume + 1 else consume
        let rest ← advance src consume
        return (d, rest, .ok (some .passwordPrompt))
      else .ok (d, src, .ok none)
    | some newlinePos => do
      let (lineBytes, rest) ← splitTo src (newlinePos + 1)
      match ← takeFrameBytesChecked d lineBytes with
      | (d, some (.ok frame)) => return (d, rest, .ok (some frame))
      | (d, some (.error e)) => return (d, rest, .error e)
      | (d, none) => frameDecodeFuelChecked fuel d rest

theorem takeFrameLineChecked_eq (d : FrameDecoder) (line : Text) :
    takeFrameLineChecked d line = .ok (d.takeLine line) := by
  rw [takeFrameLineChecked, FrameDecoder.takeLine]
  split
  · rfl
  · cases opened : d.clientNotification with
    | none => rfl
    | some accum =>
      cases stripPrefix line (lit ">CLIENT:ENV,") with
      | none => rfl
      | some rest =>
        simp only
        split
        · rename_i last
          rw [last, takeEnv_end]
          rfl
        · rfl

theorem takeFrameBytesChecked_eq (d : FrameDecoder) (lineBytes : Bytes) :
    takeFrameBytesChecked d lineBytes = .ok (d.takeBytes lineBytes) := by
  rw [takeFrameBytesChecked, FrameDecoder.takeBytes]
  cases fromUtf8 lineBytes with
  | none => rfl
  | some text => exact takeFrameLineChecked_eq d (trimLineEnd text)

theorem splitTo_fits {src : Bytes} {count : Nat} (fits : count ≤ src.length) :
    splitTo src count = .ok (src.take count, src.drop count) := if_pos fits

theorem advance_fits {src : Bytes} {count : Nat} (fits : count ≤ src.length) :
    advance src count = .ok (src.drop count) := if_pos fits

theorem advance_prompt (rest : Bytes) :
    let src := toUtf8 pwPrompt ++ rest
    advance src (if src[(toUtf8 pwPrompt).length]? = some carriageReturn
        then (toUtf8 pwPrompt).length + 1 else (toUtf8 pwPrompt).length) =
      .ok (if rest.head? = some carriageReturn then rest.tail else rest) := by
  intro src
  have next : src[(toUtf8 pwPrompt).length]? = rest.head? := by
    rw [List.getElem?_append_right (Nat.le_refl _), Nat.sub_self, List.head?_eq_getElem?]
  rw [next]
  split
  · rename_i return_
    have nonempty : rest ≠ [] := by
      intro empty
      rw [empty] at return_
      cases return_
    have longer := List.length_pos_iff.mpr nonempty
    rw [advance_fits (by simp [src]; omega), List.drop_append]
    simp
  · rw [advance_fits (by simp [src]), List.drop_left]

theorem frameDecodeFuelChecked_eq (fuel : Nat) (d : FrameDecoder) (src : Bytes) :
    frameDecodeFuelChecked fuel d src = .ok (d.decodeFuel fuel src) := by
  induction fuel generalizing d src with
  | zero => rfl
  | succ fuel ih =>
    rw [frameDecodeFuelChecked, FrameDecoder.decodeFuel, splitLine_idxOf]
    cases found : src.idxOf? newline with
    | none =>
      simp only [Option.map_none]
      split
      · rename_i prompt
        obtain ⟨rest, rfl⟩ := prompt
        have dropped : (toUtf8 pwPrompt ++ rest).dropPrefix? (toUtf8 pwPrompt) = some rest := by
          rw [List.dropPrefix?_eq_some_iff]
          exact ⟨toUtf8 pwPrompt, rfl, by simp⟩
        rw [advance_prompt, dropped]
        rfl
      · rename_i other
        cases dropped : src.dropPrefix? (toUtf8 pwPrompt) with
        | none => rfl
        | some rest =>
          obtain ⟨start, whole, same⟩ := List.dropPrefix?_eq_some_iff.mp dropped
          exact absurd ⟨rest, by rw [whole, eq_of_beq same]⟩ other
    | some newlinePos =>
      have inside : newlinePos < src.length := (List.idxOf?_eq_some_iff.mp found).1
      simp only [Option.map_some, splitTo_fits (show newlinePos + 1 ≤ src.length by omega),
        takeFrameBytesChecked_eq, ok_bind]
      rcases d.takeBytes (src.take (newlinePos + 1)) with ⟨after, _ | e | frame⟩
      · exact ih after (src.drop (newlinePos + 1))
      · rfl
      · rfl

/-! The codec -/

def parseVerificationFailedChecked (rest : Text) : Checked (Option PasswordNotification) :=
  match splitOnceText (lit "' ['CRV1:") rest with
  | some (authPart, _) => do
    debugAssertEq authPart (lit "Auth")
    return parseVerificationFailed rest
  | none => .ok (parseVerificationFailed rest)

def parsePasswordChecked (payload : Text) : Checked (Option Notification) :=
  match stripPrefix payload (lit "Auth-Token:"),
      stripPrefix payload (lit "Verification Failed: '") with
  | none, some rest => do return (← parseVerificationFailedChecked rest).map .password
  | _, _ => .ok (parsePassword payload)

def parseNotificationFromFrameChecked (kind payload : Text) : Checked OvpnMessage :=
  if kind = lit "PASSWORD" then do
    return .notification ((← parsePasswordChecked payload).getD (.simple kind payload))
  else .ok (parseNotificationFromFrame kind payload)

def takeLineChecked (c : OvpnCodec) (line : Text) : Checked Decoded :=
  if line = [] ∧ c.multiLineBuf = none ∧ c.expectedFront ≠ .multiLine then .ok (c, none)
  else if line.head? = some '>' then do
    let inner ← sliceFrom line 1
    if ':' ∉ inner then return (c, some (.ok (.unrecognized line .malformedNotification)))
    else return c.takeLine line
  else .ok (c.takeLine line)

def takeFrameChecked (c : OvpnCodec) : Frame → Checked Decoded
  | .notification kind payload => do
    return (c, some (.ok (← parseNotificationFromFrameChecked kind payload)))
  | .line line => takeLineChecked c line
  | frame => .ok (c.takeFrame frame)

def decodeFuelChecked :
    Nat → OvpnCodec → Bytes → Checked (OvpnCodec × Bytes × Except IoError (Option OvpnMessage))
  | 0, c, src => .ok (c, src, .ok none)
  | fuel + 1, c, src => do
    match ← frameDecodeFuelChecked (src.length + 1) c.frameDecoder src with
    | (d, rest, .ok none) =>
      let accumulating := c.frameDecoderAccumulating || decide (rest.length < src.length)
      return ({ c.withFrames d with frameDecoderAccumulating := accumulating }, rest, .ok none)
    | (d, rest, .error e) => return ((c.withFrames d).reset, rest, .error e)
    | (d, rest, .ok (some frame)) =>
      match ← takeFrameChecked (c.withFrames d) frame with
      | (c, some (.ok message)) => return (c, rest, .ok (some message))
      | (c, some (.error e)) => return (c, rest, .error e)
      | (c, none) => decodeFuelChecked fuel c rest

def decodeChecked (c : OvpnCodec) (src : Bytes) :
    Checked (OvpnCodec × Bytes × Except IoError (Option OvpnMessage)) :=
  decodeFuelChecked (src.length + 1) c src

/-! The assertion -/

def challengeAuth (payload : Text) : Option Text := do
  let rest ← stripPrefix payload (lit "Verification Failed: '")
  let (auth, _) ← splitOnceText (lit "' ['CRV1:") rest
  return auth

/- A challenge for another credential than `Auth`. -/
def Mislabelled (payload : Text) : Prop :=
  ∃ auth, challengeAuth payload = some auth ∧ auth ≠ lit "Auth"

def MislabelledLine (lineBytes : Bytes) : Prop :=
  ∃ payload, lineText lineBytes = some (noticeLine (lit "PASSWORD") payload) ∧ Mislabelled payload

def MislabelledFrame : Frame → Prop
  | .notification kind payload => kind = lit "PASSWORD" ∧ Mislabelled payload
  | _ => False

theorem parseVerificationFailedChecked_spec (rest : Text) :
    FailsWhen .assertion
      (∃ auth crv1, splitOnceText (lit "' ['CRV1:") rest = some (auth, crv1) ∧ auth ≠ lit "Auth")
      (parseVerificationFailedChecked rest) (parseVerificationFailed rest) := by
  rw [parseVerificationFailedChecked]
  cases splitOnceText (lit "' ['CRV1:") rest with
  | none => exact failsWhen_ok _ _ (by simp)
  | some pieces =>
    obtain ⟨auth, crv1⟩ := pieces
    simp only [debugAssertEq]
    split
    · rename_i same
      exact Or.inr ⟨by simp [same], rfl⟩
    · rename_i other
      exact Or.inl ⟨⟨auth, crv1, rfl, other⟩, rfl⟩

theorem parsePasswordChecked_spec (payload : Text) :
    FailsWhen .assertion (Mislabelled payload) (parsePasswordChecked payload)
      (parsePassword payload) := by
  cases failed : stripPrefix payload (lit "Verification Failed: '") with
  | none =>
    have fine : ¬ Mislabelled payload := by simp [Mislabelled, challengeAuth, failed]
    rw [parsePasswordChecked, failed]
    cases stripPrefix payload (lit "Auth-Token:") <;> exact failsWhen_ok _ _ fine
  | some rest =>
    have first : stripPrefix payload (lit "Auth-Token:") = none := by
      apply stripPrefix_lit_head (c := 'A') (by simp)
      rw [stripPrefix_eq_some.mp failed]
      simp [lit_eq]
    have same : (∃ auth crv1, splitOnceText (lit "' ['CRV1:") rest = some (auth, crv1) ∧
        auth ≠ lit "Auth") ↔ Mislabelled payload := by
      simp only [Mislabelled, challengeAuth, failed, Option.bind_eq_bind, Option.bind_some,
        Option.bind_eq_some_iff, Option.pure_def, Option.some.injEq]
      constructor
      · intro found
        obtain ⟨auth, crv1, split, other⟩ := found
        exact ⟨auth, ⟨(auth, crv1), split, rfl⟩, other⟩
      · intro found
        obtain ⟨auth, ⟨⟨front, crv1⟩, split, named⟩, other⟩ := found
        simp only at named
        exact ⟨auth, crv1, named ▸ split, other⟩
    rw [parsePasswordChecked, parsePassword, first, failed]
    have outcome := parseVerificationFailedChecked_spec rest
    exact (outcome.map (Option.map Notification.password)).congr same

theorem parseNotificationFromFrameChecked_spec (kind payload : Text) :
    FailsWhen .assertion (MislabelledFrame (.notification kind payload))
      (parseNotificationFromFrameChecked kind payload)
      (parseNotificationFromFrame kind payload) := by
  rw [parseNotificationFromFrameChecked]
  split
  · rename_i password
    have typed : parseNotificationFromFrame kind payload =
        .notification ((parsePassword payload).getD (.simple kind payload)) := by
      rw [password]
      simp [parseNotificationFromFrame, parseTyped]
    rw [typed]
    have outcome := (parsePasswordChecked_spec payload).map fun typed =>
      OvpnMessage.notification (typed.getD (Notification.simple kind payload))
    exact outcome.congr (by simp [MislabelledFrame, password])
  · rename_i other
    exact failsWhen_ok _ _ fun bad => other bad.1

theorem takeLineChecked_eq (c : OvpnCodec) (line : Text) :
    takeLineChecked c line = .ok (c.takeLine line) := by
  rw [takeLineChecked]
  split
  · rename_i blank
    rw [OvpnCodec.takeLine, if_pos blank]
  · rename_i nonempty
    split
    · rename_i first
      have inner : sliceFrom line 1 = .ok line.tail := by
        cases line with
        | nil => cases first
        | cons x rest =>
          obtain rfl : x = '>' := by simpa using first
          have one : ('>' : Char).utf8Size = 1 := by decide
          simp [sliceFrom, one]
      rw [inner, ok_bind]
      split
      · rename_i bare
        rw [OvpnCodec.takeLine, if_neg nonempty, if_pos ⟨first, bare⟩]
        rfl
      · rfl
    · rfl

theorem takeFrameChecked_spec (c : OvpnCodec) (frame : Frame) :
    FailsWhen .assertion (MislabelledFrame frame) (takeFrameChecked c frame)
      (c.takeFrame frame) := by
  cases frame with
  | notification kind payload =>
    exact (parseNotificationFromFrameChecked_spec kind payload).map fun message =>
      ((c, some (Except.ok message)) : Decoded)
  | line line =>
    rw [takeFrameChecked, takeLineChecked_eq]
    exact failsWhen_ok _ _ id
  | _ => exact failsWhen_ok _ _ id

/-! The lines that a call takes -/

theorem mislabelled_frame {d after : FrameDecoder} {lineBytes : Bytes}
    {out : Option (Except IoError Frame)} (taken : d.takeBytes lineBytes = (after, out)) :
    MislabelledLine lineBytes ↔ ∃ frame, out = some (.ok frame) ∧ MislabelledFrame frame := by
  constructor
  · intro line
    obtain ⟨payload, text, bad⟩ := line
    have password : ':' ∉ lit "PASSWORD" := by simp [lit_eq]
    have handed := takeLine_takeNotice d password payload (Or.inr (by simp))
    rw [← takeBytes_lineText d text, taken, FrameDecoder.takeNotice, if_neg (by simp),
      if_neg (by simp)] at handed
    cases handed
    exact ⟨_, rfl, rfl, bad⟩
  · intro handed
    obtain ⟨frame, rfl, bad⟩ := handed
    cases frame with
    | notification kind payload =>
      obtain ⟨password, bad⟩ := bad
      cases text : lineText lineBytes with
      | none =>
        rw [takeBytes_unreadable d text] at taken
        cases taken
      | some line =>
        rw [takeBytes_lineText d text] at taken
        have shape := takeLine_notification taken
        rw [password] at shape
        exact ⟨payload, by rw [text, shape], bad⟩
    | _ => cases bad

def TakesMislabelled (c : OvpnCodec) (src : Bytes) : Prop :=
  ∃ t ∈ taken c src, MislabelledLine t.2

theorem takesMislabelled_line (c : OvpnCodec) {body : Bytes} (clean : newline ∉ body)
    (rest : Bytes) :
    TakesMislabelled c (body ++ newline :: rest) ↔
      MislabelledLine (body ++ [newline]) ∨
        (c.takeBytes (body ++ [newline])).2 = none ∧
          TakesMislabelled (c.takeBytes (body ++ [newline])).1 rest := by
  rw [TakesMislabelled, taken_line c clean]
  rcases c.takeBytes (body ++ [newline]) with ⟨after, _ | out⟩
  · simp [TakesMislabelled]
  · simp

theorem takesMislabelled_round (c : OvpnCodec) (src : Bytes) :
    TakesMislabelled c src ↔
      match c.frameDecoder.decode src with
      | (d, rest, .ok (some frame)) =>
        MislabelledFrame frame ∨
          ((c.withFrames d).takeFrame frame).2 = none ∧
            TakesMislabelled ((c.withFrames d).takeFrame frame).1 rest
      | _ => False := by
  -- By lines: the frame decoder's own loop may run over several of them in one round.
  induction h : src.length using Nat.strongRecOn generalizing c src with
  | ind n ih =>
    rcases open_or_line newline src with unfinished | ⟨body, rest, clean, rfl⟩
    · have sound : ¬ TakesMislabelled c src := by simp [TakesMislabelled, taken_open c unfinished]
      rcases frameDecode_open_cases c.frameDecoder unfinished with ⟨tail, rfl⟩ | same
      · rw [frameDecode_prompt _ unfinished]
        simpa [MislabelledFrame, OvpnCodec.takeFrame] using sound
      · rw [same]
        exact iff_of_false sound id
    · simp only [List.length_append, List.length_cons] at h
      rw [takesMislabelled_line c clean, frameDecode_line _ clean, OvpnCodec.takeBytes]
      rcases line : c.frameDecoder.takeBytes (body ++ [newline]) with ⟨d, _ | e | frame⟩
      · have fine : ¬ MislabelledLine (body ++ [newline]) := by simp [mislabelled_frame line]
        have carried : ∀ next, (c.withFrames d).withFrames next = c.withFrames next := fun _ => rfl
        have later := ih rest.length (by omega) (c.withFrames d) rest rfl
        simp only [carried] at later
        simp only [fine, false_or, true_and, later]
        rfl
      · simp [mislabelled_frame line]
      · simp [mislabelled_frame line]

theorem decodeFuelChecked_spec {fuel : Nat} (c : OvpnCodec) {src : Bytes}
    (enough : src.length < fuel) :
    FailsWhen .assertion (TakesMislabelled c src) (decodeFuelChecked fuel c src)
      (c.decodeFuel fuel src) := by
  induction fuel generalizing c src with
  | zero => omega
  | succ fuel ih =>
    have round := takesMislabelled_round c src
    rw [decodeFuelChecked, OvpnCodec.decodeFuel, frameDecodeFuelChecked_eq, ok_bind]
    rw [FrameDecoder.decode] at round ⊢
    rcases step : c.frameDecoder.decodeFuel (src.length + 1) src with ⟨d, rest, e | _ | frame⟩
    · rw [step] at round
      exact failsWhen_ok _ _ round.mp
    · rw [step] at round
      exact failsWhen_ok _ _ round.mp
    · have shorter := frameDecode_shrinks step (by simp)
      rw [step] at round
      refine FailsWhen.congr ?_ round.symm
      -- The frame itself panics, or the loop goes on with the shorter rest.
      simp only
      refine (takeFrameChecked_spec (c.withFrames d) frame).bind fun _ => ?_
      rcases (c.withFrames d).takeFrame frame with ⟨after, _ | e | message⟩
      · have later := ih after (show rest.length < fuel by omega)
        exact later.congr (by simp)
      · apply failsWhen_ok
        simp
      · apply failsWhen_ok
        simp

theorem decodeChecked_spec (c : OvpnCodec) (src : Bytes) :
    FailsWhen .assertion (TakesMislabelled c src) (decodeChecked c src) (c.decode src) :=
  decodeFuelChecked_spec c (Nat.lt_succ_self _)

/-! Buffers -/

theorem call_lines {c after : OvpnCodec} {src rest : Bytes}
    {out : Except IoError (Option OvpnMessage)} (call : Call c src after rest out) :
    (cut newline src).1 = (taken c src).map Prod.snd ++ (cut newline rest).1 := by
  induction call with
  | quiet unfinished => rw [taken_open _ unfinished, List.map_nil, List.nil_append]
  | @prompt c rest unfinished =>
    have open_ : newline ∉ (if rest.head? = some carriageReturn then rest.tail else rest) := by
      have left : newline ∉ rest := fun member => unfinished (List.mem_append_right _ member)
      split
      · exact fun member => left (List.mem_of_mem_tail member)
      · exact left
    rw [taken_open _ unfinished, cut_open unfinished, cut_open open_]
    rfl
  | @result c after body rest out clean line =>
    rw [taken_line c clean, cut_line clean, line]
    rfl
  | @silent c after last body rest left out clean line more ih =>
    rw [taken_line c clean, cut_line clean, line, ih]
    rfl

def drainFuelChecked : Nat → OvpnCodec → Bytes → Checked (OvpnCodec × Bytes × List Event)
  | 0, c, src => .ok (c, src, [])
  | fuel + 1, c, src => do
    match ← decodeChecked c src with
    | (c, rest, .ok none) => return (c, rest, [])
    | (c, rest, .ok (some message)) => return report [.ok message] (← drainFuelChecked fuel c rest)
    | (c, rest, .error e) => return report [.error e] (← drainFuelChecked fuel c rest)

def drainChecked (c : OvpnCodec) (src : Bytes) : Checked (OvpnCodec × Bytes × List Event) :=
  drainFuelChecked (src.length + 1) c src

theorem drainFuelChecked_spec {fuel : Nat} (c : OvpnCodec) {src : Bytes}
    (enough : src.length < fuel) :
    FailsWhen .assertion (∃ line ∈ (cut newline src).1, MislabelledLine line)
      (drainFuelChecked fuel c src) (drainFuel fuel c src) := by
  induction fuel generalizing c src with
  | zero => omega
  | succ fuel ih =>
    have lines := call_lines (decode_call c src)
    have split : (∃ line ∈ (cut newline src).1, MislabelledLine line) ↔
        TakesMislabelled c src ∨
          ∃ line ∈ (cut newline (c.decode src).2.1).1, MislabelledLine line := by
      rw [lines]
      simp only [TakesMislabelled, List.mem_append, List.mem_map, or_and_right, exists_or,
        exists_exists_and_eq_and]
    refine FailsWhen.congr ?_ split.symm
    rw [drainFuelChecked, drainFuel]
    refine (decodeChecked_spec c src).bind fun _ => ?_
    rcases step : c.decode src with ⟨after, rest, e | _ | message⟩
    · have shorter := decode_shrinks step (by simp)
      exact (ih after (show rest.length < fuel by omega)).map (report [.error e])
    · have quiet : newline ∉ rest := by
        have normal : decoded c src = (forget after, rest, .ok none) := by rw [decoded, step]
        exact (decoded_quiet normal).1
      apply failsWhen_ok
      simp [cut_open quiet]
    · have shorter := decode_shrinks step (by simp)
      exact (ih after (show rest.length < fuel by omega)).map (report [.ok message])

/-- A buffer is drained without a panic exactly when none of its whole lines is mislabelled,
    whatever the state of the codec. -/
theorem drain_returns_iff (c : OvpnCodec) (src : Bytes) :
    drainChecked c src = .ok (drain c src) ↔
      ∀ line ∈ (cut newline src).1, ¬ MislabelledLine line := by
  have outcome := drainFuelChecked_spec c (Nat.lt_succ_self src.length)
  refine outcome.outcomes.1.trans ?_
  simp

/-! Runs -/

section Running
variable (engine : Bytes → Text)

def stepChecked (e : Endpoint) : Step → Checked (Endpoint × List Event)
  | .poll => do
    let (codec, rest, out) ← decodeChecked e.codec e.buffer
    return (⟨codec, rest, e.sent⟩, events out)
  | other => .ok (step engine e other)

def runChecked : Endpoint → List Step → Checked (Endpoint × List Event)
  | e, [] => .ok (e, [])
  | e, s :: more => do
    let (next, out) ← stepChecked engine e s
    let (last, later) ← runChecked next more
    return (last, out ++ later)

theorem stepChecked_spec (e : Endpoint) (s : Step) :
    FailsWhen .assertion (s = .poll ∧ TakesMislabelled e.codec e.buffer) (stepChecked engine e s)
      (step engine e s) := by
  cases s with
  | encode cmd => exact failsWhen_ok _ _ (by simp)
  | receive chunk => exact failsWhen_ok _ _ (by simp)
  | poll =>
    have outcome := (decodeChecked_spec e.codec e.buffer).map fun r =>
      ((⟨r.1, r.2.1, e.sent⟩, events r.2.2) : Endpoint × List Event)
    exact outcome.congr (by simp)

theorem runChecked_spec (e : Endpoint) (steps : List Step) :
    FailsWhen .assertion (∃ line ∈ linesTaken engine e steps, MislabelledLine line)
      (runChecked engine e steps) (run engine e steps) := by
  induction steps generalizing e with
  | nil => exact failsWhen_ok _ _ (by simp [linesTaken])
  | cons s more ih =>
    have lines : (∃ line ∈ linesTaken engine e (s :: more), MislabelledLine line) ↔
        (s = .poll ∧ TakesMislabelled e.codec e.buffer) ∨
          ∃ line ∈ linesTaken engine (step engine e s).1 more, MislabelledLine line := by
      cases s with
      | encode cmd => simp [linesTaken]
      | receive chunk => simp [linesTaken]
      | poll =>
        simp only [linesTaken, TakesMislabelled, List.mem_append, List.mem_map, or_and_right,
          exists_or, exists_exists_and_eq_and, true_and]
    refine FailsWhen.congr ?_ lines.symm
    refine (stepChecked_spec engine e s).bind fun _ => ?_
    exact (ih (step engine e s).1).map fun later =>
      ((later.1, (step engine e s).2 ++ later.2) : Endpoint × List Event)

end Running

/-- From any codec state and any buffer, the calls of `decode` in a run all return exactly when no
    line they take is a challenge for another credential than `Auth`; nothing but the assertion ever
    fails, and what the calls return is what the decoder without checks returns. -/
theorem decode_returns_iff (engine : Bytes → Text) (e : Endpoint) (steps : List Step) :
    ((∃ after, runChecked engine e steps = .ok after) ↔
      ∀ line ∈ linesTaken engine e steps, ¬ MislabelledLine line) ∧
    (∀ after, runChecked engine e steps = .ok after → after = run engine e steps) ∧
    ∀ panic, runChecked engine e steps = .error panic → panic = .assertion := by
  have free : (∀ line ∈ linesTaken engine e steps, ¬ MislabelledLine line) ↔
      ¬ ∃ line ∈ linesTaken engine e steps, MislabelledLine line := by simp
  rw [free]
  rcases runChecked_spec engine e steps with ⟨bad, same⟩ | ⟨fine, same⟩
  · rw [same]
    exact ⟨iff_of_false nofun (not_not_intro bad), nofun, fun panic failed => by cases failed; rfl⟩
  · rw [same]
    exact ⟨iff_of_true ⟨_, rfl⟩ fine, fun after returned => by cases returned; rfl, nofun⟩

/-- The CRV1 text behind a credential that is not `Auth`: the first call panics. -/
theorem decode_panics :
    decodeChecked OvpnCodec.new
        (wire [lit ">PASSWORD:Verification Failed: 'Private Key' ['CRV1:R:a:b:c']"]) =
      .error .assertion := by
  decide +kernel

end MgmtPanics
