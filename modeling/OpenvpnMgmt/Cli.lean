import OpenvpnMgmt.App
import OpenvpnMgmt.Connections

/-!
The command line client: one loop that waits for the socket and for a typed line, whichever comes
first. Printed are the messages, one after the other; sent are the commands that the typed lines
stand for. The texts of errors are parameters. Connecting is left out.
-/
namespace MgmtCli
open TextOps Utf8Text MgmtEncoder MgmtValues MgmtCommand MgmtMessage MgmtFrame MgmtCodec
  MgmtDraining MgmtTimestamp MgmtConnections
open MgmtMatching (Endpoint Step commands)
open MgmtActor (decode_sanitize)

/-! Printing -/

inductive Printed where
  | stdout (line : Text)
  | stderr (line : Text)
  /-- `ovpn> `, without an end of line. -/
  | prompt
  deriving DecidableEq, Repr

def boolText (b : Bool) : Text := if b then lit "true" else lit "false"

def printPassword : PasswordNotification → Printed
  | .needAuth authType =>
    .stdout (lit "[PASSWORD] Need '" ++ authType.toText ++ lit "' username/password")
  | .needPassword authType =>
    .stdout (lit "[PASSWORD] Need '" ++ authType.toText ++ lit "' password")
  | .verificationFailed authType =>
    .stderr (lit "[PASSWORD] Verification failed: '" ++ authType.toText ++ lit "'")
  | .staticChallenge echo _ challenge =>
    .stdout (lit "[PASSWORD] Static challenge (echo=" ++ boolText echo ++ lit "): " ++ challenge)
  | .dynamicChallenge _ stateId _ challenge =>
    .stdout (lit "[PASSWORD] Dynamic challenge (state=" ++ stateId ++ lit "): " ++ challenge)
  | .authToken _ => .stdout (lit "[PASSWORD] Auth-Token: <redacted>")

def printNotification : Notification → Option (List Printed)
  | .state entry => do
    let time ← formatUtc entry.timestamp.seconds
    return [.stdout (lit "[STATE] " ++ entry.name.toText ++ lit " — " ++ entry.description ++
      lit " (local=" ++ entry.localIp ++ lit ", remote=" ++ entry.remoteIp ++ lit ", " ++ time ++
      lit ")")]
  | .byteCount bytesIn bytesOut =>
    some [.stdout (lit "[BYTECOUNT] in=" ++ display bytesIn ++ lit " out=" ++ display bytesOut)]
  | .byteCountCli cid bytesIn bytesOut =>
    some [.stdout (lit "[BYTECOUNT_CLI] cid=" ++ display cid ++ lit " in=" ++ display bytesIn ++
      lit " out=" ++ display bytesOut)]
  | .log timestamp level message => do
    let time ← formatUtc timestamp.seconds
    return [.stdout (lit "[LOG " ++ level.toText ++ lit "] " ++ message ++ lit " (" ++ time ++
      lit ")")]
  | .echo timestamp param => do
    let time ← formatUtc timestamp.seconds
    return [.stdout (lit "[ECHO] " ++ param ++ lit " (" ++ time ++ lit ")")]
  | .hold text => some [.stdout (lit "[HOLD] " ++ text)]
  | .fatal message => some [.stderr (lit "[FATAL] " ++ message)]
  | .client event cid kid env =>
    let kidText := kid.elim [] fun kid => lit " kid=" ++ display kid
    some (.stdout (lit "[CLIENT:" ++ event.toText ++ lit "] cid=" ++ display cid ++ kidText) ::
      env.toList.map fun entry => .stdout (lit "  " ++ entry.1 ++ '=' :: entry.2))
  | .clientAddress cid addr primary =>
    some [.stdout (lit "[CLIENT:ADDRESS] cid=" ++ display cid ++ lit " addr=" ++ addr ++
      lit " primary=" ++ boolText primary)]
  | .password sub => some [printPassword sub]
  | .needOk name message => some [.stdout (lit "[NEED-OK] '" ++ name ++ lit "': " ++ message)]
  | .needStr name message => some [.stdout (lit "[NEED-STR] '" ++ name ++ lit "': " ++ message)]
  | .remote host port protocol =>
    some [.stdout (lit "[REMOTE] " ++ host ++ ':' :: display port ++ lit " (" ++ protocol.toText ++
      lit ")")]
  | .proxy index proxyType host =>
    some [.stdout (lit "[PROXY] #" ++ display index ++ ' ' :: proxyType.toText ++ ' ' :: host)]
  | .rsaSign data => some [.stdout (lit "[RSA_SIGN] " ++ data)]
  | .pkSign data (some algorithm) =>
    some [.stdout (lit "[PK_SIGN] algo=" ++ algorithm ++ ' ' :: data)]
  | .pkSign data none => some [.stdout (lit "[PK_SIGN] " ++ data)]
  | .info message => some [.stdout (lit "[INFO] " ++ message)]
  | .infoMsg extra => some [.stdout (lit "[INFOMSG] " ++ extra)]
  | .needCertificate hint => some [.stdout (lit "[NEED-CERTIFICATE] " ++ hint)]
  | .pkcs11IdCount count => some [.stdout (lit "[PKCS11ID-COUNT] " ++ display count)]
  | .simple kind payload => some [.stdout ('[' :: kind ++ lit "] " ++ payload)]

def printMessage : OvpnMessage → Option (List Printed)
  | .success text => some [.stdout (lit "SUCCESS: " ++ text)]
  | .error text => some [.stderr (lit "ERROR: " ++ text)]
  | .multiLine lines => some (lines.map fun line => .stdout (lit "  " ++ line))
  | .info payload => some [.stdout (lit "[INFO] " ++ payload)]
  | .passwordPrompt =>
    some [.stdout
      (lit "[MGMT] Management password required (type the password and press enter)")]
  | .notification n => printNotification n
  | .pkcs11IdEntry index id blob =>
    some [.stdout (lit "[PKCS11] index=" ++ index ++ lit " id=" ++ id ++ lit " blob=" ++ blob)]
  | .unrecognized line kind =>
    some [.stderr
      (lit "[UNRECOGNIZED (" ++ MgmtApp.UnrecognizedKind.toDebug kind ++ lit ")] " ++ line)]

/-! The loop -/

/-- What the loop writes to the socket and to the terminal. -/
inductive Shown where
  | write (bytes : Bytes)
  | message (msg : OvpnMessage)
  | notice (line : Printed)

inductive Turn where
  /-- Bytes arrive. -/
  | receive (chunk : Bytes)
  /-- The stream is asked for a message. -/
  | poll
  /-- The stream ends, by an error or without. -/
  | ended (error : Option Text)
  /-- A line is typed; sending may fail. -/
  | typed (line : Text) (failed : Option Text)
  | eof
  | stdinFailed

structure Cli where
  codec : OvpnCodec
  buffer : Bytes
  connected : Bool
  finished : Bool

def Cli.new : Cli := ⟨.new, [], true, false⟩

def disconnected : Printed := .stdout (lit "[DISCONNECTED]")

def notConnected : Printed := .stderr (lit "not connected")

/- The head of the loop: the prompt, while there is a connection. -/
def Cli.again (c : Cli) (out : List Shown) : Cli × List Shown :=
  (c, if c.connected then out ++ [.notice .prompt] else out)

def Cli.leave (c : Cli) (out : List Shown) : Cli × List Shown := ({ c with finished := true }, out)

def isExit : OvpnCommand → Bool
  | .exit => true
  | .quit => true
  | _ => false

section Loop
variable (engine : Bytes → Text) (explain : IoError → Text) (describe : CommandParseError → Text)

def connError (error : Text) : Printed := .stderr (lit "[CONN ERROR] " ++ error)

def sendError (error : Text) : Printed := .stderr (lit "[SEND ERROR] " ++ error)

def parseError (e : CommandParseError) : Printed := .stderr (lit "parse error: " ++ describe e)

def Cli.poll (c : Cli) : Cli × List Shown :=
  match c.codec.decode c.buffer with
  | (codec, buffer, .ok none) => ({ c with codec, buffer }, [])
  | (codec, buffer, .ok (some msg)) => { c with codec, buffer }.again [.message msg]
  | (codec, buffer, .error e) =>
    { c with codec, buffer, connected := false }.again [.notice (connError (explain e))]

def Cli.ended (c : Cli) : Option Text → Cli × List Shown
  | none => c.leave [.notice disconnected]
  | some error => { c with connected := false }.again [.notice (connError error)]

/- The encoder of the client never fails; whether the socket does is left open. -/
def Cli.send (c : Cli) (cmd : OvpnCommand) (failed : Option Text) : Cli × List Shown :=
  let (codec, bytes, _) := c.codec.encode engine cmd []
  match failed with
  | some error => c.leave [.notice (sendError error)]
  | none =>
    if isExit cmd then { c with codec }.leave [.write bytes]
    else { c with codec }.again [.write bytes]

def Cli.typed (c : Cli) (line : Text) (failed : Option Text) : Cli × List Shown :=
  let line := trim line
  if line = [] then c.again []
  else if c.connected then
    match OvpnCommand.fromStr line with
    | .ok cmd => c.send engine cmd failed
    | .error e => c.again [.notice (parseError describe e)]
  else c.leave [.notice notConnected]

def Cli.step (c : Cli) (turn : Turn) : Cli × List Shown :=
  if c.finished then (c, [])
  else match turn with
    | .receive chunk => ({ c with buffer := c.buffer ++ chunk }, [])
    | .poll => if c.connected then c.poll explain else (c, [])
    | .ended error => if c.connected then c.ended error else (c, [])
    | .typed line failed => c.typed engine describe line failed
    | .eof => c.leave []
    | .stdinFailed => c.leave []

def Cli.run (c : Cli) : List Turn → Cli × List Shown
  | [] => (c, [])
  | turn :: more =>
    let (next, out) := c.step engine explain describe turn
    let (last, rest) := next.run more
    (last, out ++ rest)

def Cli.main (turns : List Turn) : Cli × List Shown :=
  let (c, first) := Cli.new.again []
  let (last, rest) := c.run engine explain describe turns
  (last, first ++ rest)

end Loop

/-! What is sent and what is printed -/

def written : List Shown → List Bytes
  | [] => []
  | .write bytes :: more => bytes :: written more
  | _ :: more => written more

def messages : List Shown → List OvpnMessage
  | [] => []
  | .message msg :: more => msg :: messages more
  | _ :: more => messages more

def terminal : List Shown → Option (List Printed)
  | [] => some []
  | .write _ :: more => terminal more
  | .message msg :: more => do return (← printMessage msg) ++ (← terminal more)
  | .notice line :: more => do return line :: (← terminal more)

theorem written_append (a b : List Shown) : written (a ++ b) = written a ++ written b := by
  induction a with
  | nil => rfl
  | cons shown more ih => cases shown <;> simp [written, ih]

theorem messages_append (a b : List Shown) : messages (a ++ b) = messages a ++ messages b := by
  induction a with
  | nil => rfl
  | cons shown more ih => cases shown <;> simp [messages, ih]

theorem terminal_append {a b : List Shown} {front back : List Printed}
    (first : terminal a = some front) (second : terminal b = some back) :
    terminal (a ++ b) = some (front ++ back) := by
  induction a generalizing front with
  | nil =>
    cases first
    exact second
  | cons shown more ih =>
    cases shown with
    | write bytes => exact ih first
    | message msg =>
      simp only [terminal, bind, Option.bind_eq_some_iff] at first
      obtain ⟨lines, printed, rest, same, whole⟩ := first
      cases whole
      simp [terminal, printed, ih same]
    | notice line =>
      simp only [terminal, bind, Option.bind_eq_some_iff] at first
      obtain ⟨rest, same, whole⟩ := first
      cases whole
      simp [terminal, ih same]

def typedCommand (line : Text) : Option OvpnCommand :=
  if trim line = [] then none else (OvpnCommand.fromStr (trim line)).toOption

/- What a turn gives the endpoint behind the connection. -/
def stepsOf : Turn → List Step
  | .receive chunk => [.receive chunk]
  | .poll => [.poll]
  | .typed line none => (typedCommand line).toList.map .encode
  | _ => []

inductive Outlook where
  | goesOn
  | cut
  | left
  deriving DecidableEq

def outlook (e : Endpoint) : Turn → Outlook
  | .receive _ => .goesOn
  | .poll =>
    match (e.codec.decode e.buffer).2.2 with
    | .ok _ => .goesOn
    | .error _ => .cut
  | .ended none => .left
  | .ended (some _) => .cut
  | .typed line failed =>
    if (typedCommand line).any fun cmd => failed.isSome || isExit cmd then .left else .goesOn
  | .eof => .left
  | .stdinFailed => .left

def textOf (msg : OvpnMessage) : List Printed := (printMessage msg).getD []

/- Behind a cut the first line with a text is the end. -/
def farewell : List Turn → List Printed
  | [] => []
  | .typed line _ :: more => if trim line = [] then farewell more else [notConnected]
  | .eof :: _ => []
  | .stdinFailed :: _ => []
  | _ :: more => farewell more

section Loop
variable (engine : Bytes → Text) (explain : IoError → Text) (describe : CommandParseError → Text)

def behind (e : Endpoint) (turn : Turn) : Endpoint := (MgmtMatching.run engine e (stepsOf turn)).1

/- The turns up to the one that ends the connection. -/
def heard (e : Endpoint) : List Turn → List Turn
  | [] => []
  | turn :: more =>
    turn :: if outlook e turn = .goesOn then heard (behind engine e turn) more else []

def ending (e : Endpoint) : List Turn → Outlook
  | [] => .goesOn
  | turn :: more =>
    if outlook e turn = .goesOn then ending (behind engine e turn) more else outlook e turn

def unheard (e : Endpoint) (turns : List Turn) : List Turn :=
  turns.drop (heard engine e turns).length

def answerTo (line : Text) (failed : Option Text) : List Printed :=
  if trim line = [] then [.prompt]
  else match OvpnCommand.fromStr (trim line), failed with
    | .error e, _ => [parseError describe e, .prompt]
    | .ok _, some error => [sendError error]
    | .ok cmd, none => if isExit cmd then [] else [.prompt]

def printedAt (e : Endpoint) : Turn → List Printed
  | .poll =>
    match (e.codec.decode e.buffer).2.2 with
    | .ok none => []
    | .ok (some msg) => textOf msg ++ [.prompt]
    | .error error => [connError (explain error)]
  | .ended none => [disconnected]
  | .ended (some error) => [connError error]
  | .typed line failed => answerTo describe line failed
  | _ => []

def transcript (e : Endpoint) : List Turn → List Printed
  | [] => []
  | turn :: more => printedAt explain describe e turn ++ transcript (behind engine e turn) more

/-- What comes of the turns: the endpoint is given what arrives and what is typed until the
    connection ends, and the socket and the terminal show exactly what it makes of that. -/
structure Exact (e : Endpoint) (turns : List Turn) (out : List Shown) : Prop where
  front : heard engine e turns <+: turns
  whole : ending engine e turns = .goesOn → heard engine e turns = turns
  written : written out =
    (commands ((heard engine e turns).flatMap stepsOf)).map (wireOf engine)
  exitLast : ∀ cmd ∈ (commands ((heard engine e turns).flatMap stepsOf)).dropLast,
    isExit cmd = false
  messages : messages out = (MgmtMatching.run engine e
    ((heard engine e turns).flatMap stepsOf)).2.filterMap Except.toOption
  terminal : terminal out = some (transcript engine explain describe e (heard engine e turns) ++
    if ending engine e turns = .cut then farewell (unheard engine e turns) else [])

end Loop

/-! Printing does not fail -/

theorem printNotification_ok (n : Notification) : ∃ lines, printNotification n = some lines := by
  have times (ts : U64) : ∃ text, formatUtc ts = some text := formatWith_ok 'T' ['Z'] ts
  cases n with
  | state entry =>
    obtain ⟨time, formatted⟩ := times entry.timestamp.seconds
    simp [printNotification, formatted]
  | log timestamp level message =>
    obtain ⟨time, formatted⟩ := times timestamp.seconds
    simp [printNotification, formatted]
  | echo timestamp param =>
    obtain ⟨time, formatted⟩ := times timestamp.seconds
    simp [printNotification, formatted]
  | pkSign data algorithm => cases algorithm <;> exact ⟨_, rfl⟩
  | _ => exact ⟨_, rfl⟩

theorem printMessage_ok (msg : OvpnMessage) : printMessage msg = some (textOf msg) := by
  have printed : ∃ lines, printMessage msg = some lines := by
    cases msg with
    | notification n => exact printNotification_ok n
    | _ => exact ⟨_, rfl⟩
  obtain ⟨lines, printed⟩ := printed
  rw [textOf, printed]
  rfl

theorem terminal_message (msg : OvpnMessage) : terminal [.message msg] = some (textOf msg) := by
  simp [terminal, printMessage_ok]

/-! One turn -/

structure Follows (c : Cli) (e : Endpoint) : Prop where
  codec : c.codec = e.codec
  buffer : c.buffer = e.buffer
  sanitize : e.codec.encoderMode = .sanitize
  connected : c.connected = true
  running : c.finished = false

def Lands (c : Cli) (e : Endpoint) : Outlook → Prop
  | .goesOn => Follows c e
  | .cut => c.connected = false ∧ c.finished = false
  | .left => c.finished = true

section Loop
variable {engine : Bytes → Text} {explain : IoError → Text} {describe : CommandParseError → Text}

structure Does (engine : Bytes → Text) (explain : IoError → Text)
    (describe : CommandParseError → Text) (e : Endpoint) (turn : Turn) (r : Cli × List Shown) :
    Prop where
  written : written r.2 = (commands (stepsOf turn)).map (wireOf engine)
  messages : messages r.2 =
    (MgmtMatching.run engine e (stepsOf turn)).2.filterMap Except.toOption
  terminal : terminal r.2 = some (printedAt explain describe e turn)
  lands : Lands r.1 (behind engine e turn) (outlook e turn)

theorem again_eq {c : Cli} (connected : c.connected = true) (out : List Shown) :
    c.again out = (c, out ++ [.notice .prompt]) := by
  rw [Cli.again, if_pos connected]

theorem poll_does {c : Cli} {e : Endpoint} (follows : Follows c e) :
    Does engine explain describe e .poll (c.poll explain) := by
  have sanitize := decode_sanitize follows.sanitize e.buffer
  rcases decoded : e.codec.decode e.buffer with ⟨codec, buffer, error | _ | msg⟩
  all_goals
    rw [decoded] at sanitize
    simp only [Cli.poll, follows.codec, follows.buffer, decoded]
  · refine ⟨rfl, ?_, ?_, ?_⟩
    · simp [stepsOf, MgmtMatching.run, MgmtMatching.step, decoded, events, Cli.again, messages,
        Except.toOption]
    · simp [Cli.again, terminal, printedAt, decoded]
    · simp [outlook, decoded, Lands, Cli.again, follows.running]
  · refine ⟨rfl, ?_, ?_, ?_⟩
    · simp [stepsOf, MgmtMatching.run, MgmtMatching.step, decoded, events, messages]
    · simp [terminal, printedAt, decoded]
    · simp only [outlook, decoded, Lands, behind, stepsOf, MgmtMatching.run, MgmtMatching.step]
      exact ⟨rfl, rfl, sanitize, follows.connected, follows.running⟩
  · simp only [Cli.again, follows.connected, if_true]
    refine ⟨rfl, ?_, ?_, ?_⟩
    · simp [stepsOf, MgmtMatching.run, MgmtMatching.step, decoded, events, messages,
        Except.toOption]
    · simp only [printedAt, decoded]
      exact terminal_append (terminal_message msg) rfl
    · simp only [outlook, decoded, Lands, behind, stepsOf, MgmtMatching.run, MgmtMatching.step]
      exact ⟨rfl, rfl, sanitize, rfl, follows.running⟩

theorem typedCommand_text {line : Text} (text : trim line ≠ []) :
    typedCommand line = (OvpnCommand.fromStr (trim line)).toOption := by
  rw [typedCommand, if_neg text]

theorem typed_nothing {c : Cli} {e : Endpoint} (follows : Follows c e) {line : Text}
    (nothing : typedCommand line = none) (failed : Option Text) {out : List Shown}
    (silent : written out = []) (dumb : messages out = [])
    (shown : terminal out = some (answerTo describe line failed)) :
    Does engine explain describe e (.typed line failed) (c, out) := by
  have steps : stepsOf (.typed line failed) = [] := by
    cases failed <;> simp [stepsOf, nothing]
  refine ⟨?_, ?_, shown, ?_⟩
  · rw [silent, steps]
    rfl
  · rw [dumb, steps]
    rfl
  · simp only [outlook, nothing, behind, steps]
    exact follows

theorem typed_does {c : Cli} {e : Endpoint} (follows : Follows c e) (line : Text)
    (failed : Option Text) :
    Does engine explain describe e (.typed line failed) (c.typed engine describe line failed) := by
  unfold Cli.typed
  by_cases blank : trim line = []
  · simp only [blank, if_true, again_eq follows.connected]
    exact typed_nothing follows (by simp [typedCommand, blank]) failed rfl rfl
      (by simp [answerTo, blank, terminal])
  · simp only [blank, if_false, follows.connected, if_true]
    cases parsed : OvpnCommand.fromStr (trim line) with
    | error error =>
      simp only [again_eq follows.connected]
      have nothing : typedCommand line = none := by
        rw [typedCommand_text blank, parsed]
        rfl
      exact typed_nothing follows nothing failed rfl rfl
        (by simp [answerTo, blank, parsed, terminal])
    | ok cmd =>
      have stands : typedCommand line = some cmd := by
        rw [typedCommand_text blank, parsed]
        rfl
      have encoded := encode_sanitize engine follows.sanitize cmd
      cases failed with
      | some error =>
        refine ⟨rfl, rfl, ?_, ?_⟩
        · simp [Cli.send, Cli.leave, terminal, printedAt, answerTo, blank, parsed]
        · simp [outlook, stands, Lands, Cli.send, Cli.leave]
      | none =>
        have steps : stepsOf (.typed line none) = [.encode cmd] := by simp [stepsOf, stands]
        cases exits : isExit cmd with
        | true =>
          simp only [Cli.send, follows.codec, encoded, List.nil_append, exits, if_true, Cli.leave]
          refine ⟨?_, ?_, ?_, ?_⟩
          · rw [steps]
            rfl
          · simp [steps, MgmtMatching.run, MgmtMatching.step, messages]
          · simp [terminal, printedAt, answerTo, blank, parsed, exits]
          · simp [outlook, stands, exits, Lands]
        | false =>
          simp only [Cli.send, follows.codec, encoded, List.nil_append, exits, Bool.false_eq_true,
            if_false, Cli.again, follows.connected, if_true]
          refine ⟨?_, ?_, ?_, ?_⟩
          · rw [steps]
            rfl
          · simp [steps, MgmtMatching.run, MgmtMatching.step, messages]
          · simp [terminal, printedAt, answerTo, blank, parsed, exits]
          · have goesOn : outlook e (.typed line none) = .goesOn := by
              simp [outlook, stands, exits]
            rw [goesOn, behind, steps]
            simp only [MgmtMatching.run, MgmtMatching.step, encoded]
            exact ⟨rfl, follows.buffer, follows.sanitize, rfl, follows.running⟩

theorem step_does {c : Cli} {e : Endpoint} (follows : Follows c e) (turn : Turn) :
    Does engine explain describe e turn (c.step engine explain describe turn) := by
  unfold Cli.step
  rw [if_neg (by simp [follows.running])]
  cases turn with
  | receive chunk =>
    refine ⟨rfl, rfl, rfl, ?_⟩
    exact ⟨follows.codec, by rw [follows.buffer]; rfl, follows.sanitize, follows.connected,
      follows.running⟩
  | poll =>
    simp only [follows.connected, if_true]
    exact poll_does follows
  | ended error =>
    simp only [follows.connected, if_true]
    cases error with
    | none => exact ⟨rfl, rfl, rfl, rfl⟩
    | some error => exact ⟨rfl, rfl, rfl, rfl, follows.running⟩
  | typed line failed => exact typed_does follows line failed
  | eof => exact ⟨rfl, rfl, rfl, rfl⟩
  | stdinFailed => exact ⟨rfl, rfl, rfl, rfl⟩

/-! The run -/

theorem run_left {c : Cli} (finished : c.finished = true) (turns : List Turn) :
    (c.run engine explain describe turns).2 = [] := by
  induction turns with
  | nil => rfl
  | cons turn more ih =>
    simp only [Cli.run, Cli.step, finished, if_true, List.nil_append]
    exact ih

theorem run_cut {c : Cli} (cut : c.connected = false) (running : c.finished = false)
    (turns : List Turn) :
    (c.run engine explain describe turns).2 = (farewell turns).map .notice := by
  induction turns generalizing c with
  | nil => rfl
  | cons turn more ih =>
    cases turn with
    | receive chunk =>
      simp only [Cli.run, Cli.step, running, Bool.false_eq_true, if_false, List.nil_append]
      exact ih cut rfl
    | poll =>
      simp only [Cli.run, Cli.step, running, cut, Bool.false_eq_true, if_false, List.nil_append]
      exact ih cut running
    | ended error =>
      simp only [Cli.run, Cli.step, running, cut, Bool.false_eq_true, if_false, List.nil_append]
      exact ih cut running
    | typed line failed =>
      simp only [Cli.run, Cli.step, running, Bool.false_eq_true, if_false, Cli.typed, farewell]
      by_cases blank : trim line = []
      · simp only [blank, if_true, Cli.again, cut, Bool.false_eq_true, if_false, List.nil_append]
        exact ih cut running
      · simp only [blank, if_false, cut, Bool.false_eq_true, Cli.leave]
        rw [run_left rfl]
        rfl
    | eof =>
      simp only [Cli.run, Cli.step, running, Bool.false_eq_true, if_false, Cli.leave]
      rw [run_left rfl]
      rfl
    | stdinFailed =>
      simp only [Cli.run, Cli.step, running, Bool.false_eq_true, if_false, Cli.leave]
      rw [run_left rfl]
      rfl

theorem goesOn_stays {e : Endpoint} {turn : Turn} (goesOn : outlook e turn = .goesOn) :
    ∀ cmd ∈ commands (stepsOf turn), isExit cmd = false := by
  intro cmd member
  cases turn with
  | typed line failed =>
    cases failed with
    | some error => cases member
    | none =>
      cases stands : typedCommand line with
      | none => simp [stepsOf, stands, commands] at member
      | some other =>
        simp only [stepsOf, stands, Option.toList_some, List.map_cons, List.map_nil, commands,
          List.mem_singleton] at member
        subst member
        simpa [outlook, stands] using goesOn
  | _ => cases member

theorem stepsOf_one (turn : Turn) : (commands (stepsOf turn)).length ≤ 1 := by
  cases turn with
  | typed line failed =>
    cases failed with
    | some error => exact Nat.zero_le 1
    | none => cases stands : typedCommand line <;> simp [stepsOf, stands, commands]
  | _ => exact Nat.zero_le 1

theorem terminal_notices (lines : List Printed) :
    terminal (lines.map .notice) = some lines := by
  induction lines with
  | nil => rfl
  | cons line more ih => simp [terminal, ih]

theorem written_notices (lines : List Printed) : written (lines.map .notice) = [] := by
  induction lines with
  | nil => rfl
  | cons line more ih => exact ih

theorem messages_notices (lines : List Printed) : messages (lines.map .notice) = [] := by
  induction lines with
  | nil => rfl
  | cons line more ih => exact ih

theorem exact_last {e : Endpoint} {turn : Turn} {r : Cli × List Shown}
    (does : Does engine explain describe e turn r) (last : outlook e turn ≠ .goesOn)
    (more : List Turn) {lines : List Printed}
    (rest : lines = if outlook e turn = .cut then farewell more else []) :
    Exact engine explain describe e (turn :: more) (r.2 ++ lines.map .notice) := by
  have heard : heard engine e (turn :: more) = [turn] := by rw [heard, if_neg last]
  have ending : ending engine e (turn :: more) = outlook e turn := by
    rw [MgmtCli.ending, if_neg last]
  have steps : [turn].flatMap stepsOf = stepsOf turn := by simp
  constructor
  · rw [heard]
    exact ⟨more, rfl⟩
  · rw [ending]
    exact fun goesOn => absurd goesOn last
  · rw [heard, steps, written_append, written_notices, List.append_nil]
    exact does.written
  · rw [heard, steps]
    intro cmd member
    have nothing : (commands (stepsOf turn)).dropLast = [] := by
      apply List.eq_nil_of_length_eq_zero
      rw [List.length_dropLast]
      have one := stepsOf_one turn
      omega
    rw [nothing] at member
    cases member
  · rw [heard, steps, messages_append, messages_notices, List.append_nil]
    exact does.messages
  · rw [heard, ending, unheard, heard]
    have whole := terminal_append does.terminal (terminal_notices lines)
    rw [whole, rest]
    simp [transcript]

theorem run_exact {c : Cli} {e : Endpoint} (follows : Follows c e) (turns : List Turn) :
    Exact engine explain describe e turns (c.run engine explain describe turns).2 := by
  induction turns generalizing c e with
  | nil =>
    constructor
    · exact List.nil_prefix
    · exact fun _ => rfl
    · rfl
    · intro cmd member
      cases member
    · rfl
    · rfl
  | cons turn more ih =>
    have does := @step_does engine explain describe c e follows turn
    simp only [Cli.run]
    have lands := does.lands
    cases look : outlook e turn with
    | cut =>
      rw [look] at lands
      rw [run_cut lands.1 lands.2]
      exact exact_last does (by simp [look]) more (by simp [look])
    | left =>
      rw [look] at lands
      rw [run_left lands]
      have nothing : [] = if outlook e turn = .cut then farewell more else [] := by simp [look]
      exact exact_last does (by simp [look]) more nothing
    | goesOn =>
      rw [look] at lands
      obtain ⟨front, whole, written, exitLast, messages, terminal⟩ := ih lands
      have heard : heard engine e (turn :: more) =
          turn :: heard engine (behind engine e turn) more := by rw [heard, if_pos look]
      have ending : ending engine e (turn :: more) = ending engine (behind engine e turn) more := by
        rw [MgmtCli.ending, if_pos look]
      constructor
      · rw [heard]
        exact List.cons_prefix_cons.mpr ⟨rfl, front⟩
      · rw [heard, ending]
        intro goesOn
        rw [whole goesOn]
      · rw [heard, List.flatMap_cons, written_append, commands_append, List.map_append, written,
          does.written]
      · rw [heard, List.flatMap_cons, commands_append]
        intro cmd member
        rw [List.dropLast_append] at member
        split at member
        · exact goesOn_stays look cmd (List.dropLast_subset _ member)
        · rcases List.mem_append.mp member with here | later
          · exact goesOn_stays look cmd here
          · exact exitLast cmd later
      · rw [heard, List.flatMap_cons, messages_append, messages, endpoint_append,
          List.filterMap_append, does.messages, behind]
      · rw [heard, ending, unheard, heard]
        rw [terminal_append does.terminal terminal]
        simp [transcript, unheard]

end Loop

example : terminal (Cli.main (fun _ => []) (fun _ => []) (fun _ => [])
    [.typed (lit " pid ") none, .receive (toUtf8 (lit "SUCCESS: pid=4\n>HOLD:0\n")), .poll, .poll,
      .poll, .ended (some (lit "gone")), .typed [] none, .typed (lit "pid") none]).2 =
    some [.prompt, .prompt, .stdout (lit "SUCCESS: pid=4"), .prompt, .stdout (lit "[HOLD] 0"),
      .prompt, .stderr (lit "[CONN ERROR] gone"), .stderr (lit "not connected")] := by
  decide +kernel

/-! The warning -/

def loopbackHosts : List Text := [lit "127.0.0.1", lit "localhost", lit "::1"]

/- The host without the port and without the brackets of IPv6. -/
def addressHost (addr : Text) : Text :=
  let host := (rsplitOnce (· == ':') addr).elim addr Prod.fst
  ((stripPrefix host ['[']).bind (stripSuffix · [']'])).getD host

/- Whether `warn_if_non_loopback` warns. -/
def warns (addr : Text) : Bool := !loopbackHosts.contains (addressHost addr)

def spellings (host : Text) : List Text := [host, '[' :: host ++ [']']]

theorem unbracketed_iff {host shown : Text} (plain : host.head? ≠ some '[') :
    ((stripPrefix shown ['[']).bind (stripSuffix · [']'])).getD shown = host ↔
      shown ∈ spellings host := by
  simp only [spellings, List.mem_cons, List.not_mem_nil, or_false]
  constructor
  · intro same
    cases opens : stripPrefix shown ['['] with
    | none =>
      rw [opens] at same
      exact Or.inl same
    | some inner =>
      rw [opens, Option.bind_some] at same
      cases closes : stripSuffix inner [']'] with
      | none =>
        rw [closes] at same
        exact Or.inl same
      | some body =>
        rw [closes] at same
        cases same
        obtain ⟨ending, same, shape⟩ := List.dropSuffix?_eq_some_iff.mp closes
        rw [stripPrefix_eq_some.mp opens, same, beq_iff_eq.mp shape]
        exact Or.inr rfl
  · rintro (rfl | rfl)
    · have other : stripPrefix shown ['['] = none := by
        rw [stripPrefix_eq_none]
        rintro ⟨rest, same⟩
        exact plain (by rw [← same]; rfl)
      rw [other]
      rfl
    · have opens : stripPrefix ('[' :: host ++ [']']) ['['] = some (host ++ [']']) :=
        stripPrefix_append ['['] (host ++ [']'])
      rw [opens, Option.bind_some, stripSuffix_append]
      rfl

/-- An address goes without a warning exactly if a loopback host stands in it, behind which a port
    may follow. -/
theorem silent_iff (addr : Text) :
    warns addr = false ↔ ∃ host ∈ loopbackHosts, ∃ shown ∈ spellings host,
      addr = shown ∧ ':' ∉ shown ∨ ∃ port, ':' ∉ port ∧ addr = shown ++ ':' :: port := by
  have plain : ∀ host ∈ loopbackHosts, host.head? ≠ some '[' := by decide +kernel
  have found : warns addr = false ↔ ∃ host ∈ loopbackHosts,
      (rsplitOnce (· == ':') addr).elim addr Prod.fst ∈ spellings host := by
    simp only [warns, Bool.not_eq_false', List.contains_iff_mem]
    constructor
    · intro member
      exact ⟨addressHost addr, member, (unbracketed_iff (plain _ member)).mp rfl⟩
    · rintro ⟨host, member, shown⟩
      rw [addressHost, (unbracketed_iff (plain host member)).mpr shown]
      exact member
  rw [found]
  cases split : rsplitOnce (· == ':') addr with
  | none =>
    have whole : ':' ∉ addr := by
      intro member
      simpa using rsplitOnce_eq_none.mp split ':' member
    constructor
    · intro ⟨host, member, shown⟩
      exact ⟨host, member, addr, shown, Or.inl ⟨rfl, whole⟩⟩
    · rintro ⟨host, member, shown, spelled, ⟨rfl, _⟩ | ⟨port, _, rfl⟩⟩
      · exact ⟨host, member, spelled⟩
      · exact absurd (by simp) whole
  | some parts =>
    obtain ⟨front, port⟩ := parts
    obtain ⟨sep, colon, same⟩ := rsplitOnce_eq_some split
    rw [beq_iff_eq.mp colon] at same
    constructor
    · intro ⟨host, member, shown⟩
      refine ⟨host, member, front, shown, Or.inr ⟨port, ?_, ?_⟩⟩
      · intro again
        simpa using rsplitOnce_last split ':' again
      · exact same
    · rintro ⟨host, member, shown, spelled, ⟨rfl, whole⟩ | ⟨tail, free, whole⟩⟩
      · exact absurd (by simp [same]) whole
      · have clean : ∀ c ∈ tail, (c == ':') = false := by
          intro c member
          exact beq_false_of_ne fun same => free (same ▸ member)
        have last : rsplitOnce (· == ':') (shown ++ ':' :: tail) = some (shown, tail) :=
          rsplitOnce_append clean (by simp)
        rw [← whole, split] at last
        cases last
        exact ⟨host, member, spelled⟩

end MgmtCli
