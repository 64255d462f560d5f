import OpenvpnMgmt.Lib.Utf8
import OpenvpnMgmt.Statistics
import OpenvpnMgmt.Timestamp

/-!
The state of the graphical client and what a message of the server does to it: the dashboard, the
log, the table of clients and the console. Texts are written out as the source formats them; an
operation that may panic is one that may fail. Selections, forms and the drawing are left out.
-/
namespace MgmtApp
open TextOps Utf8Text MgmtValues MgmtMessage MgmtStatistics MgmtTimestamp

def maxLogEntries : Nat := 500
def maxCommandHistory : Nat := 100
def maxSamples : Nat := 60

inductive Abort where
  | overflow
  | slice
  deriving DecidableEq, Repr

abbrev Checked (α : Type) := Except Abort α

/- `&t[..stop]`, with the offset in bytes. -/
def sliceTo : Text → Nat → Checked Text
  | _, 0 => .ok []
  | [], _ + 1 => .error .slice
  | c :: rest, stop + 1 =>
    if c.utf8Size ≤ stop + 1 then (c :: ·) <$> sliceTo rest (stop + 1 - c.utf8Size)
    else .error .slice

def orOverflow {α : Type} : Option α → Checked α
  | some a => .ok a
  | none => .error .overflow

/-! The state -/

structure LogEntry where
  level : LogLevel
  timestamp : Text
  message : Text
  deriving DecidableEq, Repr

structure ClientInfo where
  cid : U64
  commonName : Text
  address : Text
  deriving DecidableEq, Repr

structure CommandHistoryEntry where
  command : Text
  responseLines : List Text
  deriving DecidableEq, Repr

/- Bytes in either direction and the seconds they took; the chart draws the quotients. -/
structure Sample where
  bytesIn : Nat
  bytesOut : Nat
  elapsed : Nat
  deriving DecidableEq, Repr

structure ThroughputHistory where
  samples : List Sample
  prevIn : U64
  prevOut : U64
  seeded : Bool
  deriving DecidableEq, Repr

def ThroughputHistory.default : ThroughputHistory := ⟨[], 0, 0, false⟩

/- The first reading is a seed. The counters may start again, which counts as no bytes. -/
def ThroughputHistory.push (h : ThroughputHistory) (bytesIn bytesOut : U64) (intervalSecs : U32) :
    ThroughputHistory :=
  if h.seeded then
    let sample : Sample :=
      ⟨bytesIn.toNat - h.prevIn.toNat, bytesOut.toNat - h.prevOut.toNat, max intervalSecs.toNat 1⟩
    let samples := if maxSamples ≤ h.samples.length then h.samples.tail else h.samples
    { h with samples := samples ++ [sample], prevIn := bytesIn, prevOut := bytesOut }
  else { h with prevIn := bytesIn, prevOut := bytesOut, seeded := true }

structure App where
  bytecountInterval : U32
  vpnState : Option OpenVpnState
  vpnStateDescription : Option Text
  localIp : Option Text
  remoteAddr : Option Text
  versionLines : Option (List Text)
  pid : Option U32
  bytesIn : U64
  bytesOut : U64
  loadStats : Option LoadStats
  throughput : ThroughputHistory
  logEntries : List LogEntry
  clients : List ClientInfo
  helpLines : Option (List Text)
  verbInput : Text
  muteInput : Text
  commandHistory : List CommandHistoryEntry
  awaitingCommandResponse : Bool

def App.new : App :=
  ⟨2, none, none, none, none, none, none, 0, 0, none, .default, [], [], none, [], [], [], false⟩

def App.resetSessionData (app : App) : App :=
  { App.new with bytecountInterval := app.bytecountInterval }

/-! Log and console -/

def keepLast {α : Type} (most : Nat) (l : List α) : List α := l.drop (l.length - most)

def App.addLog (app : App) (level : LogLevel) (timestamp message : Text) : App :=
  { app with logEntries := keepLast maxLogEntries (app.logEntries ++ [⟨level, timestamp, message⟩]) }

/- The lines go to the last entry, if one is waiting; there they end the wait. -/
def App.appendCommandResponseLines (app : App) (lines : List Text) : App :=
  if app.awaitingCommandResponse then
    { app with
      commandHistory := app.commandHistory.modifyLast fun entry =>
        { entry with responseLines := entry.responseLines ++ lines }
      awaitingCommandResponse := false }
  else app

def App.appendCommandResponse (app : App) (line : Text) : App :=
  app.appendCommandResponseLines [line]

/- What `send_and_record` does before it hands the command to the actor. -/
def App.record (app : App) (label : Text) : App :=
  { app with
    commandHistory := keepLast maxCommandHistory (app.commandHistory ++ [⟨label, []⟩])
    awaitingCommandResponse := true }

/-! Notifications -/

def App.handleState (app : App) (state : StateEntry) : Checked App := do
  let logLine := lit "State → " ++ state.name.toText ++ lit " — " ++ state.description
  let remote := match state.remotePort with
    | some port => state.remoteIp ++ ':' :: display port
    | none => state.remoteIp
  let time ← orOverflow (formatTimestamp state.timestamp.seconds)
  return { app with
    vpnState := some state.name
    vpnStateDescription := some state.description
    localIp := if state.localIp = [] then none else some state.localIp
    remoteAddr := if state.remoteIp = [] then none else some remote }.addLog .info time logLine

def App.handleClient (app : App) (event : ClientEvent) (cid : U64) (kid : Option U64) (env : Env) :
    App :=
  let commonName := (env[lit "common_name"]?).getD event.toText
  let address := ((env[lit "untrusted_ip"]?).or (env[lit "IV_IP"]?)).getD []
  let kidLabel := kid.elim [] fun kid => lit " kid=" ++ display kid
  let app := app.addLog .info []
    (lit "Client " ++ event.toText ++ lit " cid=" ++ display cid ++ kidLabel ++ lit " cn=" ++
      commonName)
  if (event.toText = lit "CONNECT" ∨ event.toText = lit "REAUTH" ∨
        event.toText = lit "ESTABLISHED") ∧ ¬ app.clients.any (·.cid = cid) then
    { app with clients := app.clients ++ [⟨cid, commonName, address⟩] }
  else if event.toText = lit "DISCONNECT" then
    { app with clients := app.clients.filter (·.cid ≠ cid) }
  else app

def App.handlePassword (app : App) : PasswordNotification → App
  | .needAuth authType =>
    app.addLog .warning [] (lit "Need '" ++ authType.toText ++ lit "' username/password")
  | .needPassword authType =>
    app.addLog .warning [] (lit "Need '" ++ authType.toText ++ lit "' password")
  | .verificationFailed authType =>
    app.addLog .warning [] (lit "Auth verification failed: '" ++ authType.toText ++ lit "'")
  | .staticChallenge _ _ challenge =>
    app.addLog .warning [] (lit "Static challenge: " ++ challenge)
  | .dynamicChallenge _ _ _ challenge =>
    app.addLog .warning [] (lit "Dynamic challenge: " ++ challenge)
  -- A token prints as a mask.
  | .authToken _ => app.addLog .info [] (lit "Auth token received: <redacted>")

/- `&data[..data.len().min(40)]` -/
def preview (data : Text) : Checked Text := sliceTo data (min (toUtf8 data).length 40)

def App.handleNotification (app : App) : Notification → Checked App
  | .state entry => app.handleState entry
  | .byteCount bytesIn bytesOut =>
    .ok { app with
      throughput := app.throughput.push bytesIn bytesOut app.bytecountInterval
      bytesIn, bytesOut }
  | .byteCountCli cid bytesIn bytesOut =>
    .ok (app.addLog .debug [] (lit "ByteCount cid=" ++ display cid ++ lit " in=" ++
      display bytesIn ++ lit " out=" ++ display bytesOut))
  | .log timestamp level message => do
    let time ← orOverflow (formatTimestamp timestamp.seconds)
    return app.addLog level time message
  | .echo timestamp param => do
    let time ← orOverflow (formatTimestamp timestamp.seconds)
    return app.addLog .info time (lit "Echo: " ++ param)
  | .hold text => .ok (app.addLog .warning [] (lit "Hold: " ++ text))
  | .fatal message => .ok (app.addLog .fatal [] (lit "FATAL: " ++ message))
  | .client event cid kid env => .ok (app.handleClient event cid kid env)
  | .clientAddress cid addr primary =>
    .ok (app.addLog .debug [] (lit "Client address cid=" ++ display cid ++ lit " addr=" ++ addr ++
      lit " primary=" ++ (if primary then lit "true" else lit "false")))
  | .password sub => .ok (app.handlePassword sub)
  | .needOk name message =>
    .ok (app.addLog .warning [] (lit "NEED-OK '" ++ name ++ lit "': " ++ message))
  | .needStr name message =>
    .ok (app.addLog .warning [] (lit "NEED-STR '" ++ name ++ lit "': " ++ message))
  | .remote host port protocol =>
    .ok (app.addLog .info [] (lit "Remote: " ++ host ++ ':' :: display port ++ lit " (" ++
      protocol.toText ++ lit ")"))
  | .proxy index proxyType host =>
    .ok (app.addLog .info [] (lit "Proxy #" ++ display index ++ lit ": " ++ proxyType.toText ++
      ' ' :: host))
  | .rsaSign data => do
    let shown ← preview data
    return app.addLog .info [] (lit "RSA sign request: " ++ shown)
  | .pkcs11IdCount count =>
    .ok (app.addLog .info [] (lit "PKCS#11 ID count: " ++ display count))
  | .pkSign data algorithm => do
    let shown ← preview data
    return app.addLog .info []
      (lit "PK sign request (" ++ algorithm.getD (lit "unknown") ++ lit "): " ++ shown)
  | .info message => .ok (app.addLog .info [] message)
  | .infoMsg extra => .ok (app.addLog .info [] (lit "INFOMSG: " ++ extra))
  | .needCertificate hint => .ok (app.addLog .warning [] (lit "Need certificate: " ++ hint))
  | .simple kind payload => .ok (app.addLog .info [] ('[' :: kind ++ lit "] " ++ payload))

/-! Responses -/

/- A payload may answer several queries; each one is tried. -/
def App.ingestSuccess (app : App) (payload : Text) : App :=
  { app with
    pid := ((stripPrefix payload (lit "pid=")).bind (parseUInt 32)).or app.pid
    loadStats := if lit "nclients=" <+: payload then
        (parseLoadStats payload).toOption.or app.loadStats
      else app.loadStats
    verbInput := (stripPrefix payload (lit "verb=")).getD app.verbInput
    muteInput := (stripPrefix payload (lit "mute=")).getD app.muteInput }

def stateLine (line : Text) : Option (OpenVpnState × List Text) :=
  let fields := splitn 9 (· == ',') line
  if 3 ≤ fields.length then
    (OpenVpnState.fromStr (fields.getD 1 [])).toOption.map fun state => (state, fields)
  else none

def App.ingestState (app : App) (lines : List Text) : App :=
  match lines.reverse.findSome? stateLine with
  | none => app
  | some (state, fields) =>
    let field := fun i => fields.getD i []
    let remote := if field 5 = [] then field 4 else field 4 ++ ':' :: field 5
    { app with
      vpnState := some state
      vpnStateDescription := some (field 2)
      localIp := if field 3 = [] then app.localIp else some (field 3)
      remoteAddr := if field 4 = [] then app.remoteAddr else some remote }

def App.ingestMultiline (app : App) (lines : List Text) : App :=
  let isVersion := lines.any fun line =>
    decide (lit "OpenVPN Version:" <:+: line ∨ lit "Management Version:" <:+: line)
  let isHelp := lines.any fun line => decide (lit "help" <+: line ∧ ':' ∈ line)
  { app with
    versionLines := if isVersion then some lines else app.versionLines
    helpLines := if isHelp then some lines else app.helpLines }.ingestState lines

def UnrecognizedKind.toDebug : UnrecognizedKind → Text
  | .malformedNotification => lit "MalformedNotification"
  | .unexpectedLine => lit "UnexpectedLine"

def App.handleOvpnMessage (app : App) : OvpnMessage → Checked App
  | .success payload =>
    .ok ((app.ingestSuccess payload).appendCommandResponse (lit "SUCCESS: " ++ payload))
  | .error payload => .ok (app.appendCommandResponse (lit "ERROR: " ++ payload))
  | .multiLine lines =>
    .ok ((app.ingestMultiline lines).appendCommandResponseLines (lines.map (lit "  " ++ ·)))
  | .notification n => app.handleNotification n
  | .info payload => .ok (app.addLog .info [] payload)
  | .passwordPrompt => .ok (app.addLog .warning [] (lit "Management password required"))
  | .pkcs11IdEntry index id blob =>
    .ok (app.appendCommandResponse
      (lit "PKCS11: index=" ++ index ++ lit " id=" ++ id ++ lit " blob=" ++ blob))
  | .unrecognized line kind =>
    .ok (app.addLog .warning [] (lit "Unrecognized (" ++ UnrecognizedKind.toDebug kind ++
      lit "): " ++ line))

end MgmtApp
