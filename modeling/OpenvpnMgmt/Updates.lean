import OpenvpnMgmt.Actor
import OpenvpnMgmt.Console

/-!
The update loop of the graphical client: what every message of the interface does to the state, what
it hands to the actor and which task it starts. The actor is gone for good once a command does not
fit into its channel. Theme and modifier keys are left out; the text of a parse error is a
parameter, and what the demo of the chart invents comes with its message.
-/
namespace MgmtUpdates
open TextOps Utf8Text MgmtValues MgmtCommand MgmtMessage MgmtApp
open MgmtActor (ActorCommand ActorEvent Reason)

/-! Messages -/

inductive Tab where
  | dashboard
  | console
  | log
  | clients
  | help
  deriving DecidableEq, Repr

inductive ConnectionState where
  | disconnected
  | connecting
  | connected
  deriving DecidableEq, Repr

inductive StartupStreamMode where
  | off
  | on
  | onAll
  deriving DecidableEq, Repr

def StartupStreamMode.toStreamMode : StartupStreamMode → StreamMode
  | .off => .off
  | .on => .on
  | .onAll => .onAll

inductive StartupMsg where
  | logMode (mode : StartupStreamMode)
  | stateMode (mode : StartupStreamMode)
  | echoMode (mode : StartupStreamMode)
  | byteCountIntervalChanged (value : Text)
  | byteCountApply
  | byteCountOff
  | holdReleaseToggled (value : Bool)
  | queryVersionToggled (value : Bool)

inductive OpsMsg where
  | version
  | status1
  | status2
  | status3
  | pid
  | loadStats
  | net
  | signalHup
  | signalTerm
  | signalUsr1
  | signalUsr2
  | holdQuery
  | holdOn
  | holdOff
  | holdRelease
  | verbInputChanged (value : Text)
  | verbGet
  | verbSet
  | verbReset
  | muteInputChanged (value : Text)
  | muteGet
  | muteSet
  | authRetryNone
  | authRetryInteract
  | authRetryNoInteract
  | forgetPasswords
  | killInputChanged (value : Text)
  | killSend
  | clientCidChanged (value : Text)
  | clientKidChanged (value : Text)
  | clientDenyReasonChanged (value : Text)
  | clientAuthNt
  | clientDeny
  | clientKill

inductive Message where
  | hostChanged (value : Text)
  | portChanged (value : Text)
  | passwordChanged (value : Text)
  | connect
  | disconnect
  | reconnect
  | reconnectReady (host port : Text) (startupCommands : List OvpnCommand)
  | actor (event : ActorEvent)
  | tabSelected (tab : Tab)
  | startup (msg : StartupMsg)
  | ops (msg : OpsMsg)
  | commandInputChanged (value : Text)
  | sendCommand
  | pickSuggestion (name : Text)
  | toggleRawMode (enabled : Bool)
  | selectLogEntry (index : Nat)
  | copyLogEntry
  | clearLogFlash
  | selectConsoleEntry (entryIndex : Nat)
  | copyConsoleEntry
  | clearConsoleFlash
  | copySelection
  | selectionUp
  | selectionDown
  | verbReset
  | refreshStatus
  | connectingTick
  -- The demo is there in a debug build only. The rates of a tick are a random walk.
  | toggleDemoChart
  | demoChartTick (rateIn rateOut : U64)

/-- What an update leaves running: a pause before `reconnectReady`, or a copy and its flash. -/
inductive Task where
  | reconnect (host port : Text) (startupCommands : List OvpnCommand)
  | copyLog (line : Text)
  | copyConsole (text : Text)
  | focusCommandInput
  deriving DecidableEq, Repr

/-! The state -/

/-- The sender of the command channel: whether it is still held, how many commands fit into the
    channel, and those that were put there. -/
structure Sender where
  held : Bool
  room : Nat
  sent : List ActorCommand

/- The interval between byte counts is with the data, which is divided by it. -/
structure StartupOptions where
  log : StartupStreamMode
  state : StartupStreamMode
  echo : StartupStreamMode
  holdRelease : Bool
  queryVersion : Bool
  deriving DecidableEq, Repr

def StartupOptions.default : StartupOptions := ⟨.on, .on, .off, true, true⟩

/- The inputs for verbosity and mute are with the data, which responses change. -/
structure OperationsForm where
  killInput : Text
  clientCid : Text
  clientKid : Text
  clientDenyReason : Text
  deriving DecidableEq, Repr

def OperationsForm.default : OperationsForm := ⟨[], [], [], []⟩

structure DemoState where
  cumulativeIn : U64
  cumulativeOut : U64
  deriving DecidableEq, Repr

def DemoState.default : DemoState := ⟨0, 0⟩

structure Ui where
  host : Text
  port : Text
  managementPassword : Text
  connectionState : ConnectionState
  actorTx : Sender
  lastError : Option Reason
  startup : StartupOptions
  app : App
  selectedLogIndex : Option Nat
  logFlashIndex : Option Nat
  ops : OperationsForm
  commandInput : Text
  commandValid : Bool
  rawMode : Bool
  selectedConsoleEntry : Option Nat
  consoleFlashEntry : Option Nat
  activeTab : Tab
  connectingDots : Nat
  demoChart : Bool
  demoState : DemoState

def Ui.new : Ui where
  host := lit "127.0.0.1"
  port := lit "7505"
  managementPassword := []
  connectionState := .disconnected
  actorTx := ⟨true, 0, []⟩
  lastError := none
  startup := .default
  app := .new
  selectedLogIndex := none
  logFlashIndex := none
  ops := .default
  commandInput := []
  commandValid := false
  rawMode := false
  selectedConsoleEntry := none
  consoleFlashEntry := none
  activeTab := .dashboard
  connectingDots := 0
  demoChart := false
  demoState := .default

/-! Sending -/

abbrev Sent := Except Ui Ui

def Ui.sendActor (ui : Ui) (command : ActorCommand) : Sent :=
  if ui.actorTx.held = true ∧ 0 < ui.actorTx.room then
    .ok { ui with actorTx := ⟨true, ui.actorTx.room - 1, ui.actorTx.sent ++ [command]⟩ }
  else .error ui

def Ui.onActorGone (ui : Ui) : Ui :=
  { ui with
    actorTx := { ui.actorTx with held := false }
    connectionState := .disconnected
    lastError := some (.text (lit "Connection actor exited")) }

def orGone : Sent → Ui
  | .ok ui => ui
  | .error ui => ui.onActorGone

def Ui.sendAndRecord (ui : Ui) (label : Text) (command : OvpnCommand) : Sent :=
  { ui with app := ui.app.record label }.sendActor (.send command)

def Ui.sendIfConnected (ui : Ui) (label : Text) (command : OvpnCommand) : Sent :=
  if ui.connectionState = .connected then ui.sendAndRecord label command else .ok ui

def Ui.buildStartupCommands (ui : Ui) : List OvpnCommand :=
  let interval := ui.app.bytecountInterval
  (if ui.managementPassword = [] then [] else [.managementPassword ⟨ui.managementPassword⟩]) ++
    [.pid, .state] ++
    (if 0 < interval.toNat then [.byteCount interval] else []) ++
    (if ui.startup.holdRelease then [.holdRelease] else []) ++
    (if ui.startup.log = .off then [] else [.log ui.startup.log.toStreamMode]) ++
    (if ui.startup.state = .off then [] else [.stateStream ui.startup.state.toStreamMode]) ++
    (if ui.startup.echo = .off then [] else [.echo ui.startup.echo.toStreamMode]) ++
    (if ui.startup.queryVersion then [.version] else []) ++ [.help]

/- `verb 4` comes behind the password and before everything else. -/
def Ui.verbResetCommands (ui : Ui) : List OvpnCommand :=
  (if ui.managementPassword = [] then [] else [.managementPassword ⟨ui.managementPassword⟩]) ++
    [.verb (some 4)] ++
    ui.buildStartupCommands.drop (if ui.managementPassword = [] then 0 else 1)

def isRaw : OvpnCommand → Bool
  | .raw _ => true
  | _ => false

def Ui.revalidateCommand (ui : Ui) : Ui :=
  let trimmed := trim ui.commandInput
  { ui with commandValid :=
      if ui.rawMode then true
      else decide (trimmed ≠ []) &&
        match OvpnCommand.fromStr trimmed with
        | .ok cmd => !isRaw cmd
        | .error _ => false }

def Ui.resetSessionData (ui : Ui) : Ui :=
  { ui with
    app := ui.app.resetSessionData
    selectedLogIndex := none
    logFlashIndex := none
    ops := .default
    selectedConsoleEntry := none
    consoleFlashEntry := none }

/-! Forms -/

def Ui.applyStreamMode (ui : Ui) (label : Text) (mode : StartupStreamMode)
    (makeCmd : StreamMode → OvpnCommand) : Sent :=
  ui.sendIfConnected label (makeCmd mode.toStreamMode)

def Ui.handleStartup (ui : Ui) : StartupMsg → Sent
  | .logMode mode =>
    { ui with startup := { ui.startup with log := mode } }.applyStreamMode (lit "log") mode .log
  | .stateMode mode =>
    { ui with startup := { ui.startup with state := mode } }.applyStreamMode (lit "state") mode
      .stateStream
  | .echoMode mode =>
    { ui with startup := { ui.startup with echo := mode } }.applyStreamMode (lit "echo") mode .echo
  | .byteCountIntervalChanged value =>
    match parseUInt 32 value with
    | some seconds => .ok { ui with app := { ui.app with bytecountInterval := seconds } }
    | none => .ok ui
  | .byteCountApply =>
    let seconds := ui.app.bytecountInterval
    ui.sendIfConnected (lit "bytecount " ++ display seconds) (.byteCount seconds)
  | .byteCountOff => ui.sendIfConnected (lit "bytecount 0") (.byteCount 0)
  | .holdReleaseToggled value =>
    .ok { ui with startup := { ui.startup with holdRelease := value } }
  | .queryVersionToggled value =>
    .ok { ui with startup := { ui.startup with queryVersion := value } }

def Ui.handleOps (ui : Ui) : OpsMsg → Sent
  | .version => ui.sendAndRecord (lit "version") .version
  | .status1 => ui.sendAndRecord (lit "status 1") (.status .v1)
  | .status2 => ui.sendAndRecord (lit "status 2") (.status .v2)
  | .status3 => ui.sendAndRecord (lit "status 3") (.status .v3)
  | .pid => ui.sendAndRecord (lit "pid") .pid
  | .loadStats => ui.sendAndRecord (lit "load-stats") .loadStats
  | .net => ui.sendAndRecord (lit "net") .net
  | .signalHup => ui.sendAndRecord (lit "signal SIGHUP") (.signal .sigHup)
  | .signalTerm => ui.sendAndRecord (lit "signal SIGTERM") (.signal .sigTerm)
  | .signalUsr1 => ui.sendAndRecord (lit "signal SIGUSR1") (.signal .sigUsr1)
  | .signalUsr2 => ui.sendAndRecord (lit "signal SIGUSR2") (.signal .sigUsr2)
  | .holdQuery => ui.sendAndRecord (lit "hold") .holdQuery
  | .holdOn => ui.sendAndRecord (lit "hold on") .holdOn
  | .holdOff => ui.sendAndRecord (lit "hold off") .holdOff
  | .holdRelease => ui.sendAndRecord (lit "hold release") .holdRelease
  | .verbInputChanged value => .ok { ui with app := { ui.app with verbInput := value } }
  | .verbGet => ui.sendAndRecord (lit "verb") (.verb none)
  | .verbSet =>
    match parseUInt 8 ui.app.verbInput with
    | some level => ui.sendAndRecord (lit "verb " ++ display level) (.verb (some level))
    | none => .ok ui
  -- `update` handles it.
  | .verbReset => .ok ui
  | .muteInputChanged value => .ok { ui with app := { ui.app with muteInput := value } }
  | .muteGet => ui.sendAndRecord (lit "mute") (.mute none)
  | .muteSet =>
    match parseUInt 32 ui.app.muteInput with
    | some threshold =>
      ui.sendAndRecord (lit "mute " ++ display threshold) (.mute (some threshold))
    | none => .ok ui
  | .authRetryNone => ui.sendAndRecord (lit "auth-retry none") (.authRetry .none)
  | .authRetryInteract => ui.sendAndRecord (lit "auth-retry interact") (.authRetry .interact)
  | .authRetryNoInteract => ui.sendAndRecord (lit "auth-retry nointeract") (.authRetry .noInteract)
  | .forgetPasswords => ui.sendAndRecord (lit "forget-passwords") .forgetPasswords
  | .killInputChanged value => .ok { ui with ops := { ui.ops with killInput := value } }
  | .killSend =>
    let target := trim ui.ops.killInput
    if target = [] then .ok ui
    else ui.sendAndRecord (lit "kill " ++ target) (.kill (.commonName target))
  | .clientCidChanged value => .ok { ui with ops := { ui.ops with clientCid := value } }
  | .clientKidChanged value => .ok { ui with ops := { ui.ops with clientKid := value } }
  | .clientDenyReasonChanged value =>
    .ok { ui with ops := { ui.ops with clientDenyReason := value } }
  | .clientAuthNt =>
    match parseUInt 64 ui.ops.clientCid, parseUInt 64 ui.ops.clientKid with
    | some cid, some kid =>
      ui.sendAndRecord (lit "client-auth-nt " ++ display cid ++ ' ' :: display kid)
        (.clientAuthNt cid kid)
    | _, _ => .ok ui
  | .clientDeny =>
    match parseUInt 64 ui.ops.clientCid, parseUInt 64 ui.ops.clientKid with
    | some cid, some kid =>
      let reason := ui.ops.clientDenyReason
      ui.sendAndRecord
        (lit "client-deny " ++ display cid ++ ' ' :: display kid ++ ' ' :: reason)
        (.clientDeny ⟨cid, kid, reason, none⟩)
    | _, _ => .ok ui
  | .clientKill =>
    match parseUInt 64 ui.ops.clientCid with
    | some cid => ui.sendAndRecord (lit "client-kill " ++ display cid) (.clientKill cid none)
    | none => .ok ui

/-! Reconnecting, copying and selecting -/

def Ui.pauseAndReconnect (ui : Ui) (startupCommands : Ui → List OvpnCommand) : Ui × Option Task :=
  match ui.sendActor .disconnect with
  | .error ui => (ui.onActorGone, none)
  | .ok ui =>
    let ui := { ui with connectionState := .connecting, lastError := none }.resetSessionData
    (ui, some (.reconnect ui.host ui.port (startupCommands ui)))

def levelLabel : LogLevel → Text
  | .info => lit "INFO"
  | .debug => lit "DEBUG"
  | .warning => lit "WARN"
  | .nonFatal => lit "NFATAL"
  | .fatal => lit "FATAL"
  | .unknown flag => flag

def logLine (entry : LogEntry) : Text :=
  if entry.timestamp = [] then '[' :: levelLabel entry.level ++ lit "] " ++ entry.message
  else '[' :: levelLabel entry.level ++ lit "] " ++ entry.timestamp ++ ' ' :: entry.message

/- The command and its response lines; entries count from the newest. -/
def consoleEntryText (app : App) (revIndex : Nat) : Option Text :=
  app.commandHistory.reverse[revIndex]?.map fun entry =>
    lit "❯ " ++ entry.command ++ entry.responseLines.flatMap ('\n' :: ·)

def Ui.copyLogEntry (ui : Ui) : Ui × Option Task :=
  match ui.selectedLogIndex with
  | some index =>
    match ui.app.logEntries[index]? with
    | some entry => ({ ui with logFlashIndex := some index }, some (.copyLog (logLine entry)))
    | none => (ui.revalidateCommand, none)
  | none => (ui.revalidateCommand, none)

def Ui.copyConsoleEntry (ui : Ui) : Ui × Option Task :=
  match ui.selectedConsoleEntry with
  | some revIndex =>
    match consoleEntryText ui.app revIndex with
    | some text => ({ ui with consoleFlashEntry := some revIndex }, some (.copyConsole text))
    | none => (ui.revalidateCommand, none)
  | none => (ui.revalidateCommand, none)

/- The log is counted from the oldest entry and the console from the newest, and both are drawn
   newest first. -/
def Ui.selectionUp (ui : Ui) : Ui :=
  match ui.activeTab with
  | .log =>
    if ui.app.logEntries = [] then ui
    else
      let most := ui.app.logEntries.length - 1
      { ui with selectedLogIndex := some (ui.selectedLogIndex.elim most fun i => min (i + 1) most) }
  | .console =>
    if ui.app.commandHistory = [] then ui
    else { ui with selectedConsoleEntry := some (ui.selectedConsoleEntry.elim 0 fun i => i - 1) }
  | _ => ui

def Ui.selectionDown (ui : Ui) : Ui :=
  match ui.activeTab with
  | .log =>
    if ui.app.logEntries = [] then ui
    else
      let newest := ui.app.logEntries.length - 1
      { ui with selectedLogIndex := some (ui.selectedLogIndex.elim newest fun i => i - 1) }
  | .console =>
    if ui.app.commandHistory = [] then ui
    else
      let most := ui.app.commandHistory.length - 1
      let next := ui.selectedConsoleEntry.elim 0 fun i => min (i + 1) most
      { ui with selectedConsoleEntry := some next }
  | _ => ui

/- Six queries; they stop at the first one that does not fit. -/
def Ui.refreshStatus (ui : Ui) : Sent :=
  [OvpnCommand.version, .pid, .state, .loadStats, .verb none, .mute none].foldlM
    (fun ui cmd => ui.sendActor (.send cmd)) ui

/- A debug build checks its sums. -/
def addChecked (a b : U64) : Checked U64 :=
  if a.toNat + b.toNat < 2 ^ 64 then .ok (a + b) else .error .overflow

/- The chart starts anew with the demo, and stays as it is behind it. -/
def Ui.toggleDemo (ui : Ui) : Ui :=
  if ui.demoChart then { ui with demoChart := false }
  else { ui with
    demoChart := true
    demoState := .default
    app := { ui.app with throughput := .default } }

def Ui.demoTick (ui : Ui) (rateIn rateOut : U64) : Checked Ui := do
  let cumulativeIn ← addChecked ui.demoState.cumulativeIn rateIn
  let cumulativeOut ← addChecked ui.demoState.cumulativeOut rateOut
  return { ui with
    demoState := ⟨cumulativeIn, cumulativeOut⟩
    app := { ui.app with
      throughput := ui.app.throughput.push cumulativeIn cumulativeOut 1
      bytesIn := cumulativeIn
      bytesOut := cumulativeOut } }

/-! The update -/

section Update
variable (describe : CommandParseError → Text)

def Ui.sendCommand (ui : Ui) : Ui :=
  if ui.commandValid then
    let input := trim ui.commandInput
    let ui := { ui with commandInput := [] }
    match OvpnCommand.fromStr input with
    | .ok command => (orGone (ui.sendAndRecord input command)).revalidateCommand
    | .error e =>
      let entry : CommandHistoryEntry := ⟨input, [lit "parse error: " ++ describe e]⟩
      let app := { ui.app with commandHistory := ui.app.commandHistory ++ [entry] }
      { ui with app }.revalidateCommand
  else ui

def Ui.handleActor (ui : Ui) : ActorEvent → Checked Ui
  | .connected => .ok { ui with connectionState := .connected, lastError := none }
  | .disconnected reason => .ok { ui with connectionState := .disconnected, lastError := reason }
  | .message msg => return { ui with app := ← ui.app.handleOvpnMessage msg }

def Ui.settled (ui : Ui) : Checked (Ui × Option Task) := .ok (ui.revalidateCommand, none)

def Ui.update (ui : Ui) : Message → Checked (Ui × Option Task)
  | .hostChanged value => { ui with host := value }.settled
  | .portChanged value => { ui with port := value }.settled
  | .passwordChanged value => { ui with managementPassword := value }.settled
  | .connect =>
    let ui := { ui with connectionState := .connecting, lastError := none }.resetSessionData
    (orGone (ui.sendActor (.connect ui.host ui.port ui.buildStartupCommands))).settled
  | .disconnect => (orGone (ui.sendActor .disconnect)).settled
  | .verbReset => .ok (ui.pauseAndReconnect Ui.verbResetCommands)
  | .reconnect => .ok (ui.pauseAndReconnect Ui.buildStartupCommands)
  | .reconnectReady host port startupCommands =>
    (orGone (ui.sendActor (.connect host port startupCommands))).settled
  | .actor event => do
    let ui ← ui.handleActor event
    ui.settled
  | .tabSelected tab => { ui with activeTab := tab }.settled
  | .startup msg => (orGone (ui.handleStartup msg)).settled
  | .ops .verbReset =>
    .ok ({ ui with app := { ui.app with verbInput := lit "4" } }.pauseAndReconnect
      Ui.verbResetCommands)
  | .ops msg => (orGone (ui.handleOps msg)).settled
  | .commandInputChanged value => { ui with commandInput := value }.settled
  | .pickSuggestion name =>
    .ok ({ ui with commandInput := name ++ [' '] }.revalidateCommand, some .focusCommandInput)
  | .toggleRawMode enabled => { ui with rawMode := enabled }.settled
  | .sendCommand => .ok (ui.sendCommand describe, none)
  | .selectLogEntry index => { ui with selectedLogIndex := some index }.settled
  | .copyLogEntry => .ok ui.copyLogEntry
  | .clearLogFlash => { ui with logFlashIndex := none }.settled
  | .selectConsoleEntry entryIndex => { ui with selectedConsoleEntry := some entryIndex }.settled
  | .copyConsoleEntry => .ok ui.copyConsoleEntry
  | .clearConsoleFlash => { ui with consoleFlashEntry := none }.settled
  | .copySelection =>
    match ui.activeTab with
    | .log => .ok ui.copyLogEntry
    | .console => .ok ui.copyConsoleEntry
    | _ => ui.settled
  | .selectionUp => ui.selectionUp.settled
  | .selectionDown => ui.selectionDown.settled
  | .refreshStatus => (orGone ui.refreshStatus).settled
  | .connectingTick => { ui with connectingDots := (ui.connectingDots + 1) % 4 }.settled
  | .toggleDemoChart => ui.toggleDemo.settled
  | .demoChartTick rateIn rateOut => do
    let ui ← ui.demoTick rateIn rateOut
    ui.settled

end Update

/-! What an update does to the connection -/

/-- The connection is as before, or the actor was found gone. -/
def Quiet (ui after : Ui) : Prop :=
  after.actorTx.held = false ∨
    after.connectionState = ui.connectionState ∧ after.actorTx.held = ui.actorTx.held ∧
      ∃ more, after.actorTx.sent = ui.actorTx.sent ++ more

theorem sendActor_cases (ui : Ui) (command : ActorCommand) :
    ui.sendActor command = .error ui ∨
      ui.actorTx.held = true ∧ ui.sendActor command =
        .ok { ui with actorTx := ⟨true, ui.actorTx.room - 1, ui.actorTx.sent ++ [command]⟩ } := by
  unfold Ui.sendActor
  split
  · rename_i free
    exact Or.inr ⟨free.1, rfl⟩
  · exact Or.inl rfl

theorem quiet_refl (ui : Ui) : Quiet ui ui := Or.inr ⟨rfl, rfl, [], (List.append_nil _).symm⟩

theorem Quiet.trans {a b c : Ui} (first : Quiet a b) (second : Quiet b c)
    (stays : b.actorTx.held = false → c.actorTx.held = false) : Quiet a c := by
  rcases first with gone | ⟨state, held, more, sent⟩
  · exact Or.inl (stays gone)
  · rcases second with gone | ⟨stateNext, heldNext, later, sentNext⟩
    · exact Or.inl gone
    · refine Or.inr ⟨stateNext.trans state, heldNext.trans held, more ++ later, ?_⟩
      rw [sentNext, sent, List.append_assoc]

theorem send_quiet (ui : Ui) (command : ActorCommand) :
    Quiet ui (orGone (ui.sendActor command)) := by
  rcases sendActor_cases ui command with failed | ⟨held, sent⟩
  · rw [failed]
    exact Or.inl rfl
  · rw [sent]
    exact Or.inr ⟨rfl, held.symm, [command], rfl⟩

theorem record_quiet (ui : Ui) (label : Text) (command : OvpnCommand) :
    Quiet ui (orGone (ui.sendAndRecord label command)) :=
  send_quiet { ui with app := ui.app.record label } (.send command)

def Form (ui after : Ui) : Prop :=
  ∃ startup ops interval verb mute, after = { ui with
    startup, ops
    app := { ui.app with bytecountInterval := interval, verbInput := verb, muteInput := mute } }

theorem form_refl (ui : Ui) : Form ui ui :=
  ⟨ui.startup, ui.ops, ui.app.bytecountInterval, ui.app.verbInput, ui.app.muteInput, rfl⟩

def FormStep (ui : Ui) (r : Sent) : Prop :=
  ∃ filled, Form ui filled ∧ (r = .ok filled ∨ ∃ label cmd, r = filled.sendAndRecord label cmd)

theorem FormStep.quiet {ui : Ui} {r : Sent} (step : FormStep ui r) : Quiet ui (orGone r) := by
  obtain ⟨filled, ⟨startup, ops, interval, verb, mute, rfl⟩, rfl | ⟨label, cmd, rfl⟩⟩ := step
  · exact quiet_refl ui
  · exact record_quiet _ label cmd

theorem record_form (ui : Ui) (label : Text) (cmd : OvpnCommand) :
    FormStep ui (ui.sendAndRecord label cmd) := ⟨ui, form_refl ui, Or.inr ⟨label, cmd, rfl⟩⟩

theorem fill_form {ui after : Ui} (form : Form ui after) : FormStep ui (.ok after) :=
  ⟨after, form, Or.inl rfl⟩

theorem connected_form {ui filled : Ui} (form : Form ui filled) (label : Text) (cmd : OvpnCommand) :
    FormStep ui (filled.sendIfConnected label cmd) := by
  unfold Ui.sendIfConnected
  split
  · exact ⟨filled, form, Or.inr ⟨label, cmd, rfl⟩⟩
  · exact fill_form form

theorem handleStartup_form (ui : Ui) (msg : StartupMsg) : FormStep ui (ui.handleStartup msg) := by
  cases msg with
  | logMode mode => exact connected_form ⟨_, _, _, _, _, rfl⟩ _ _
  | stateMode mode => exact connected_form ⟨_, _, _, _, _, rfl⟩ _ _
  | echoMode mode => exact connected_form ⟨_, _, _, _, _, rfl⟩ _ _
  | byteCountIntervalChanged value =>
    unfold Ui.handleStartup
    simp only
    split
    · exact fill_form ⟨_, _, _, _, _, rfl⟩
    · exact fill_form (form_refl ui)
  | byteCountApply => exact connected_form (form_refl ui) _ _
  | byteCountOff => exact connected_form (form_refl ui) _ _
  | holdReleaseToggled value => exact fill_form ⟨_, _, _, _, _, rfl⟩
  | queryVersionToggled value => exact fill_form ⟨_, _, _, _, _, rfl⟩

theorem handleOps_form (ui : Ui) (msg : OpsMsg) : FormStep ui (ui.handleOps msg) := by
  cases msg with
  | verbInputChanged value => exact fill_form ⟨_, _, _, _, _, rfl⟩
  | muteInputChanged value => exact fill_form ⟨_, _, _, _, _, rfl⟩
  | killInputChanged value => exact fill_form ⟨_, _, _, _, _, rfl⟩
  | clientCidChanged value => exact fill_form ⟨_, _, _, _, _, rfl⟩
  | clientKidChanged value => exact fill_form ⟨_, _, _, _, _, rfl⟩
  | clientDenyReasonChanged value => exact fill_form ⟨_, _, _, _, _, rfl⟩
  | verbReset => exact fill_form (form_refl ui)
  | verbSet =>
    unfold Ui.handleOps
    simp only
    split
    · exact record_form ui _ _
    · exact fill_form (form_refl ui)
  | muteSet =>
    unfold Ui.handleOps
    simp only
    split
    · exact record_form ui _ _
    · exact fill_form (form_refl ui)
  | killSend =>
    unfold Ui.handleOps
    simp only
    split
    · exact fill_form (form_refl ui)
    · exact record_form ui _ _
  | clientAuthNt =>
    unfold Ui.handleOps
    simp only
    split
    · exact record_form ui _ _
    · exact fill_form (form_refl ui)
  | clientDeny =>
    unfold Ui.handleOps
    simp only
    split
    · exact record_form ui _ _
    · exact fill_form (form_refl ui)
  | clientKill =>
    unfold Ui.handleOps
    simp only
    split
    · exact record_form ui _ _
    · exact fill_form (form_refl ui)
  | _ => exact record_form ui _ _

theorem sends_quiet (ui : Ui) (cmds : List OvpnCommand) :
    Quiet ui (orGone (cmds.foldlM (fun ui cmd => ui.sendActor (.send cmd)) ui)) := by
  induction cmds generalizing ui with
  | nil => exact quiet_refl ui
  | cons cmd more ih =>
    rw [List.foldlM_cons]
    rcases sendActor_cases ui (.send cmd) with failed | ⟨held, sent⟩
    · rw [failed]
      exact Or.inl rfl
    · rw [sent]
      have first : Quiet ui { ui with
          actorTx := ⟨true, ui.actorTx.room - 1, ui.actorTx.sent ++ [.send cmd]⟩ } :=
        Or.inr ⟨rfl, held.symm, [.send cmd], rfl⟩
      exact first.trans (ih _) (fun gone => by cases gone)

section Update
variable (describe : CommandParseError → Text)

theorem sendCommand_quiet (ui : Ui) : Quiet ui (ui.sendCommand describe) := by
  unfold Ui.sendCommand
  split
  · simp only
    split
    · exact record_quiet { ui with commandInput := [] } _ _
    · exact quiet_refl ui
  · exact quiet_refl ui

theorem copyLogEntry_quiet (ui : Ui) : Quiet ui ui.copyLogEntry.1 := by
  unfold Ui.copyLogEntry
  split
  · split <;> exact quiet_refl ui
  · exact quiet_refl ui

theorem copyConsoleEntry_quiet (ui : Ui) : Quiet ui ui.copyConsoleEntry.1 := by
  unfold Ui.copyConsoleEntry
  split
  · split <;> exact quiet_refl ui
  · exact quiet_refl ui

theorem selectionUp_quiet (ui : Ui) : Quiet ui ui.selectionUp := by
  unfold Ui.selectionUp
  split
  · split <;> exact quiet_refl ui
  · split <;> exact quiet_refl ui
  · exact quiet_refl ui

theorem selectionDown_quiet (ui : Ui) : Quiet ui ui.selectionDown := by
  unfold Ui.selectionDown
  split
  · split <;> exact quiet_refl ui
  · split <;> exact quiet_refl ui
  · exact quiet_refl ui

theorem toggleDemo_quiet (ui : Ui) : Quiet ui ui.toggleDemo := by
  unfold Ui.toggleDemo
  split <;> exact quiet_refl ui

theorem demoTick_spec {ui after : Ui} {rateIn rateOut : U64}
    (ticked : ui.demoTick rateIn rateOut = .ok after) :
    ∃ demo : DemoState, after = { ui with
      demoState := demo
      app := { ui.app with
        throughput := ui.app.throughput.push demo.cumulativeIn demo.cumulativeOut 1
        bytesIn := demo.cumulativeIn
        bytesOut := demo.cumulativeOut } } := by
  obtain ⟨cumulativeIn, _, rest⟩ := Results.bind_eq_ok.mp ticked
  obtain ⟨cumulativeOut, _, same⟩ := Results.bind_eq_ok.mp rest
  cases same
  exact ⟨⟨cumulativeIn, cumulativeOut⟩, rfl⟩

def Reconnects (ui after : Ui) (task : Option Task) : Prop :=
  after.connectionState = .connecting ∧ after.actorTx.held = ui.actorTx.held ∧
    ((∃ host port cmds, after.actorTx.sent = ui.actorTx.sent ++ [.connect host port cmds]) ∨
      ∃ host port cmds, task = some (.reconnect host port cmds) ∧
        after.actorTx.sent = ui.actorTx.sent ++ [.disconnect])

theorem pause_connection (ui : Ui) (startupCommands : Ui → List OvpnCommand) :
    Quiet ui (ui.pauseAndReconnect startupCommands).1 ∨
      Reconnects ui (ui.pauseAndReconnect startupCommands).1
        (ui.pauseAndReconnect startupCommands).2 := by
  unfold Ui.pauseAndReconnect
  rcases sendActor_cases ui .disconnect with failed | ⟨held, sent⟩
  · rw [failed]
    exact Or.inl (Or.inl rfl)
  · rw [sent]
    exact Or.inr ⟨rfl, held.symm, Or.inr ⟨_, _, _, rfl, rfl⟩⟩

theorem connect_connection (ui : Ui) (host port : Text) (cmds : List OvpnCommand) :
    (orGone (ui.sendActor (.connect host port cmds))).actorTx.held = false ∨
      ui.actorTx.held = true ∧
        (orGone (ui.sendActor (.connect host port cmds))).connectionState = ui.connectionState ∧
        (orGone (ui.sendActor (.connect host port cmds))).actorTx.held = true ∧
        (orGone (ui.sendActor (.connect host port cmds))).actorTx.sent =
          ui.actorTx.sent ++ [.connect host port cmds] := by
  rcases sendActor_cases ui (.connect host port cmds) with failed | ⟨held, sent⟩
  · rw [failed]
    exact Or.inl rfl
  · rw [sent]
    exact Or.inr ⟨held, rfl, rfl, rfl⟩

def Message.fromUser : Message → Bool
  | .actor _ => false
  | .reconnectReady _ _ _ => false
  | _ => true

/-- A message of the user leaves the connection alone, or asks for a new one. -/
theorem update_connection {ui after : Ui} {msg : Message} {task : Option Task}
    (user : msg.fromUser = true) (updated : ui.update describe msg = .ok (after, task)) :
    Quiet ui after ∨ Reconnects ui after task := by
  cases msg with
  | actor event => cases user
  | reconnectReady host port cmds => cases user
  | connect =>
    cases updated
    let reset := { ui with connectionState := .connecting, lastError := none }.resetSessionData
    rcases connect_connection reset reset.host reset.port reset.buildStartupCommands with
      gone | ⟨held, state, kept, sent⟩
    · exact Or.inl (Or.inl gone)
    · exact Or.inr ⟨state, kept.trans held.symm, Or.inl ⟨_, _, _, sent⟩⟩
  | verbReset =>
    have result := pause_connection ui Ui.verbResetCommands
    rw [Except.ok.inj updated] at result
    exact result
  | reconnect =>
    have result := pause_connection ui Ui.buildStartupCommands
    rw [Except.ok.inj updated] at result
    exact result
  | ops msg =>
    by_cases reset : msg = .verbReset
    · subst reset
      have result := pause_connection { ui with app := { ui.app with verbInput := lit "4" } }
        Ui.verbResetCommands
      rw [Except.ok.inj updated] at result
      exact result
    · have handled : ui.update describe (.ops msg) = (orGone (ui.handleOps msg)).settled := by
        cases msg <;> first | rfl | exact absurd rfl reset
      rw [handled] at updated
      cases updated
      exact Or.inl (handleOps_form ui msg).quiet
  | startup msg =>
    cases updated
    exact Or.inl (handleStartup_form ui msg).quiet
  | disconnect =>
    cases updated
    exact Or.inl (send_quiet ui .disconnect)
  | refreshStatus =>
    cases updated
    exact Or.inl (sends_quiet ui _)
  | sendCommand =>
    cases updated
    exact Or.inl (sendCommand_quiet describe ui)
  | copyLogEntry =>
    have result := copyLogEntry_quiet ui
    rw [Except.ok.inj updated] at result
    exact Or.inl result
  | copyConsoleEntry =>
    have result := copyConsoleEntry_quiet ui
    rw [Except.ok.inj updated] at result
    exact Or.inl result
  | copySelection =>
    simp only [Ui.update] at updated
    split at updated
    · have result := copyLogEntry_quiet ui
      rw [Except.ok.inj updated] at result
      exact Or.inl result
    · have result := copyConsoleEntry_quiet ui
      rw [Except.ok.inj updated] at result
      exact Or.inl result
    · cases updated
      exact Or.inl (quiet_refl ui)
  | selectionUp =>
    cases updated
    exact Or.inl (selectionUp_quiet ui)
  | selectionDown =>
    cases updated
    exact Or.inl (selectionDown_quiet ui)
  | toggleDemoChart =>
    cases updated
    exact Or.inl (toggleDemo_quiet ui)
  | demoChartTick rateIn rateOut =>
    obtain ⟨mid, ticked, settled⟩ := Results.bind_eq_ok.mp updated
    obtain ⟨demo, rfl⟩ := demoTick_spec ticked
    cases settled
    exact Or.inl (quiet_refl ui)
  | _ =>
    cases updated
    exact Or.inl (quiet_refl ui)

end Update

/-! Typed commands -/

def Fresh (ui : Ui) : Prop := ui.revalidateCommand.commandValid = ui.commandValid

theorem fresh_new : Fresh .new := by
  have nothing : trim ([] : Text) = [] := rfl
  simp [Fresh, Ui.revalidateCommand, Ui.new, nothing]

theorem revalidate_fresh (ui : Ui) : Fresh ui.revalidateCommand := rfl

theorem Fresh.same {ui after : Ui} (fresh : Fresh ui) (input : after.commandInput = ui.commandInput)
    (rawMode : after.rawMode = ui.rawMode) (valid : after.commandValid = ui.commandValid) :
    Fresh after := by
  unfold Fresh Ui.revalidateCommand at *
  simp only [input, rawMode, valid]
  exact fresh

theorem pause_fresh {ui : Ui} (fresh : Fresh ui) (startupCommands : Ui → List OvpnCommand) :
    Fresh (ui.pauseAndReconnect startupCommands).1 := by
  unfold Ui.pauseAndReconnect
  rcases sendActor_cases ui .disconnect with failed | ⟨_, sent⟩
  · rw [failed]
    exact fresh.same rfl rfl rfl
  · rw [sent]
    exact fresh.same rfl rfl rfl

theorem copyLogEntry_fresh {ui : Ui} (fresh : Fresh ui) : Fresh ui.copyLogEntry.1 := by
  unfold Ui.copyLogEntry
  split
  · split
    · exact fresh.same rfl rfl rfl
    · exact revalidate_fresh ui
  · exact revalidate_fresh ui

theorem copyConsoleEntry_fresh {ui : Ui} (fresh : Fresh ui) : Fresh ui.copyConsoleEntry.1 := by
  unfold Ui.copyConsoleEntry
  split
  · split
    · exact fresh.same rfl rfl rfl
    · exact revalidate_fresh ui
  · exact revalidate_fresh ui

section Update
variable (describe : CommandParseError → Text)

theorem sendCommand_fresh {ui : Ui} (fresh : Fresh ui) : Fresh (ui.sendCommand describe) := by
  unfold Ui.sendCommand
  split
  · simp only
    split
    · exact revalidate_fresh _
    · exact revalidate_fresh _
  · exact fresh

/-- Every update ends with the verdict up to date; the ones that return early have not touched the
    input. -/
theorem update_fresh {ui after : Ui} (fresh : Fresh ui) {msg : Message} {task : Option Task}
    (updated : ui.update describe msg = .ok (after, task)) : Fresh after := by
  cases msg with
  | verbReset =>
    have result := pause_fresh fresh Ui.verbResetCommands
    rw [Except.ok.inj updated] at result
    exact result
  | reconnect =>
    have result := pause_fresh fresh Ui.buildStartupCommands
    rw [Except.ok.inj updated] at result
    exact result
  | ops msg =>
    by_cases reset : msg = .verbReset
    · subst reset
      let four : Ui := { ui with app := { ui.app with verbInput := lit "4" } }
      have still : Fresh four := fresh.same rfl rfl rfl
      have result := pause_fresh still Ui.verbResetCommands
      rw [Except.ok.inj updated] at result
      exact result
    · have handled : ui.update describe (.ops msg) = (orGone (ui.handleOps msg)).settled := by
        cases msg <;> first | rfl | exact absurd rfl reset
      rw [handled] at updated
      cases updated
      exact revalidate_fresh _
  | actor event =>
    obtain ⟨mid, _, settled⟩ := Results.bind_eq_ok.mp updated
    cases settled
    exact revalidate_fresh mid
  | demoChartTick rateIn rateOut =>
    obtain ⟨mid, _, settled⟩ := Results.bind_eq_ok.mp updated
    cases settled
    exact revalidate_fresh mid
  | sendCommand =>
    cases updated
    exact sendCommand_fresh describe fresh
  | copyLogEntry =>
    have result := copyLogEntry_fresh fresh
    rw [Except.ok.inj updated] at result
    exact result
  | copyConsoleEntry =>
    have result := copyConsoleEntry_fresh fresh
    rw [Except.ok.inj updated] at result
    exact result
  | copySelection =>
    simp only [Ui.update] at updated
    split at updated
    · have result := copyLogEntry_fresh fresh
      rw [Except.ok.inj updated] at result
      exact result
    · have result := copyConsoleEntry_fresh fresh
      rw [Except.ok.inj updated] at result
      exact result
    · cases updated
      exact revalidate_fresh ui
  | _ =>
    cases updated
    exact revalidate_fresh _

/- The command that an input stands for: raw mode takes what parses, otherwise the input has to be
   a known command. -/
def accepted (rawMode : Bool) (input : Text) : Option OvpnCommand :=
  match OvpnCommand.fromStr (trim input) with
  | .ok cmd => if rawMode || (decide (trim input ≠ []) && !isRaw cmd) then some cmd else none
  | .error _ => none

theorem Fresh.verdict {ui : Ui} (fresh : Fresh ui) :
    ui.commandValid = (ui.rawMode || (accepted false ui.commandInput).isSome) := by
  simp only [Fresh, Ui.revalidateCommand] at fresh
  rw [← fresh, accepted]
  cases ui.rawMode with
  | true => rfl
  | false =>
    cases OvpnCommand.fromStr (trim ui.commandInput) with
    | error e => simp
    | ok cmd =>
      simp only [Bool.false_or, Bool.false_eq_true, if_false]
      generalize (decide (trim ui.commandInput ≠ []) && !isRaw cmd) = known
      cases known <;> rfl

def recorded (ui : Ui) : List CommandHistoryEntry :=
  match OvpnCommand.fromStr (trim ui.commandInput) with
  | .ok cmd =>
    if ui.rawMode || (decide (trim ui.commandInput ≠ []) && !isRaw cmd) then
      keepLast maxCommandHistory (ui.app.commandHistory ++ [⟨trim ui.commandInput, []⟩])
    else ui.app.commandHistory
  | .error e =>
    if ui.rawMode then
      ui.app.commandHistory ++ [⟨trim ui.commandInput, [lit "parse error: " ++ describe e]⟩]
    else ui.app.commandHistory

theorem record_spec (ui : Ui) (label : Text) (cmd : OvpnCommand) :
    (orGone (ui.sendAndRecord label cmd)).actorTx.sent = ui.actorTx.sent ++
        (if ui.actorTx.held = true ∧ 0 < ui.actorTx.room then [.send cmd] else []) ∧
      (orGone (ui.sendAndRecord label cmd)).app = ui.app.record label := by
  by_cases free : ui.actorTx.held = true ∧ 0 < ui.actorTx.room
  · simp only [Ui.sendAndRecord, Ui.sendActor, if_pos free]
    exact ⟨rfl, rfl⟩
  · simp only [Ui.sendAndRecord, Ui.sendActor, if_neg free, List.append_nil]
    exact ⟨rfl, rfl⟩

theorem sendCommand_spec {ui : Ui} (fresh : Fresh ui) :
    (ui.sendCommand describe).actorTx.sent = ui.actorTx.sent ++
        (if ui.actorTx.held = true ∧ 0 < ui.actorTx.room then
          (accepted ui.rawMode ui.commandInput).toList.map .send else []) ∧
      (ui.sendCommand describe).app.commandHistory = recorded describe ui := by
  simp only [Fresh, Ui.revalidateCommand] at fresh
  unfold accepted recorded
  cases parsed : OvpnCommand.fromStr (trim ui.commandInput) with
  | error e =>
    rw [parsed] at fresh
    cases raw : ui.rawMode with
    | true =>
      have valid : ui.commandValid = true := by simpa [raw] using fresh.symm
      simp only [Ui.sendCommand, if_pos valid, parsed]
      simp [Ui.revalidateCommand]
    | false =>
      have refused : ¬ ui.commandValid = true := by simp [← fresh, raw]
      rw [Ui.sendCommand, if_neg refused]
      simp
  | ok cmd =>
    rw [parsed] at fresh
    have verdict : (ui.rawMode || (decide (trim ui.commandInput ≠ []) && !isRaw cmd)) =
        ui.commandValid := by
      rw [← fresh]
      cases ui.rawMode <;> rfl
    simp only [verdict]
    by_cases valid : ui.commandValid = true
    · obtain ⟨sent, app⟩ := record_spec { ui with commandInput := [] } (trim ui.commandInput) cmd
      simp only [Ui.sendCommand, parsed, if_pos valid]
      exact ⟨sent, congrArg App.commandHistory app⟩
    · rw [Ui.sendCommand, if_neg valid, if_neg valid, if_neg valid]
      simp

end Update

end MgmtUpdates
