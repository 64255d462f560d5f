import OpenvpnMgmt.Desktop

/-!
What the dashboard shows. The data of the server are a replay of the messages that were delivered
since the last session began, and of the demo; the chart has the differences of neighbouring byte
counts. Nothing grows without a bound but the console, and that only by what is mistyped in raw
mode.
-/
namespace MgmtDashboard
open TextOps Utf8Text MgmtValues MgmtCommand MgmtMessage MgmtApp MgmtUpdates MgmtDesktop
open MgmtActor (ActorEvent quiet)

/-! What an update does to the data -/

def free (ui : Ui) : Bool := ui.actorTx.held && decide (0 < ui.actorTx.room)

def resets (ui : Ui) : Message → Bool
  | .connect => true
  | .reconnect => free ui
  | .verbReset => free ui
  | .ops .verbReset => free ui
  | _ => false

/- Raw mode keeps what does not parse. -/
def mistyped (ui : Ui) : Message → Bool
  | .sendCommand => ui.rawMode && (OvpnCommand.fromStr (trim ui.commandInput)).toOption.isNone
  | _ => false

/-- What the data are made of: the messages, each with the interval of the byte counts it was heard
    at, and in a debug build what the demo does to the chart. -/
inductive Entry where
  | message (msg : OvpnMessage) (interval : U32)
  | demoStart
  | demoCount (bytesIn bytesOut : U64)

def hear (app : App) : Entry → Checked App
  | .message msg interval => { app with bytecountInterval := interval }.handleOvpnMessage msg
  | .demoStart => .ok { app with throughput := .default }
  | .demoCount bytesIn bytesOut =>
    .ok { app with throughput := app.throughput.push bytesIn bytesOut 1, bytesIn, bytesOut }

def replay (session : List Entry) : Checked App := session.foldlM hear App.new

def demoEntries (ui : Ui) : Message → List Entry
  | .toggleDemoChart => if ui.demoChart then [] else [.demoStart]
  | .demoChartTick rateIn rateOut =>
    [.demoCount (ui.demoState.cumulativeIn + rateIn) (ui.demoState.cumulativeOut + rateOut)]
  | _ => []

/- The data without the inputs of the user and without the console. -/
def serverData (app : App) : App :=
  { app with
    bytecountInterval := 0
    verbInput := []
    muteInput := []
    commandHistory := []
    awaitingCommandResponse := false }

inductive Noted (typo : Bool) : List CommandHistoryEntry → List CommandHistoryEntry → Prop
  | same (history : List CommandHistoryEntry) : Noted typo history history
  | sent (history : List CommandHistoryEntry) (entry : CommandHistoryEntry) :
    Noted typo history (keepLast maxCommandHistory (history ++ [entry]))
  | mistyped (history : List CommandHistoryEntry) (entry : CommandHistoryEntry)
    (failed : typo = true) : Noted typo history (history ++ [entry])

def Plain (typo : Bool) (app after : App) : Prop :=
  serverData after = serverData app ∧ Noted typo app.commandHistory after.commandHistory

theorem plain_refl (typo : Bool) (app : App) : Plain typo app app := ⟨rfl, .same _⟩

theorem record_plain (typo : Bool) (app : App) (label : Text) : Plain typo app (app.record label) :=
  ⟨rfl, .sent _ _⟩

theorem record_app (ui : Ui) (label : Text) (cmd : OvpnCommand) :
    (orGone (ui.sendAndRecord label cmd)).app = ui.app.record label := by
  unfold Ui.sendAndRecord
  rcases sendActor_cases { ui with app := ui.app.record label } (.send cmd) with failed | ⟨_, sent⟩
  · rw [failed]
    rfl
  · rw [sent]
    rfl

theorem form_plain {ui : Ui} {r : Sent} (step : FormStep ui r) :
    Plain false ui.app (orGone r).app := by
  obtain ⟨filled, ⟨startup, ops, interval, verb, mute, rfl⟩, rfl | ⟨label, cmd, rfl⟩⟩ := step
  · exact ⟨rfl, .same _⟩
  · rw [record_app]
    exact ⟨rfl, .sent _ _⟩

theorem send_app (ui : Ui) (command : MgmtActor.ActorCommand) :
    (orGone (ui.sendActor command)).app = ui.app := by
  rcases sendActor_cases ui command with failed | ⟨_, sent⟩
  · rw [failed]
    rfl
  · rw [sent]
    rfl

theorem sends_app (ui : Ui) (cmds : List OvpnCommand) :
    (orGone (cmds.foldlM (fun ui cmd => ui.sendActor (.send cmd)) ui)).app = ui.app := by
  induction cmds generalizing ui with
  | nil => rfl
  | cons cmd more ih =>
    rw [List.foldlM_cons]
    rcases sendActor_cases ui (.send cmd) with failed | ⟨held, sent⟩
    · rw [failed]
      rfl
    · rw [sent]
      exact ih { ui with actorTx := ⟨true, ui.actorTx.room - 1, ui.actorTx.sent ++ [.send cmd]⟩ }

theorem pause_app (ui : Ui) (startupCommands : Ui → List OvpnCommand) :
    (ui.pauseAndReconnect startupCommands).1.app =
      if free ui then ui.app.resetSessionData else ui.app := by
  unfold Ui.pauseAndReconnect
  by_cases able : ui.actorTx.held = true ∧ 0 < ui.actorTx.room
  · have yes : free ui = true := by simp [free, able]
    simp only [Ui.sendActor, if_pos able, yes, if_true]
    rfl
  · have no : free ui = false := by
      rw [free, Bool.eq_false_iff]
      intro both
      rw [Bool.and_eq_true, decide_eq_true_eq] at both
      exact able both
    simp only [Ui.sendActor, if_neg able, no]
    rfl

theorem selectionUp_app (ui : Ui) : ui.selectionUp.app = ui.app := by
  unfold Ui.selectionUp
  split
  · split <;> rfl
  · split <;> rfl
  · rfl

theorem selectionDown_app (ui : Ui) : ui.selectionDown.app = ui.app := by
  unfold Ui.selectionDown
  split
  · split <;> rfl
  · split <;> rfl
  · rfl

theorem copyLogEntry_app (ui : Ui) : ui.copyLogEntry.1.app = ui.app := by
  unfold Ui.copyLogEntry
  split
  · split <;> rfl
  · rfl

theorem copyConsoleEntry_app (ui : Ui) : ui.copyConsoleEntry.1.app = ui.app := by
  unfold Ui.copyConsoleEntry
  split
  · split <;> rfl
  · rfl

section Update
variable {describe : CommandParseError → Text}

theorem sendCommand_plain {ui : Ui} (fresh : Fresh ui) :
    Plain (mistyped ui .sendCommand) ui.app (ui.sendCommand describe).app := by
  by_cases valid : ui.commandValid = true
  · cases parsed : OvpnCommand.fromStr (trim ui.commandInput) with
    | ok cmd =>
      simp only [Ui.sendCommand, if_pos valid, parsed]
      change Plain _ ui.app (orGone (Ui.sendAndRecord _ _ _)).app
      rw [record_app]
      exact record_plain _ ui.app _
    | error e =>
      -- Outside raw mode the verdict would have been no.
      have raw : ui.rawMode = true := by
        simp only [Fresh, Ui.revalidateCommand, parsed] at fresh
        rw [valid] at fresh
        simpa using fresh
      simp only [Ui.sendCommand, if_pos valid, parsed]
      exact ⟨rfl, .mistyped _ _ (by simp [mistyped, raw, parsed, Except.toOption])⟩
  · rw [Ui.sendCommand, if_neg valid]
    exact plain_refl _ _

/-- An update that hears nothing begins a session, or leaves the data of the server, or is the
    demo's. -/
inductive Changed (app : App) : Bool → Bool → List Entry → App → Prop
  | resets (typo : Bool) : Changed app true typo [] app.resetSessionData
  | plain {typo : Bool} {after : App} (plain : Plain typo app after) : Changed app false typo [] after
  | demo {typo : Bool} {entry : Entry} {after : App} (heard : hear app entry = .ok after)
    (invented : ∀ msg interval, entry ≠ .message msg interval) :
    Changed app false typo [entry] after

theorem unchanged (typo : Bool) {app after : App} (same : after = app) :
    Changed app false typo [] after := by
  subst same
  exact .plain (plain_refl typo after)

theorem pause_changed {ui : Ui} {app : App} (input : Plain false app ui.app)
    (reset : ui.app.resetSessionData = app.resetSessionData)
    (startupCommands : Ui → List OvpnCommand) :
    Changed app (free ui) false [] (ui.pauseAndReconnect startupCommands).1.app := by
  rw [pause_app]
  cases able : free ui with
  | true =>
    rw [if_pos rfl, reset]
    exact .resets false
  | false => exact .plain input

theorem toggleDemo_changed (ui : Ui) :
    Changed ui.app false false (demoEntries ui .toggleDemoChart) ui.toggleDemo.app := by
  cases shown : ui.demoChart with
  | true =>
    simp only [Ui.toggleDemo, demoEntries, shown, if_true]
    exact unchanged false rfl
  | false =>
    simp only [Ui.toggleDemo, demoEntries, shown, Bool.false_eq_true, if_false]
    exact .demo rfl (by simp)

theorem demoTick_counts {ui after : Ui} {rateIn rateOut : U64}
    (ticked : ui.demoTick rateIn rateOut = .ok after) :
    hear ui.app (.demoCount (ui.demoState.cumulativeIn + rateIn)
      (ui.demoState.cumulativeOut + rateOut)) = .ok after.app := by
  obtain ⟨cumulativeIn, first, rest⟩ := Results.bind_eq_ok.mp ticked
  obtain ⟨cumulativeOut, second, same⟩ := Results.bind_eq_ok.mp rest
  cases same
  simp only [addChecked, ite_eq_iff, Except.ok.injEq, reduceCtorEq, and_false, or_false] at first second
  rw [first.2, second.2]
  rfl

theorem update_app {ui after : Ui} (fresh : Fresh ui) {msg : Message} {task : Option Task}
    (updated : ui.update describe msg = .ok (after, task)) (deaf : ∀ event, msg ≠ .actor event) :
    Changed ui.app (resets ui msg) (mistyped ui msg) (demoEntries ui msg) after.app := by
  cases msg with
  | actor event => exact absurd rfl (deaf event)
  | connect =>
    cases updated
    change Changed ui.app true false [] (orGone (Ui.sendActor _ _)).app
    rw [send_app]
    exact .resets false
  | reconnectReady host port cmds =>
    cases updated
    exact unchanged false (send_app ui _)
  | disconnect =>
    cases updated
    exact unchanged false (send_app ui _)
  | refreshStatus =>
    cases updated
    exact unchanged false (sends_app ui _)
  | reconnect =>
    have result := pause_changed (plain_refl false ui.app) rfl Ui.buildStartupCommands
    rw [Except.ok.inj updated] at result
    exact result
  | verbReset =>
    have result := pause_changed (plain_refl false ui.app) rfl Ui.verbResetCommands
    rw [Except.ok.inj updated] at result
    exact result
  | ops msg =>
    by_cases reset : msg = .verbReset
    · subst reset
      let four : Ui := { ui with app := { ui.app with verbInput := lit "4" } }
      have input : Plain false ui.app four.app := ⟨rfl, .same _⟩
      have result := pause_changed input rfl Ui.verbResetCommands
      rw [Except.ok.inj updated] at result
      exact result
    · have handled : ui.update describe (.ops msg) = (orGone (ui.handleOps msg)).settled := by
        cases msg <;> first | rfl | exact absurd rfl reset
      have keeps : resets ui (.ops msg) = false := by
        cases msg <;> first | rfl | exact absurd rfl reset
      rw [handled] at updated
      cases updated
      rw [keeps]
      exact .plain (form_plain (handleOps_form ui msg))
  | startup msg =>
    cases updated
    exact .plain (form_plain (handleStartup_form ui msg))
  | sendCommand =>
    cases updated
    exact .plain (sendCommand_plain fresh)
  | copyLogEntry =>
    have result := copyLogEntry_app ui
    rw [Except.ok.inj updated] at result
    exact unchanged false result
  | copyConsoleEntry =>
    have result := copyConsoleEntry_app ui
    rw [Except.ok.inj updated] at result
    exact unchanged false result
  | copySelection =>
    simp only [Ui.update] at updated
    split at updated
    · have result := copyLogEntry_app ui
      rw [Except.ok.inj updated] at result
      exact unchanged false result
    · have result := copyConsoleEntry_app ui
      rw [Except.ok.inj updated] at result
      exact unchanged false result
    · cases updated
      exact unchanged false rfl
  | selectionUp =>
    cases updated
    exact unchanged false (selectionUp_app ui)
  | selectionDown =>
    cases updated
    exact unchanged false (selectionDown_app ui)
  | toggleDemoChart =>
    cases updated
    exact toggleDemo_changed ui
  | demoChartTick rateIn rateOut =>
    obtain ⟨mid, ticked, settled⟩ := Results.bind_eq_ok.mp updated
    cases settled
    have heard := demoTick_counts ticked
    exact .demo heard (by simp)
  | _ =>
    cases updated
    exact unchanged false rfl

end Update

/-! What a message does to the data -/

theorem appendCommandResponseLines_serverData (app : App) (lines : List Text) :
    serverData (app.appendCommandResponseLines lines) = serverData app := by
  unfold App.appendCommandResponseLines
  split <;> rfl

theorem ingestState_serverData (app : App) (lines : List Text) :
    serverData (app.ingestState lines) = serverData ((serverData app).ingestState lines) := by
  unfold App.ingestState
  split <;> rfl

theorem handleClient_serverData (app : App) (interval : U32) (event : ClientEvent) (cid : U64)
    (kid : Option U64) (env : Env) :
    serverData ({ app with bytecountInterval := interval }.handleClient event cid kid env) =
      serverData ({ serverData app with bytecountInterval := interval }.handleClient event cid kid
        env) := by
  unfold App.handleClient
  by_cases enters : (event.toText = lit "CONNECT" ∨ event.toText = lit "REAUTH" ∨
      event.toText = lit "ESTABLISHED") ∧ ¬ app.clients.any (·.cid = cid)
  · apply (congrArg serverData (if_pos enters)).trans
    symm
    apply (congrArg serverData (if_pos enters)).trans
    rfl
  · apply (congrArg serverData (if_neg enters)).trans
    symm
    apply (congrArg serverData (if_neg enters)).trans
    split <;> rfl

theorem handleNotification_serverData (app : App) (interval : U32) (n : Notification) :
    serverData <$> { app with bytecountInterval := interval }.handleNotification n =
      serverData <$>
        { serverData app with bytecountInterval := interval }.handleNotification n := by
  cases n with
  | client event cid kid env =>
    exact congrArg Except.ok (handleClient_serverData app interval event cid kid env)
  | password sub => cases sub <;> rfl
  | state entry =>
    simp only [App.handleNotification, App.handleState]
    cases orOverflow (MgmtTimestamp.formatTimestamp entry.timestamp.seconds) <;> rfl
  | log timestamp level message =>
    simp only [App.handleNotification]
    cases orOverflow (MgmtTimestamp.formatTimestamp timestamp.seconds) <;> rfl
  | echo timestamp param =>
    simp only [App.handleNotification]
    cases orOverflow (MgmtTimestamp.formatTimestamp timestamp.seconds) <;> rfl
  | rsaSign data =>
    simp only [App.handleNotification]
    cases preview data <;> rfl
  | pkSign data algorithm =>
    simp only [App.handleNotification]
    cases preview data <;> rfl
  | _ => rfl

theorem handleOvpnMessage_serverData (app : App) (msg : OvpnMessage) (interval : U32) :
    serverData <$> hear app (.message msg interval) =
      serverData <$> hear (serverData app) (.message msg interval) := by
  cases msg with
  | notification n => exact handleNotification_serverData app interval n
  | multiLine lines =>
    apply congrArg Except.ok
    rw [appendCommandResponseLines_serverData, appendCommandResponseLines_serverData]
    unfold App.ingestMultiline
    rw [ingestState_serverData]
    symm
    rw [ingestState_serverData]
    rfl
  | success payload =>
    apply congrArg Except.ok
    unfold App.appendCommandResponse
    rw [appendCommandResponseLines_serverData, appendCommandResponseLines_serverData]
    rfl
  | error payload =>
    apply congrArg Except.ok
    unfold App.appendCommandResponse
    rw [appendCommandResponseLines_serverData, appendCommandResponseLines_serverData]
    rfl
  | pkcs11IdEntry index id blob =>
    apply congrArg Except.ok
    unfold App.appendCommandResponse
    rw [appendCommandResponseLines_serverData, appendCommandResponseLines_serverData]
    rfl
  | _ => rfl

theorem hear_serverData (app : App) (entry : Entry) :
    serverData <$> hear app entry = serverData <$> hear (serverData app) entry := by
  cases entry with
  | message msg interval => exact handleOvpnMessage_serverData app msg interval
  | demoStart => rfl
  | demoCount bytesIn bytesOut => rfl

theorem hear_same {a b after : App} (same : serverData a = serverData b) {entry : Entry}
    (heard : hear b entry = .ok after) :
    ∃ other, hear a entry = .ok other ∧ serverData other = serverData after := by
  have agrees : serverData <$> hear a entry = serverData <$> hear b entry := by
    rw [hear_serverData a, same, ← hear_serverData b]
  rw [heard] at agrees
  obtain ⟨other, result, equal⟩ := Results.map_eq_ok.mp agrees
  exact ⟨other, result, equal⟩

/-! The session -/

section Tracing
variable (engine : Bytes → Text) (describe : CommandParseError → Text)

def sessionIn (d : Desktop) (session : List Entry) : Move → List Entry
  | .user room msg =>
    if msg.fromUser then
      if resets (ready d room) msg then [] else session ++ demoEntries d.ui msg
    else session
  | .deliver _ =>
    match d.events with
    | .message msg :: _ => session ++ [.message msg d.ui.app.bytecountInterval]
    | _ => session
  | _ => session

def sessionBy (d : Desktop) (session : List Entry) : List Move → List Entry
  | [] => session
  | move :: more =>
    match d.step engine describe move with
    | .ok next => sessionBy next (sessionIn d session move) more
    | .error _ => session

def typosIn (d : Desktop) : Move → Nat
  | .user room msg => if msg.fromUser && mistyped (ready d room) msg then 1 else 0
  | _ => 0

def typosBy (d : Desktop) : List Move → Nat
  | [] => 0
  | move :: more =>
    match d.step engine describe move with
    | .ok next => typosIn d move + typosBy next more
    | .error _ => 0

end Tracing

def Replays (session : List Entry) (app : App) : Prop :=
  ∃ other, replay session = .ok other ∧ serverData other = serverData app

theorem replays_start (interval : U32) :
    Replays [] { App.new with bytecountInterval := interval } :=
  ⟨App.new, rfl, rfl⟩

theorem replays_hear {session : List Entry} {app after : App} (replays : Replays session app)
    {entry : Entry} (heard : hear app entry = .ok after) : Replays (session ++ [entry]) after := by
  obtain ⟨other, replayed, same⟩ := replays
  obtain ⟨next, result, equal⟩ := hear_same same heard
  refine ⟨next, ?_, equal⟩
  rw [replay, List.foldlM_append, ← replay, replayed]
  change (hear other _ >>= pure) = _
  rw [result]
  rfl

section Steps
variable {engine : Bytes → Text} {describe : CommandParseError → Text}

theorem user_deaf {msg : Message} (user : msg.fromUser = true) (event : ActorEvent) :
    msg ≠ .actor event := by
  intro same
  subst same
  cases user

theorem changed_replays {session demo : List Entry} {reset typo : Bool} {app after : App}
    (replays : Replays session app) (changed : Changed app reset typo demo after) :
    Replays (if reset then [] else session ++ demo) after := by
  cases changed with
  | resets => exact replays_start app.bytecountInterval
  | plain plain =>
    obtain ⟨other, replayed, equal⟩ := replays
    exact ⟨other, by simpa using replayed, equal.trans plain.1.symm⟩
  | demo heard => exact replays_hear replays heard

theorem event_app {ui after : Ui} {event : ActorEvent} {task : Option Task}
    (updated : ui.update describe (.actor event) = .ok (after, task)) :
    match event with
    | .message msg => ui.app.handleOvpnMessage msg = .ok after.app
    | _ => after.app = ui.app := by
  cases event with
  | connected =>
    cases updated
    rfl
  | disconnected reason =>
    cases updated
    rfl
  | message msg =>
    simp only [Ui.update, Ui.handleActor] at updated
    cases handled : ui.app.handleOvpnMessage msg with
    | error e =>
      rw [handled] at updated
      cases updated
    | ok app =>
      rw [handled] at updated
      cases updated
      exact handled

theorem step_replays {d next : Desktop} (fresh : Fresh d.ui) {session : List Entry}
    (replays : Replays session d.ui.app) {move : Move}
    (stepped : d.step engine describe move = .ok next) :
    Replays (sessionIn d session move) next.ui.app := by
  cases move with
  | user room msg =>
    simp only [Desktop.step] at stepped
    split at stepped
    · rename_i user
      obtain ⟨ui, task, updated, rfl⟩ := turn_ok stepped
      have still : Fresh (ready d room) := fresh.same rfl rfl rfl
      simp only [sessionIn, user, if_true]
      exact changed_replays replays (update_app still updated (user_deaf user))
    · rename_i other
      cases stepped
      simp only [sessionIn, other]
      exact replays
  | deliver room =>
    cases queue : d.events with
    | nil =>
      simp only [Desktop.step, queue] at stepped
      cases stepped
      simp only [sessionIn, queue]
      exact replays
    | cons event events =>
      simp only [Desktop.step, queue] at stepped
      obtain ⟨ui, task, updated, rfl⟩ := turn_ok stepped
      have app := event_app updated
      simp only [sessionIn, queue]
      cases event with
      | connected =>
        change Replays session ui.app
        rw [app]
        exact replays
      | disconnected reason =>
        change Replays session ui.app
        rw [app]
        exact replays
      | message msg => exact replays_hear replays app
  | resume room i =>
    cases pause : d.pauses[i]? with
    | none =>
      simp only [Desktop.step, pause] at stepped
      cases stepped
      exact replays
    | some waiting =>
      simp only [Desktop.step, pause] at stepped
      obtain ⟨ui, task, updated, rfl⟩ := turn_ok stepped
      have still : Fresh (ready { d with pauses := d.pauses.eraseIdx i } room) :=
        fresh.same rfl rfl rfl
      have changed := update_app still updated (by intro event same; cases same)
      have result := changed_replays replays changed
      change Replays (session ++ []) ui.app at result
      rwa [List.append_nil] at result
  | actor io o =>
    simp only [Desktop.step] at stepped
    split at stepped
    · cases stepped
      exact replays
    · cases stepped
      exact replays

theorem run_replays {d last : Desktop} (fresh : Fresh d.ui) {session : List Entry}
    (replays : Replays session d.ui.app) {moves : List Move}
    (ran : d.run engine describe moves = .ok last) :
    Replays (sessionBy engine describe d session moves) last.ui.app := by
  induction moves generalizing d session with
  | nil =>
    cases ran
    exact replays
  | cons move more ih =>
    rw [Desktop.run, List.foldlM_cons] at ran
    obtain ⟨next, stepped, rest⟩ := Results.bind_eq_ok.mp ran
    simp only [sessionBy, stepped]
    exact ih (step_fresh fresh stepped) (step_replays fresh replays stepped) rest

end Steps

/-! Without the demo -/

def isDemo : Move → Bool
  | .user _ .toggleDemoChart => true
  | .user _ (.demoChartTick _ _) => true
  | _ => false

def isMessage : Entry → Bool
  | .message _ _ => true
  | _ => false

theorem sessionIn_messages {d : Desktop} {session : List Entry}
    (messages : ∀ entry ∈ session, isMessage entry = true) {move : Move}
    (release : isDemo move = false) : ∀ entry ∈ sessionIn d session move, isMessage entry = true := by
  cases move with
  | user room msg =>
    have nothing : demoEntries d.ui msg = [] := by
      cases msg <;> first | rfl | cases release
    simp only [sessionIn, nothing, List.append_nil]
    repeat' split
    · simp
    · exact messages
    · exact messages
  | deliver room =>
    simp only [sessionIn]
    split
    · intro entry member
      rcases List.mem_append.mp member with earlier | last
      · exact messages entry earlier
      · rw [List.mem_singleton.mp last]
        rfl
    · exact messages
  | resume room i => exact messages
  | actor io o => exact messages

theorem sessionBy_messages (engine : Bytes → Text) (describe : CommandParseError → Text)
    {d : Desktop} {session : List Entry} (messages : ∀ entry ∈ session, isMessage entry = true)
    {moves : List Move} (release : ∀ move ∈ moves, isDemo move = false) :
    ∀ entry ∈ sessionBy engine describe d session moves, isMessage entry = true := by
  induction moves generalizing d session with
  | nil => exact messages
  | cons move more ih =>
    simp only [sessionBy]
    split
    · exact ih (sessionIn_messages messages (release move (by simp)))
        fun other member => release other (by simp [member])
    · exact messages

/-- In every state the client can be in, what it shows of the server is what the messages delivered
    since the last session began leave in a new client, and the demo with them where there is one,
    whatever else the user, the actor and the timers did. -/
theorem dashboard_replayed (engine : Bytes → Text) (describe : CommandParseError → Text)
    {moves : List Move} {d : Desktop} (ran : Desktop.new.run engine describe moves = .ok d) :
    let session := sessionBy engine describe .new [] moves
    (∃ app, replay session = .ok app ∧ serverData app = serverData d.ui.app) ∧
      ((∀ move ∈ moves, isDemo move = false) → ∀ entry ∈ session, isMessage entry = true) :=
  ⟨run_replays fresh_new (replays_start 2) ran,
    sessionBy_messages engine describe (List.forall_mem_nil _)⟩

def counting : List Move :=
  [.user 9 .connect, .actor quiet .take, .deliver 9,
    .actor quiet (.receive (toUtf8 (lit ">BYTECOUNT:5,6\n>BYTECOUNT:8,16\n"))), .actor quiet .poll,
    .deliver 9, .actor quiet .poll, .deliver 9]

theorem dashboard_replayed_counting :
    ∃ d app, Desktop.new.run (fun _ => []) (fun _ => []) counting = .ok d ∧
      replay (sessionBy (fun _ => []) (fun _ => []) .new [] counting) = .ok app ∧
        serverData app = serverData d.ui.app := by
  have facts : (Desktop.new.run (fun _ => []) (fun _ => []) counting).toOption.isSome = true := by
    decide +kernel
  obtain ⟨d, found⟩ := Option.isSome_iff_exists.mp facts
  have ran := Results.toOption_eq_some.mp found
  obtain ⟨⟨app, replayed, same⟩, _⟩ := dashboard_replayed _ _ ran
  exact ⟨d, app, ran, replayed, same⟩

/-! The chart -/

structure Reading where
  bytesIn : U64
  bytesOut : U64
  interval : U32

def readingOf : Entry → Option Reading
  | .message (.notification (.byteCount bytesIn bytesOut)) interval =>
    some ⟨bytesIn, bytesOut, interval⟩
  | .demoCount bytesIn bytesOut => some ⟨bytesIn, bytesOut, 1⟩
  | _ => none

def readings (session : List Entry) : List Reading := session.filterMap readingOf

/- What the session has heard since the demo last cleared the chart. -/
def sinceStart (session : List Entry) : List Entry :=
  session.foldl (fun kept entry =>
    match entry with
    | .demoStart => []
    | _ => kept ++ [entry]) []

def sampleOf (before after : Reading) : Sample :=
  ⟨after.bytesIn.toNat - before.bytesIn.toNat, after.bytesOut.toNat - before.bytesOut.toNat,
    max after.interval.toNat 1⟩

def samplesOf : List Reading → List Sample
  | a :: b :: more => sampleOf a b :: samplesOf (b :: more)
  | _ => []

def historyOf (rs : List Reading) : ThroughputHistory where
  samples := keepLast maxSamples (samplesOf rs)
  prevIn := (rs.getLast?.map (·.bytesIn)).getD 0
  prevOut := (rs.getLast?.map (·.bytesOut)).getD 0
  seeded := rs.getLast?.isSome

theorem keepLast_length {α : Type} (most : Nat) (l : List α) :
    (keepLast most l).length = min most l.length := by
  simp only [keepLast, List.length_drop]
  omega

theorem keepLast_push {α : Type} {most : Nat} (positive : 0 < most) (l : List α) (x : α) :
    (if most ≤ (keepLast most l).length then (keepLast most l).tail else keepLast most l) ++ [x] =
      keepLast most (l ++ [x]) := by
  rw [keepLast_length]
  unfold keepLast
  by_cases full : most ≤ l.length
  · rw [if_pos (by omega), List.tail_drop, List.drop_append_of_le_length (by simp; omega)]
    congr 2
    simp only [List.length_append, List.length_singleton]
    omega
  · rw [if_neg (by omega), List.drop_append_of_le_length (by simp; omega)]
    congr 2
    simp only [List.length_append, List.length_singleton]
    omega

theorem samplesOf_snoc (rs : List Reading) (a b : Reading) :
    samplesOf (rs ++ [a] ++ [b]) = samplesOf (rs ++ [a]) ++ [sampleOf a b] := by
  induction rs with
  | nil => rfl
  | cons r more ih =>
    cases more with
    | nil => rfl
    | cons s rest =>
      simp only [List.cons_append, samplesOf] at ih ⊢
      rw [ih]

theorem historyOf_snoc (rs : List Reading) (r : Reading) :
    historyOf (rs ++ [r]) = (historyOf rs).push r.bytesIn r.bytesOut r.interval := by
  induction rs using List.reverseRecOn with
  | nil => rfl
  | append_singleton init a _ =>
    have seeded : (historyOf (init ++ [a])).seeded = true := by simp [historyOf]
    rw [ThroughputHistory.push, if_pos seeded]
    simp only [historyOf, samplesOf_snoc init a r, List.getLast?_append, List.getLast?_singleton,
      Option.some_or, Option.map_some, Option.getD_some, Option.isSome_some]
    congr 1
    exact (keepLast_push (by decide) (samplesOf (init ++ [a])) (sampleOf a r)).symm

def lastIn (rs : List Reading) : U64 := (rs.getLast?.map (·.bytesIn)).getD 0

def lastOut (rs : List Reading) : U64 := (rs.getLast?.map (·.bytesOut)).getD 0

/-- The chart and the counters beside it, which the demo does not clear. -/
structure Charted (session : List Entry) (app : App) : Prop where
  history : app.throughput = historyOf (readings (sinceStart session))
  bytesIn : app.bytesIn = lastIn (readings session)
  bytesOut : app.bytesOut = lastOut (readings session)

def counters (app : App) : ThroughputHistory × U64 × U64 :=
  (app.throughput, app.bytesIn, app.bytesOut)

theorem Charted.same {session : List Entry} {app after : App} (charted : Charted session app)
    (equal : counters after = counters app) : Charted session after := by
  simp only [counters, Prod.mk.injEq] at equal
  obtain ⟨history, bytesIn, bytesOut⟩ := equal
  exact ⟨history.trans charted.history, bytesIn.trans charted.bytesIn,
    bytesOut.trans charted.bytesOut⟩

structure Hears (app after : App) : Prop where
  counters : counters after = counters app
  log : after.logEntries = app.logEntries ∨ after.logEntries.length ≤ maxLogEntries
  console : after.commandHistory.length = app.commandHistory.length

theorem Hears.trans {a b c : App} (first : Hears a b) (second : Hears b c) : Hears a c where
  counters := second.counters.trans first.counters
  log := by
    rcases second.log with same | bound
    · rcases first.log with before | bound
      · exact Or.inl (same.trans before)
      · exact Or.inr (by rw [same]; exact bound)
    · exact Or.inr bound
  console := second.console.trans first.console

theorem addLog_hears (app : App) (level : LogLevel) (timestamp message : Text) :
    Hears app (app.addLog level timestamp message) := by
  refine ⟨?_, Or.inr ?_, ?_⟩
  · simp only [MgmtDashboard.counters, App.addLog]
  · simp only [App.addLog, keepLast_length]
    omega
  · simp only [App.addLog]

theorem ingestState_hears (app : App) (lines : List Text) : Hears app (app.ingestState lines) := by
  unfold App.ingestState
  split
  · exact ⟨rfl, Or.inl rfl, rfl⟩
  · exact ⟨rfl, Or.inl rfl, rfl⟩

theorem modifyLast_length {α : Type} (f : α → α) (l : List α) :
    (l.modifyLast f).length = l.length := by
  induction l using List.reverseRecOn with
  | nil => rfl
  | append_singleton init a _ => rw [List.modifyLast_concat]; simp

theorem append_hears (app : App) (lines : List Text) :
    Hears app (app.appendCommandResponseLines lines) := by
  unfold App.appendCommandResponseLines
  split
  · exact ⟨rfl, Or.inl rfl, modifyLast_length _ _⟩
  · exact ⟨rfl, Or.inl rfl, rfl⟩

theorem clients_hears (app : App) (clients : List ClientInfo) : Hears app { app with clients } :=
  ⟨rfl, Or.inl rfl, rfl⟩

theorem handleClient_hears (app : App) (event : ClientEvent) (cid : U64) (kid : Option U64)
    (env : Env) : Hears app (app.handleClient event cid kid env) := by
  unfold App.handleClient
  simp only
  split
  · exact (addLog_hears app _ _ _).trans (clients_hears _ _)
  · split
    · exact (addLog_hears app _ _ _).trans (clients_hears _ _)
    · exact addLog_hears app _ _ _

theorem handleState_hears {app after : App} {entry : StateEntry}
    (handled : app.handleState entry = .ok after) : Hears app after := by
  obtain ⟨time, _, same⟩ := Results.bind_eq_ok.mp handled
  cases same
  refine Hears.trans ?_ (addLog_hears _ _ _ _)
  exact ⟨rfl, Or.inl rfl, rfl⟩

theorem notification_hears {app after : App} {n : Notification} {interval : U32}
    (other : readingOf (.message (.notification n) interval) = none)
    (handled : app.handleNotification n = .ok after) : Hears app after := by
  cases n with
  | byteCount bytesIn bytesOut => cases other
  | state entry => exact handleState_hears handled
  | client event cid kid env =>
    cases handled
    exact handleClient_hears app event cid kid env
  | password sub =>
    cases handled
    cases sub <;> exact addLog_hears app _ _ _
  | log | echo | rsaSign | pkSign =>
    obtain ⟨text, _, same⟩ := Results.map_eq_ok.mp handled
    subst same
    exact addLog_hears app _ _ _
  | _ =>
    cases handled
    exact addLog_hears app _ _ _

theorem message_hears {app after : App} {msg : OvpnMessage} {interval : U32}
    (other : readingOf (.message msg interval) = none) (handled : app.handleOvpnMessage msg = .ok after) :
    Hears app after := by
  cases msg with
  | notification n => exact notification_hears other handled
  | multiLine lines =>
    cases handled
    refine Hears.trans ?_ (append_hears _ _)
    refine Hears.trans ?_ (ingestState_hears _ _)
    exact ⟨rfl, Or.inl rfl, rfl⟩
  | success payload =>
    cases handled
    refine Hears.trans ?_ (append_hears _ _)
    exact ⟨rfl, Or.inl rfl, rfl⟩
  | error payload =>
    cases handled
    exact append_hears app _
  | pkcs11IdEntry index id blob =>
    cases handled
    exact append_hears app _
  | _ =>
    cases handled
    exact addLog_hears app _ _ _

theorem sinceStart_snoc (session : List Entry) (entry : Entry) :
    sinceStart (session ++ [entry]) =
      match entry with
      | .demoStart => []
      | _ => sinceStart session ++ [entry] := by
  rw [sinceStart, List.foldl_append]
  rfl

theorem charted_count {session : List Entry} {app : App} (charted : Charted session app)
    {entry : Entry} {r : Reading} (reading : readingOf entry = some r) :
    Charted (session ++ [entry]) { app with
      throughput := app.throughput.push r.bytesIn r.bytesOut r.interval
      bytesIn := r.bytesIn
      bytesOut := r.bytesOut } := by
  have kept : sinceStart (session ++ [entry]) = sinceStart session ++ [entry] := by
    rw [sinceStart_snoc]
    cases entry with
    | demoStart => cases reading
    | _ => rfl
  have one : readings [entry] = [r] := by simp [readings, reading]
  have all (l : List Entry) : readings (l ++ [entry]) = readings l ++ [r] := by
    rw [← one, readings, List.filterMap_append]
    rfl
  refine ⟨?_, by simp [all, lastIn], by simp [all, lastOut]⟩
  rw [kept, all, historyOf_snoc, charted.history]

theorem charted_other {session : List Entry} {app : App} (charted : Charted session app)
    {msg : OvpnMessage} {interval : U32} (other : readingOf (.message msg interval) = none) :
    Charted (session ++ [.message msg interval]) app := by
  have all (l : List Entry) : readings (l ++ [.message msg interval]) = readings l := by
    rw [readings, List.filterMap_append]
    simp [other, readings]
  refine ⟨?_, by rw [all]; exact charted.bytesIn, by rw [all]; exact charted.bytesOut⟩
  rw [sinceStart_snoc, all]
  exact charted.history

theorem reading_message {msg : OvpnMessage} {interval : U32} {r : Reading}
    (reading : readingOf (.message msg interval) = some r) :
    msg = .notification (.byteCount r.bytesIn r.bytesOut) ∧ interval = r.interval := by
  unfold readingOf at reading
  split at reading
  · rename_i same
    cases same
    cases reading
    exact ⟨rfl, rfl⟩
  · rename_i same
    cases same
  · cases reading

theorem hear_charted {session : List Entry} {app after : App} (charted : Charted session app)
    {entry : Entry} (heard : hear app entry = .ok after) : Charted (session ++ [entry]) after := by
  cases entry with
  | demoStart =>
    cases heard
    have all : readings (session ++ [.demoStart]) = readings session := by
      rw [readings, List.filterMap_append]
      exact List.append_nil _
    refine ⟨?_, by rw [all]; exact charted.bytesIn, by rw [all]; exact charted.bytesOut⟩
    rw [sinceStart_snoc]
    rfl
  | demoCount bytesIn bytesOut =>
    cases heard
    exact @charted_count _ _ charted (.demoCount bytesIn bytesOut) ⟨bytesIn, bytesOut, 1⟩ rfl
  | message msg interval =>
    cases reading : readingOf (.message msg interval) with
    | some r =>
      obtain ⟨rfl, rfl⟩ := reading_message reading
      cases heard
      exact (charted_count charted reading).same rfl
    | none =>
      exact (charted_other charted reading).same (message_hears reading heard).counters

theorem replay_charted {session : List Entry} {app : App} (replayed : replay session = .ok app) :
    Charted session app := by
  induction session using List.reverseRecOn generalizing app with
  | nil =>
    cases replayed
    exact ⟨rfl, rfl, rfl⟩
  | append_singleton session entry ih =>
    rw [replay, List.foldlM_append, ← replay] at replayed
    obtain ⟨before, first, last⟩ := Results.bind_eq_ok.mp replayed
    obtain ⟨after, heard, done⟩ := Results.bind_eq_ok.mp last
    cases done
    exact hear_charted (ih first) heard

theorem sinceStart_messages {session : List Entry}
    (messages : ∀ entry ∈ session, isMessage entry = true) : sinceStart session = session := by
  induction session using List.reverseRecOn with
  | nil => rfl
  | append_singleton session entry ih =>
    rw [sinceStart_snoc, ih fun other member => messages other (by simp [member])]
    cases entry with
    | demoStart => exact absurd (messages .demoStart (by simp)) (by simp [isMessage])
    | _ => rfl

/-- In every state the client can be in, the chart has the differences of neighbouring byte counts
    of this session, since the demo last cleared it, each over the interval that was set when it
    arrived, and of them the last sixty; the counters beside it are those of the last one. The counts
    are the server's and the demo's; without the demo they are the server's, and the chart has those
    of the whole session. -/
theorem chart_exact (engine : Bytes → Text) (describe : CommandParseError → Text)
    {moves : List Move} {d : Desktop} (ran : Desktop.new.run engine describe moves = .ok d) :
    let session := sessionBy engine describe .new [] moves
    Charted session d.ui.app ∧
      ((∀ move ∈ moves, isDemo move = false) →
        sinceStart session = session ∧ ∀ entry ∈ session, isMessage entry = true) := by
  intro session
  obtain ⟨app, replayed, same⟩ := run_replays fresh_new (replays_start 2) ran
  refine ⟨(replay_charted replayed).same (congrArg counters same).symm, fun release => ?_⟩
  have messages := sessionBy_messages engine describe (d := .new) (List.forall_mem_nil _) release
  exact ⟨sinceStart_messages messages, messages⟩

theorem chart_exact_counting :
    ∃ d, Desktop.new.run (fun _ => []) (fun _ => []) counting = .ok d ∧
      d.ui.app.throughput.samples = [⟨3, 10, 2⟩] ∧ d.ui.app.bytesOut = 16 := by
  have facts : (Desktop.new.run (fun _ => []) (fun _ => []) counting).toOption.isSome = true := by
    decide +kernel
  obtain ⟨d, found⟩ := Option.isSome_iff_exists.mp facts
  have ran := Results.toOption_eq_some.mp found
  obtain ⟨⟨history, _, bytesOut⟩, _⟩ := chart_exact _ _ ran
  refine ⟨d, ran, ?_, ?_⟩
  · rw [history]
    decide +kernel
  · rw [bytesOut]
    decide +kernel

/-! Limits -/

/-- The log and the chart are cut off; what is mistyped in raw mode lengthens the console. -/
structure Limited (typos : Nat) (app : App) : Prop where
  log : app.logEntries.length ≤ maxLogEntries
  chart : app.throughput.samples.length ≤ maxSamples
  console : app.commandHistory.length ≤ maxCommandHistory + typos

theorem limited_new (typos : Nat) (app : App) : Limited typos app.resetSessionData := by
  refine ⟨?_, ?_, ?_⟩ <;> simp [App.resetSessionData, App.new, ThroughputHistory.default]

theorem push_limited {h : ThroughputHistory} (limited : h.samples.length ≤ maxSamples)
    (bytesIn bytesOut : U64) (interval : U32) :
    (h.push bytesIn bytesOut interval).samples.length ≤ maxSamples := by
  have room : 0 < maxSamples := by decide
  unfold ThroughputHistory.push
  split
  · simp only
    split
    · simp only [List.length_append, List.length_tail, List.length_singleton]
      omega
    · simp only [List.length_append, List.length_singleton]
      omega
  · exact limited

theorem hear_limited {typos : Nat} {app after : App} (limited : Limited typos app) {entry : Entry}
    (heard : hear app entry = .ok after) : Limited typos after := by
  cases entry with
  | demoStart =>
    cases heard
    exact ⟨limited.log, Nat.zero_le _, limited.console⟩
  | demoCount bytesIn bytesOut =>
    cases heard
    exact ⟨limited.log, push_limited limited.chart _ _ _, limited.console⟩
  | message msg interval =>
    cases reading : readingOf (.message msg interval) with
    | some r =>
      obtain ⟨rfl, rfl⟩ := reading_message reading
      cases heard
      exact ⟨limited.log, push_limited limited.chart _ _ _, limited.console⟩
    | none =>
      obtain ⟨same, log, console⟩ := message_hears reading heard
      refine ⟨?_, ?_, ?_⟩
      · rcases log with same | bound
        · rw [same]
          exact limited.log
        · exact bound
      · have chart : after.throughput = app.throughput := congrArg Prod.fst same
        rw [chart]
        exact limited.chart
      · rw [console]
        exact limited.console

theorem noted_limited {typo : Bool} {typos : Nat} {before after : List CommandHistoryEntry}
    (noted : Noted typo before after) (limited : before.length ≤ maxCommandHistory + typos) :
    after.length ≤ maxCommandHistory + (typos + if typo then 1 else 0) := by
  cases noted with
  | same => omega
  | sent entry =>
    rw [keepLast_length]
    omega
  | mistyped entry failed =>
    rw [failed, List.length_append, List.length_singleton]
    simp only [if_true]
    omega

section Steps
variable {engine : Bytes → Text} {describe : CommandParseError → Text}

theorem Limited.more {typos : Nat} {app : App} (limited : Limited typos app) (later : Nat) :
    Limited (typos + later) app :=
  ⟨limited.log, limited.chart, by have console := limited.console; omega⟩

theorem changed_limited {reset typo : Bool} {demo : List Entry} {typos : Nat} {app after : App}
    (limited : Limited typos app) (changed : Changed app reset typo demo after) :
    Limited (typos + if typo then 1 else 0) after := by
  cases changed with
  | resets => exact limited_new _ app
  | demo heard => exact (hear_limited limited heard).more _
  | plain plain =>
    obtain ⟨same, noted⟩ := plain
    refine ⟨?_, ?_, noted_limited noted limited.console⟩
    · have log := congrArg App.logEntries same
      change after.logEntries = app.logEntries at log
      rw [log]
      exact limited.log
    · have chart := congrArg App.throughput same
      change after.throughput = app.throughput at chart
      rw [chart]
      exact limited.chart

theorem step_limited {d next : Desktop} (fresh : Fresh d.ui) {typos : Nat}
    (limited : Limited typos d.ui.app) {move : Move}
    (stepped : d.step engine describe move = .ok next) :
    Limited (typos + typosIn d move) next.ui.app := by
  cases move with
  | user room msg =>
    simp only [Desktop.step] at stepped
    split at stepped
    · rename_i user
      obtain ⟨ui, task, updated, rfl⟩ := turn_ok stepped
      have still : Fresh (ready d room) := fresh.same rfl rfl rfl
      simp only [typosIn, user, Bool.true_and]
      exact changed_limited limited (update_app still updated (user_deaf user))
    · cases stepped
      exact limited.more _
  | deliver room =>
    simp only [Desktop.step] at stepped
    split at stepped
    · cases stepped
      exact limited
    · rename_i event events _
      obtain ⟨ui, task, updated, rfl⟩ := turn_ok stepped
      have app := event_app updated
      cases event with
      | connected =>
        change Limited typos ui.app
        rw [app]
        exact limited
      | disconnected reason =>
        change Limited typos ui.app
        rw [app]
        exact limited
      | message msg =>
        exact @hear_limited typos d.ui.app _ limited (.message msg d.ui.app.bytecountInterval) app
  | resume room i =>
    simp only [Desktop.step] at stepped
    split at stepped
    · cases stepped
      exact limited
    · obtain ⟨ui, task, updated, rfl⟩ := turn_ok stepped
      have still : Fresh (ready { d with pauses := d.pauses.eraseIdx i } room) :=
        fresh.same rfl rfl rfl
      exact changed_limited limited (update_app still updated (by intro event same; cases same))
  | actor io o =>
    simp only [Desktop.step] at stepped
    split at stepped
    · cases stepped
      exact limited
    · cases stepped
      exact limited

theorem run_limited {d last : Desktop} (fresh : Fresh d.ui) {typos : Nat}
    (limited : Limited typos d.ui.app) {moves : List Move}
    (ran : d.run engine describe moves = .ok last) :
    Limited (typos + typosBy engine describe d moves) last.ui.app := by
  induction moves generalizing d typos with
  | nil =>
    cases ran
    exact limited
  | cons move more ih =>
    rw [Desktop.run, List.foldlM_cons] at ran
    obtain ⟨next, stepped, rest⟩ := Results.bind_eq_ok.mp ran
    simp only [typosBy, stepped]
    rw [← Nat.add_assoc]
    exact ih (step_fresh fresh stepped) (step_limited fresh limited stepped) rest

end Steps

/-- In every state the client can be in, the log has at most 500 entries, the chart 60 samples, and
    the console 100 entries and one for each input that was mistyped in raw mode. -/
theorem data_limited (engine : Bytes → Text) (describe : CommandParseError → Text)
    {moves : List Move} {d : Desktop} (ran : Desktop.new.run engine describe moves = .ok d) :
    d.ui.app.logEntries.length ≤ 500 ∧ d.ui.app.throughput.samples.length ≤ 60 ∧
      d.ui.app.commandHistory.length ≤ 100 + typosBy engine describe .new moves := by
  have limited := run_limited fresh_new (limited_new 0 App.new) ran
  rw [Nat.zero_add] at limited
  exact ⟨limited.log, limited.chart, limited.console⟩

def mistyping : List Move :=
  [.user 9 (.toggleRawMode true), .user 9 (.commandInputChanged (lit "kill")), .user 9 .sendCommand]

theorem data_limited_mistyping :
    ∃ d, Desktop.new.run (fun _ => []) (fun _ => []) mistyping = .ok d ∧
      typosBy (fun _ => []) (fun _ => []) .new mistyping = 1 ∧
        d.ui.app.commandHistory.length ≤ 101 := by
  have facts : (Desktop.new.run (fun _ => []) (fun _ => []) mistyping).toOption.isSome = true := by
    decide +kernel
  have typos : typosBy (fun _ => []) (fun _ => []) .new mistyping = 1 := by decide +kernel
  obtain ⟨d, found⟩ := Option.isSome_iff_exists.mp facts
  have ran := Results.toOption_eq_some.mp found
  obtain ⟨_, _, console⟩ := data_limited _ _ ran
  rw [typos] at console
  exact ⟨d, ran, typos, console⟩

end MgmtDashboard
