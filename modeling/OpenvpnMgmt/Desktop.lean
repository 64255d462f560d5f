import OpenvpnMgmt.Connections
import OpenvpnMgmt.Updates

/-!
The graphical client as a whole: the interface, the command channel, the actor, its events on their
way back and the pauses of the reconnects, in any order of steps. A step of the interface may find
any room in the channel, and events may queue up without a bound. An update that panics ends the
run.
-/
namespace MgmtDesktop
open TextOps Utf8Text MgmtEncoder MgmtCommand MgmtMessage MgmtApp MgmtUpdates MgmtConnections
open MgmtActor (Actor ActorCommand ActorEvent Output Io Occurrence Phase Link openTarget quiet submitted)

structure Desktop where
  ui : Ui
  actor : Actor
  /- Reported, and not yet delivered. -/
  events : List ActorEvent
  /- Reconnects that wait for their time. -/
  pauses : List (Text × Text × List OvpnCommand)

def Desktop.new : Desktop := ⟨.new, .new, [], []⟩

inductive Move where
  | user (room : Nat) (msg : Message)
  /-- The oldest event reaches the interface. -/
  | deliver (room : Nat)
  /-- A pause is over. -/
  | resume (room : Nat) (i : Nat)
  | actor (io : Io) (o : Occurrence)

def told : List Output → List ActorEvent
  | [] => []
  | .event event :: more => event :: told more
  | .write _ _ :: more => told more

def pauseOf : Option Task → List (Text × Text × List OvpnCommand)
  | some (.reconnect host port cmds) => [(host, port, cmds)]
  | _ => []

/- What happens to the actor by itself; the interface submits and hangs up, and is never gone. -/
def ofActor : Occurrence → Bool
  | .submit _ => false
  | .hangUp => false
  | .uiGone => false
  | _ => true

section Steps
variable (engine : Bytes → Text) (describe : CommandParseError → Text)

def Desktop.turn (d : Desktop) (room : Nat) (msg : Message) : Checked Desktop := do
  let ready := { d.ui with actorTx := { d.ui.actorTx with room, sent := [] } }
  let (ui, task) ← ready.update describe msg
  return { d with
    ui
    actor := { d.actor with
      channel := d.actor.channel ++ ui.actorTx.sent
      hungUp := d.actor.hungUp || !ui.actorTx.held }
    pauses := d.pauses ++ pauseOf task }

def Desktop.step (d : Desktop) : Move → Checked Desktop
  | .user room msg => if msg.fromUser then d.turn describe room msg else .ok d
  | .deliver room =>
    match d.events with
    | [] => .ok d
    | event :: events => { d with events }.turn describe room (.actor event)
  | .resume room i =>
    match d.pauses[i]? with
    | none => .ok d
    | some (host, port, cmds) =>
      { d with pauses := d.pauses.eraseIdx i }.turn describe room (.reconnectReady host port cmds)
  | .actor io o =>
    if ofActor o then
      let (actor, out) := MgmtActor.step engine d.actor io o
      .ok { d with actor, events := d.events ++ told out }
    else .ok d

def Desktop.run (d : Desktop) (moves : List Move) : Checked Desktop :=
  moves.foldlM (Desktop.step engine describe) d

end Steps

/-! What the interface shows and where the actor is -/

def isOpen (a : Actor) : Bool := (openTarget a).isSome

def status : ActorEvent → Option Bool
  | .connected => some true
  | .disconnected _ => some false
  | .message _ => none

def lastStatus : List ActorEvent → Option Bool
  | [] => none
  | event :: more => (lastStatus more).or (status event)

def isConnect : ActorCommand → Bool
  | .connect _ _ _ => true
  | _ => false

def Awaited (d : Desktop) : Prop := d.actor.channel.any isConnect = true ∨ d.pauses ≠ []

def Steady (d : Desktop) : Prop :=
  d.ui.connectionState = .connected ∧ isOpen d.actor = true ∨
    d.ui.connectionState = .disconnected ∧ isOpen d.actor = false ∨
      d.ui.connectionState = .connecting ∧ Awaited d

def Shown (d : Desktop) : Prop :=
  (∀ opened, lastStatus d.events = some opened → opened = isOpen d.actor) ∧
    (lastStatus d.events = none → Steady d)

/-- The actor is there, and the display follows it. -/
structure Served (d : Desktop) : Prop where
  listening : d.actor.listening = true
  hungUp : d.actor.hungUp = false
  alive : d.actor.phase ≠ .returned
  shown : Shown d

def Linked (d : Desktop) : Prop := d.ui.actorTx.held = true → Served d

theorem linked_new : Linked .new := by
  intro _
  refine ⟨rfl, rfl, by simp [Desktop.new, Actor.new], ?_, ?_⟩
  · simp [Desktop.new, lastStatus]
  · intro _
    exact Or.inr (Or.inl ⟨rfl, rfl⟩)

theorem lastStatus_append (a b : List ActorEvent) :
    lastStatus (a ++ b) = (lastStatus b).or (lastStatus a) := by
  induction a with
  | nil => simp [lastStatus]
  | cons event more ih => simp [lastStatus, ih, Option.or_assoc]

/-! The actor -/

section Actor
variable {engine : Bytes → Text}

/-- What a step of a served actor tells: where it now is, or nothing has changed and the Connects
    stay in the channel. -/
structure Tells (a : Actor) (r : Actor × List Output) : Prop where
  listening : r.1.listening = true
  hungUp : r.1.hungUp = false
  alive : r.1.phase ≠ .returned
  told : lastStatus (told r.2) = some (isOpen r.1) ∨
    lastStatus (told r.2) = none ∧ isOpen r.1 = isOpen a ∧
      (a.channel.any isConnect = true → r.1.channel.any isConnect = true)

theorem told_append (a b : List Output) : told (a ++ b) = told a ++ told b := by
  induction a with
  | nil => rfl
  | cons o more ih => cases o <;> simp [told, ih]

theorem report_listening {a : Actor} (listening : a.listening = true) (event : ActorEvent)
    (next : Phase) : a.report event next = ({ a with phase := next }, [.event event]) := by
  simp [Actor.report, listening]

theorem closes {a : Actor} (listening : a.listening = true) (hungUp : a.hungUp = false)
    (start : Actor) (written : List Output) (quiet : told written = [])
    (reason : Option MgmtActor.Reason) : Tells start ((a.report (.disconnected reason) .idle).1,
      written ++ (a.report (.disconnected reason) .idle).2) := by
  rw [report_listening listening]
  refine ⟨listening, hungUp, by simp, Or.inl ?_⟩
  rw [told_append, quiet]
  rfl

theorem startup_tells {a : Actor} (listening : a.listening = true) (hungUp : a.hungUp = false)
    (io : Io) (link : Link) (saw : Bool) (left : List OvpnCommand) (start : Actor) :
    lastStatus (told (a.startup engine io link saw left).2) = some false ∧
        Tells start (a.startup engine io link saw left) ∨
      lastStatus (told (a.startup engine io link saw left).2) = none ∧
        (a.startup engine io link saw left).1.listening = true ∧
        (a.startup engine io link saw left).1.hungUp = false ∧
        (a.startup engine io link saw left).1.phase ≠ .returned ∧
        isOpen (a.startup engine io link saw left).1 = true ∧
        (a.startup engine io link saw left).1.channel = a.channel := by
  cases left with
  | nil => exact Or.inr ⟨rfl, listening, hungUp, by simp [Actor.startup], rfl, rfl⟩
  | cons cmd rest =>
    simp only [Actor.startup]
    split
    · rename_i reason _
      refine Or.inl ⟨?_, closes listening hungUp start [] rfl (some reason)⟩
      rw [report_listening listening]
      rfl
    · exact Or.inr ⟨rfl, listening, hungUp, by simp, rfl, rfl⟩

theorem connect_tells {a : Actor} (listening : a.listening = true) (hungUp : a.hungUp = false)
    (io : Io) (host port : Text) (cmds : List OvpnCommand) (start : Actor) :
    Tells start (a.connect engine io host port cmds) := by
  unfold Actor.connect
  split
  · exact closes listening hungUp start [] rfl _
  · rw [if_pos listening]
    rcases @startup_tells engine a listening hungUp io
        ⟨MgmtActor.socketAddr host port, .new, []⟩ false cmds start with
      ⟨last, ⟨listens, serves, alive, known⟩⟩ | ⟨last, listens, serves, alive, opened, _⟩
    · have shut : isOpen (a.startup engine io ⟨MgmtActor.socketAddr host port, .new, []⟩ false
          cmds).1 = false := by
        rcases known with same | ⟨nothing, _⟩
        · exact (Option.some.inj (last.symm.trans same)).symm
        · rw [last] at nothing
          cases nothing
      refine ⟨listens, serves, alive, Or.inl ?_⟩
      simp only [told, lastStatus, last, shut]
      rfl
    · refine ⟨listens, serves, alive, Or.inl ?_⟩
      simp only [told, lastStatus, last, opened]
      rfl

theorem command_tells {a : Actor} (listening : a.listening = true) (hungUp : a.hungUp = false)
    (io : Io) (link : Link) (cmd : ActorCommand) {start : Actor} (opened : isOpen start = true)
    (channel : start.channel = cmd :: a.channel) : Tells start (a.command engine io link cmd) := by
  cases cmd with
  | connect host port cmds => exact closes listening hungUp start [] rfl none
  | disconnect =>
    simp only [Actor.command]
    split
    · exact closes listening hungUp start [.write link.addr _] rfl none
    · exact closes listening hungUp start [] rfl none
  | send cmd =>
    simp only [Actor.command]
    split
    · refine ⟨listening, hungUp, by simp, Or.inr ⟨rfl, opened.symm, ?_⟩⟩
      rw [channel]
      intro waiting
      simpa [isConnect] using waiting
    · exact closes listening hungUp start [] rfl _

theorem tells_nothing {a next : Actor} (listening : next.listening = true)
    (hungUp : next.hungUp = false) (alive : next.phase ≠ .returned)
    (same : isOpen next = isOpen a) (channel : next.channel = a.channel) (out : List Output)
    (silent : lastStatus (told out) = none) : Tells a (next, out) := by
  refine ⟨listening, hungUp, alive, Or.inr ⟨silent, same, ?_⟩⟩
  rw [channel]
  exact id

theorem stays_open {a : Actor} (listening : a.listening = true) (hungUp : a.hungUp = false)
    (opened : isOpen a = true) {next : Phase} (alive : next ≠ .returned)
    (still : isOpen { a with phase := next } = true) (out : List Output)
    (silent : lastStatus (told out) = none) : Tells a ({ a with phase := next }, out) :=
  @tells_nothing a { a with phase := next } listening hungUp alive (still.trans opened.symm) rfl out
    silent

theorem take_tells {a : Actor} (listening : a.listening = true) (hungUp : a.hungUp = false)
    (alive : a.phase ≠ .returned) (io : Io) : Tells a (a.take engine io) := by
  obtain ⟨phase, channel, gone, listens⟩ := a
  cases hungUp
  cases phase with
  | returned => exact absurd rfl alive
  | startup link left saw => exact tells_nothing listening rfl alive rfl rfl [] rfl
  | idle =>
    cases channel with
    | nil => exact tells_nothing listening rfl alive rfl rfl [] rfl
    | cons cmd rest =>
      cases cmd with
      | connect host port cmds =>
        exact connect_tells (a := ⟨.idle, rest, false, listens⟩) listening rfl io host port cmds _
      | disconnect => exact ⟨listening, rfl, alive, Or.inr ⟨rfl, rfl, fun waiting => waiting⟩⟩
      | send cmd => exact ⟨listening, rfl, alive, Or.inr ⟨rfl, rfl, fun waiting => waiting⟩⟩
  | running link =>
    cases channel with
    | nil => exact tells_nothing listening rfl alive rfl rfl [] rfl
    | cons cmd rest =>
      exact command_tells (a := ⟨.running link, rest, false, listens⟩) listening rfl io link cmd rfl
        rfl

theorem startup_goes_on {a : Actor} (listening : a.listening = true) (hungUp : a.hungUp = false)
    (opened : isOpen a = true) (io : Io) (link : Link) (saw : Bool) (left : List OvpnCommand)
    (msgs : List OvpnMessage) :
    Tells a ((a.startup engine io link saw left).1,
      msgs.map (fun msg => .event (.message msg)) ++ (a.startup engine io link saw left).2) := by
  have silent : lastStatus (told (msgs.map fun msg => Output.event (.message msg))) = none := by
    induction msgs with
    | nil => rfl
    | cons msg more ih => simp [told, lastStatus, status, ih]
  rcases @startup_tells engine a listening hungUp io link saw left a with
    ⟨last, ⟨listens, serves, alive, known⟩⟩ | ⟨last, listens, serves, alive, still, channel⟩
  · refine ⟨listens, serves, alive, Or.inl ?_⟩
    rcases known with same | ⟨nothing, _⟩
    · rw [told_append, lastStatus_append, silent, same]
      rfl
    · rw [last] at nothing
      cases nothing
  · apply tells_nothing listens serves alive (still.trans opened.symm) channel
    rw [told_append, lastStatus_append, silent, last]
    rfl

theorem poll_tells {a : Actor} (listening : a.listening = true) (hungUp : a.hungUp = false)
    (alive : a.phase ≠ .returned) (io : Io) : Tells a (a.poll engine io) := by
  cases phase : a.phase with
  | returned => exact absurd phase alive
  | idle =>
    simp only [Actor.poll, phase]
    exact tells_nothing listening hungUp alive rfl rfl [] rfl
  | startup link left saw =>
    have opened : isOpen a = true := by simp [isOpen, openTarget, phase]
    rcases result : link.codec.decode link.buffer with ⟨codec, buffer, e | _ | msg⟩
    · simp only [Actor.poll, phase, result]
      exact closes listening hungUp a [] rfl _
    · simp only [Actor.poll, phase, result]
      exact stays_open listening hungUp opened (by simp) rfl [] rfl
    · simp only [Actor.poll, phase, result, Actor.startupMessage, if_pos listening]
      split
      · exact stays_open listening hungUp opened (by simp) rfl _ rfl
      · exact startup_goes_on listening hungUp opened io _ _ left [msg]
  | running link =>
    have opened : isOpen a = true := by simp [isOpen, openTarget, phase]
    rcases result : link.codec.decode link.buffer with ⟨codec, buffer, e | _ | msg⟩
    · simp only [Actor.poll, phase, result]
      exact closes listening hungUp a [] rfl _
    · simp only [Actor.poll, phase, result]
      exact stays_open listening hungUp opened (by simp) rfl [] rfl
    · simp only [Actor.poll, phase, result, report_listening listening]
      exact stays_open listening hungUp opened (by simp) rfl _ rfl

theorem ended_tells {a : Actor} (listening : a.listening = true) (hungUp : a.hungUp = false)
    (alive : a.phase ≠ .returned) (error : Option Text) : Tells a (a.ended error) := by
  cases phase : a.phase with
  | returned => exact absurd phase alive
  | idle =>
    simp only [Actor.ended, phase]
    exact tells_nothing listening hungUp alive rfl rfl [] rfl
  | startup link left saw =>
    simp only [Actor.ended, phase]
    exact closes listening hungUp a [] rfl _
  | running link =>
    simp only [Actor.ended, phase]
    exact closes listening hungUp a [] rfl _

theorem receive_tells {a : Actor} (listening : a.listening = true) (hungUp : a.hungUp = false)
    (alive : a.phase ≠ .returned) (chunk : Bytes) : Tells a (a.receive chunk, []) := by
  cases phase : a.phase with
  | returned => exact absurd phase alive
  | idle =>
    simp only [Actor.receive, phase]
    exact tells_nothing listening hungUp alive rfl rfl [] rfl
  | startup link left saw =>
    have opened : isOpen a = true := by simp [isOpen, openTarget, phase]
    simp only [Actor.receive, phase]
    exact stays_open listening hungUp opened (by simp) rfl [] rfl
  | running link =>
    have opened : isOpen a = true := by simp [isOpen, openTarget, phase]
    simp only [Actor.receive, phase]
    exact stays_open listening hungUp opened (by simp) rfl [] rfl

theorem step_tells {a : Actor} (listening : a.listening = true) (hungUp : a.hungUp = false)
    (alive : a.phase ≠ .returned) (io : Io) {o : Occurrence} (own : ofActor o = true) :
    Tells a (MgmtActor.step engine a io o) := by
  cases o with
  | submit cmd => cases own
  | hangUp => cases own
  | uiGone => cases own
  | take => exact take_tells listening hungUp alive io
  | poll => exact poll_tells listening hungUp alive io
  | receive chunk => exact receive_tells listening hungUp alive chunk
  | ended error => exact ended_tells listening hungUp alive error
  | timeout =>
    cases phase : a.phase with
    | returned => exact absurd phase alive
    | idle =>
      simp only [MgmtActor.step, phase]
      exact tells_nothing listening hungUp alive rfl rfl [] rfl
    | running link =>
      simp only [MgmtActor.step, phase]
      exact tells_nothing listening hungUp alive rfl rfl [] rfl
    | startup link left saw =>
      have opened : isOpen a = true := by simp [isOpen, openTarget, phase]
      simp only [MgmtActor.step, phase]
      exact startup_goes_on listening hungUp opened io link saw left []

end Actor

/-! One step -/

section Steps
variable {engine : Bytes → Text} {describe : CommandParseError → Text}

def ready (d : Desktop) (room : Nat) : Ui :=
  { d.ui with actorTx := { d.ui.actorTx with room, sent := [] } }

def behind (d : Desktop) (ui : Ui) (task : Option Task) : Desktop :=
  { d with
    ui
    actor := { d.actor with
      channel := d.actor.channel ++ ui.actorTx.sent
      hungUp := d.actor.hungUp || !ui.actorTx.held }
    pauses := d.pauses ++ pauseOf task }

theorem turn_ok {d next : Desktop} {room : Nat} {msg : Message}
    (turned : d.turn describe room msg = .ok next) :
    ∃ ui task, (ready d room).update describe msg = .ok (ui, task) ∧ next = behind d ui task := by
  unfold Desktop.turn at turned
  change (ready d room).update describe msg >>= _ = _ at turned
  cases result : (ready d room).update describe msg with
  | error e =>
    rw [result] at turned
    cases turned
  | ok pair =>
    rw [result] at turned
    cases turned
    exact ⟨pair.1, pair.2, rfl, rfl⟩

theorem awaited_behind {d : Desktop} (awaited : Awaited d) (ui : Ui) (task : Option Task) :
    Awaited (behind d ui task) := by
  rcases awaited with waiting | paused
  · exact Or.inl (by simp [behind, waiting])
  · exact Or.inr (by simp [behind, paused])

theorem steady_behind {d : Desktop} (steady : Steady d) {ui : Ui}
    (same : ui.connectionState = d.ui.connectionState) (task : Option Task) :
    Steady (behind d ui task) := by
  rcases steady with ⟨state, opened⟩ | ⟨state, shut⟩ | ⟨state, awaited⟩
  · exact Or.inl ⟨same.trans state, opened⟩
  · exact Or.inr (Or.inl ⟨same.trans state, shut⟩)
  · exact Or.inr (Or.inr ⟨same.trans state, awaited_behind awaited ui task⟩)

theorem served_behind {d : Desktop} (served : Served d) {ui : Ui} {task : Option Task}
    (held : ui.actorTx.held = true)
    (steady : lastStatus d.events = none → Steady (behind d ui task)) :
    Served (behind d ui task) where
  listening := served.listening
  hungUp := by simp [behind, served.hungUp, held]
  alive := served.alive
  shown := ⟨served.shown.1, steady⟩

theorem user_linked {d next : Desktop} (linked : Linked d) {room : Nat} {msg : Message}
    (user : msg.fromUser = true) (turned : d.turn describe room msg = .ok next) : Linked next := by
  obtain ⟨ui, task, updated, rfl⟩ := turn_ok turned
  intro held
  change ui.actorTx.held = true at held
  rcases update_connection describe user updated with
    (gone | ⟨state, kept, _⟩) | ⟨state, kept, asked⟩
  · rw [gone] at held
    cases held
  · have served := linked (kept.symm.trans held)
    exact served_behind served held fun quiet =>
      steady_behind (served.shown.2 quiet) state task
  · have served := linked (kept.symm.trans held)
    apply served_behind served held
    intro _
    refine Or.inr (Or.inr ⟨state, ?_⟩)
    rcases asked with ⟨host, port, cmds, sent⟩ | ⟨host, port, cmds, rfl, _⟩
    · refine Or.inl ?_
      change (d.actor.channel ++ ui.actorTx.sent).any isConnect = true
      rw [sent]
      simp [isConnect]
    · exact Or.inr (by simp [behind, pauseOf])

theorem resume_linked {d next : Desktop} (linked : Linked d) {room : Nat} {host port : Text}
    {cmds : List OvpnCommand} (i : Nat)
    (turned : { d with pauses := d.pauses.eraseIdx i }.turn describe room
      (.reconnectReady host port cmds) = .ok next) : Linked next := by
  obtain ⟨ui, task, updated, rfl⟩ := turn_ok turned
  intro held
  change ui.actorTx.held = true at held
  cases updated
  rcases connect_connection (ready { d with pauses := d.pauses.eraseIdx i } room) host port cmds
    with gone | ⟨before, state, kept, sent⟩
  · exact absurd (gone.symm.trans held) (by simp)
  · have served := linked before
    refine ⟨served.listening, ?_, served.alive, served.shown.1, ?_⟩
    · change (d.actor.hungUp || !_) = false
      rw [served.hungUp]
      simpa using held
    · intro nothing
      have awaited : Awaited (behind { d with pauses := d.pauses.eraseIdx i }
          (orGone ((ready { d with pauses := d.pauses.eraseIdx i } room).sendActor
            (.connect host port cmds))).revalidateCommand none) := by
        refine Or.inl ?_
        change (d.actor.channel ++ (orGone (Ui.sendActor _ _)).actorTx.sent).any isConnect = true
        rw [sent]
        simp [isConnect]
      rcases served.shown.2 nothing with ⟨shows, opened⟩ | ⟨shows, shut⟩ | ⟨shows, _⟩
      · exact Or.inl ⟨state.trans shows, opened⟩
      · exact Or.inr (Or.inl ⟨state.trans shows, shut⟩)
      · exact Or.inr (Or.inr ⟨state.trans shows, awaited⟩)

def display (state : ConnectionState) : Option Bool → ConnectionState
  | some true => .connected
  | some false => .disconnected
  | none => state

theorem event_update {ui after : Ui} {event : ActorEvent} {task : Option Task}
    (updated : ui.update describe (.actor event) = .ok (after, task)) :
    after.connectionState = display ui.connectionState (status event) ∧
      after.actorTx = ui.actorTx := by
  cases event with
  | connected =>
    cases updated
    exact ⟨rfl, rfl⟩
  | disconnected reason =>
    cases updated
    exact ⟨rfl, rfl⟩
  | message msg =>
    simp only [Ui.update, Ui.handleActor] at updated
    cases handled : ui.app.handleOvpnMessage msg with
    | error e =>
      rw [handled] at updated
      cases updated
    | ok app =>
      rw [handled] at updated
      cases updated
      exact ⟨rfl, rfl⟩

theorem deliver_linked {d next : Desktop} (linked : Linked d) {room : Nat} {event : ActorEvent}
    {events : List ActorEvent} (oldest : d.events = event :: events)
    (turned : { d with events }.turn describe room (.actor event) = .ok next) : Linked next := by
  obtain ⟨ui, task, updated, rfl⟩ := turn_ok turned
  obtain ⟨state, sender⟩ := event_update updated
  intro held
  change ui.actorTx.held = true at held
  have before : d.ui.actorTx.held = true := by
    rw [sender] at held
    exact held
  have served := linked before
  obtain ⟨right, steady⟩ := served.shown
  rw [oldest, lastStatus] at right steady
  refine ⟨served.listening, by simp [behind, served.hungUp, held], served.alive, ?_, ?_⟩
  · intro opened last
    change lastStatus events = some opened at last
    exact right opened (by simp [last])
  · intro nothing
    change lastStatus events = none at nothing
    rw [nothing, Option.none_or] at right steady
    cases known : status event with
    | none =>
      rw [known] at state
      exact @steady_behind { d with events } (steady known) ui state task
    | some opened =>
      have there : opened = isOpen d.actor := right opened known
      rw [known] at state
      cases opened with
      | true => exact Or.inl ⟨state, there.symm⟩
      | false => exact Or.inr (Or.inl ⟨state, there.symm⟩)

theorem actor_linked {d : Desktop} (linked : Linked d) (io : Io) {o : Occurrence}
    (own : ofActor o = true) :
    Linked { d with
      actor := (MgmtActor.step engine d.actor io o).1
      events := d.events ++ told (MgmtActor.step engine d.actor io o).2 } := by
  intro held
  have served := linked held
  obtain ⟨listening, hungUp, alive, tells⟩ :=
    @step_tells engine d.actor served.listening served.hungUp served.alive io o own
  refine ⟨listening, hungUp, alive, ?_, ?_⟩
  · intro opened last
    change lastStatus (d.events ++ told _) = some opened at last
    rw [lastStatus_append] at last
    rcases tells with now | ⟨silent, same, _⟩
    · rw [now, Option.some_or] at last
      exact (Option.some.inj last).symm
    · rw [silent, Option.none_or] at last
      exact (served.shown.1 opened last).trans same.symm
  · intro nothing
    change lastStatus (d.events ++ told _) = none at nothing
    rw [lastStatus_append] at nothing
    rcases tells with now | ⟨silent, same, waits⟩
    · rw [now, Option.some_or] at nothing
      cases nothing
    · rw [silent, Option.none_or] at nothing
      rcases served.shown.2 nothing with ⟨state, opened⟩ | ⟨state, shut⟩ | ⟨state, waiting | paused⟩
      · exact Or.inl ⟨state, same.trans opened⟩
      · exact Or.inr (Or.inl ⟨state, same.trans shut⟩)
      · exact Or.inr (Or.inr ⟨state, Or.inl (waits waiting)⟩)
      · exact Or.inr (Or.inr ⟨state, Or.inr paused⟩)

theorem step_linked {d next : Desktop} (linked : Linked d) {move : Move}
    (stepped : d.step engine describe move = .ok next) : Linked next := by
  cases move with
  | user room msg =>
    simp only [Desktop.step] at stepped
    split at stepped
    · rename_i user
      exact user_linked linked user stepped
    · cases stepped
      exact linked
  | deliver room =>
    cases queue : d.events with
    | nil =>
      simp only [Desktop.step, queue] at stepped
      cases stepped
      exact linked
    | cons event events =>
      simp only [Desktop.step, queue] at stepped
      exact deliver_linked linked queue stepped
  | resume room i =>
    cases pause : d.pauses[i]? with
    | none =>
      simp only [Desktop.step, pause] at stepped
      cases stepped
      exact linked
    | some waiting =>
      simp only [Desktop.step, pause] at stepped
      exact resume_linked linked i stepped
  | actor io o =>
    simp only [Desktop.step] at stepped
    split at stepped
    · rename_i own
      cases stepped
      exact actor_linked linked io own
    · cases stepped
      exact linked

theorem run_linked {d last : Desktop} (linked : Linked d) {moves : List Move}
    (ran : d.run engine describe moves = .ok last) : Linked last := by
  induction moves generalizing d with
  | nil =>
    cases ran
    exact linked
  | cons move more ih =>
    rw [Desktop.run, List.foldlM_cons] at ran
    cases stepped : d.step engine describe move with
    | error e =>
      rw [stepped] at ran
      cases ran
    | ok next =>
      rw [stepped] at ran
      exact ih (step_linked linked stepped) ran

end Steps

/-- Whatever the user, the timers, the socket and the delivery of events do: while the interface
    holds its sender, and nothing is on its way, the display is connected exactly if a socket is
    open, and disconnected otherwise. -/
theorem display_right (engine : Bytes → Text) (describe : CommandParseError → Text)
    {moves : List Move} {d : Desktop} (ran : Desktop.new.run engine describe moves = .ok d)
    (held : d.ui.actorTx.held = true) (delivered : lastStatus d.events = none)
    (taken : d.actor.channel.any isConnect = false) (resumed : d.pauses = []) :
    d.ui.connectionState = if isOpen d.actor then .connected else .disconnected := by
  rcases (run_linked linked_new ran held).shown.2 delivered with
    ⟨state, opened⟩ | ⟨state, shut⟩ | ⟨_, waiting | paused⟩
  · rw [opened]
    exact state
  · rw [shut]
    exact state
  · rw [taken] at waiting
    cases waiting
  · exact absurd resumed paused

/-! Nothing is lost between the interface and the actor -/

def sentIn (d next : Desktop) : Move → List ActorCommand
  | .actor _ _ => []
  | _ => next.actor.channel.drop d.actor.channel.length

def deliveredIn (d : Desktop) : Move → List ActorEvent
  | .deliver _ => d.events.take 1
  | _ => []

/- What the interface does to the actor between two states. -/
def submissions (a next : Actor) : List (Io × Occurrence) :=
  ((next.channel.drop a.channel.length).map fun cmd => (quiet, .submit cmd)) ++
    if next.hungUp && !a.hungUp then [(quiet, .hangUp)] else []

def occurrencesIn (d next : Desktop) : Move → List (Io × Occurrence)
  | .actor io o => if ofActor o then [(io, o)] else []
  | _ => submissions d.actor next.actor

section Tracing
variable (engine : Bytes → Text) (describe : CommandParseError → Text)

def sentBy (d : Desktop) : List Move → List ActorCommand
  | [] => []
  | move :: more =>
    match d.step engine describe move with
    | .ok next => sentIn d next move ++ sentBy next more
    | .error _ => []

def occurrencesBy (d : Desktop) : List Move → List (Io × Occurrence)
  | [] => []
  | move :: more =>
    match d.step engine describe move with
    | .ok next => occurrencesIn d next move ++ occurrencesBy next more
    | .error _ => []

def deliveredBy (d : Desktop) : List Move → List ActorEvent
  | [] => []
  | move :: more =>
    match d.step engine describe move with
    | .ok next => deliveredIn d move ++ deliveredBy next more
    | .error _ => []

end Tracing

section Tracing
variable {engine : Bytes → Text} {describe : CommandParseError → Text}

theorem submits_run (a : Actor) (cmds : List ActorCommand) :
    MgmtActor.run engine a (cmds.map fun cmd => (quiet, .submit cmd)) =
      ({ a with channel := a.channel ++ cmds }, []) := by
  induction cmds generalizing a with
  | nil => simp [MgmtActor.run]
  | cons cmd more ih => simp [MgmtActor.run, MgmtActor.step, ih]

theorem submitted_submissions (a next : Actor) :
    submitted (submissions a next) = next.channel.drop a.channel.length := by
  have each (cmds : List ActorCommand) (rest : List (Io × Occurrence)) :
      submitted ((cmds.map fun cmd => (quiet, Occurrence.submit cmd)) ++ rest) =
        cmds ++ submitted rest := by
    induction cmds with
    | nil => rfl
    | cons cmd more ih => simp [submitted, ih]
  rw [submissions, each]
  split <;> simp [submitted]

theorem behind_actor (d : Desktop) (ui : Ui) (task : Option Task) :
    MgmtActor.run engine d.actor (submissions d.actor (behind d ui task).actor) =
      ((behind d ui task).actor, []) := by
  have sent : (behind d ui task).actor.channel.drop d.actor.channel.length = ui.actorTx.sent := by
    simp [behind]
  rw [submissions, sent, MgmtActor.run_append, submits_run]
  cases gone : d.actor.hungUp <;> cases held : ui.actorTx.held <;>
    simp [behind, gone, held, MgmtActor.run, MgmtActor.step]

theorem submissions_self (a : Actor) : submissions a a = [] := by
  simp [submissions]

structure Follows (engine : Bytes → Text) (d next : Desktop) (move : Move) : Prop where
  actor : next.actor = (MgmtActor.run engine d.actor (occurrencesIn d next move)).1
  sent : sentIn d next move = submitted (occurrencesIn d next move)
  events : deliveredIn d move ++ next.events =
    d.events ++ told (MgmtActor.run engine d.actor (occurrencesIn d next move)).2

theorem stays_follows {d : Desktop} {move : Move} (nothing : occurrencesIn d d move = [])
    (unsent : sentIn d d move = []) (undelivered : deliveredIn d move = []) :
    Follows engine d d move :=
  ⟨by rw [nothing]; rfl, by rw [nothing, unsent]; rfl, by
    rw [nothing, undelivered]
    simp [MgmtActor.run, told]⟩

theorem turn_follows {d start next : Desktop} {room : Nat} {msg : Message} {move : Move}
    (turned : start.turn describe room msg = .ok next) (same : start.actor = d.actor)
    (interface : ∀ next, occurrencesIn d next move = submissions d.actor next.actor)
    (sent : sentIn d next move = next.actor.channel.drop d.actor.channel.length)
    (events : deliveredIn d move ++ start.events = d.events) : Follows engine d next move := by
  obtain ⟨ui, task, _, rfl⟩ := turn_ok turned
  have acts := @behind_actor engine start ui task
  rw [same] at acts
  refine ⟨by rw [interface, acts], by rw [interface, submitted_submissions, sent], ?_⟩
  rw [interface, acts]
  simpa [told, behind] using events

theorem step_follows {d next : Desktop} {move : Move}
    (stepped : d.step engine describe move = .ok next) : Follows engine d next move := by
  cases move with
  | user room msg =>
    simp only [Desktop.step] at stepped
    split at stepped
    · exact turn_follows stepped rfl (fun _ => rfl) rfl rfl
    · cases stepped
      exact stays_follows (submissions_self d.actor) (by simp [sentIn]) rfl
  | deliver room =>
    cases queue : d.events with
    | nil =>
      simp only [Desktop.step, queue] at stepped
      cases stepped
      exact stays_follows (submissions_self d.actor) (by simp [sentIn]) (by simp [deliveredIn, queue])
    | cons event events =>
      simp only [Desktop.step, queue] at stepped
      exact turn_follows stepped rfl (fun _ => rfl) rfl (by simp [deliveredIn, queue])
  | resume room i =>
    simp only [Desktop.step] at stepped
    split at stepped
    · cases stepped
      exact stays_follows (submissions_self d.actor) (by simp [sentIn]) rfl
    · exact turn_follows stepped rfl (fun _ => rfl) rfl rfl
  | actor io o =>
    simp only [Desktop.step] at stepped
    split at stepped
    · rename_i own
      cases stepped
      refine ⟨?_, ?_, ?_⟩
      · simp [occurrencesIn, own, MgmtActor.run]
      · cases o <;> simp [occurrencesIn, ofActor, sentIn, submitted]
      · simp [occurrencesIn, own, MgmtActor.run, deliveredIn]
    · rename_i other
      cases stepped
      exact stays_follows (by simp [occurrencesIn, other]) rfl rfl

theorem run_follows {d last : Desktop} {moves : List Move}
    (ran : d.run engine describe moves = .ok last) :
    let seen := occurrencesBy engine describe d moves
    last.actor = (MgmtActor.run engine d.actor seen).1 ∧
      sentBy engine describe d moves = submitted seen ∧
      deliveredBy engine describe d moves ++ last.events =
        d.events ++ told (MgmtActor.run engine d.actor seen).2 := by
  induction moves generalizing d with
  | nil =>
    cases ran
    exact ⟨rfl, rfl, by simp [occurrencesBy, deliveredBy, MgmtActor.run, told]⟩
  | cons move moves ih =>
    rw [Desktop.run, List.foldlM_cons] at ran
    obtain ⟨next, stepped, rest⟩ := Results.bind_eq_ok.mp ran
    obtain ⟨actor, sent, events⟩ := @step_follows engine _ _ _ _ stepped
    obtain ⟨lastActor, lastSent, lastEvents⟩ := ih rest
    simp only [occurrencesBy, sentBy, deliveredBy, stepped]
    rw [MgmtActor.run_append, ← actor]
    refine ⟨lastActor, ?_, ?_⟩
    · rw [sent, lastSent, MgmtActor.submitted_append]
    · rw [told_append, List.append_assoc, lastEvents, ← List.append_assoc, events, List.append_assoc]

end Tracing

theorem turn_fresh {describe : CommandParseError → Text} {d next : Desktop} (fresh : Fresh d.ui)
    {room : Nat} {msg : Message} (turned : d.turn describe room msg = .ok next) :
    Fresh next.ui := by
  obtain ⟨ui, task, updated, rfl⟩ := turn_ok turned
  have before : Fresh (ready d room) := fresh.same rfl rfl rfl
  exact update_fresh describe before updated

theorem step_fresh {engine : Bytes → Text} {describe : CommandParseError → Text} {d next : Desktop}
    (fresh : Fresh d.ui) {move : Move} (stepped : d.step engine describe move = .ok next) :
    Fresh next.ui := by
  cases move with
  | user room msg =>
    simp only [Desktop.step] at stepped
    split at stepped
    · exact turn_fresh fresh stepped
    · cases stepped
      exact fresh
  | deliver room =>
    simp only [Desktop.step] at stepped
    split at stepped
    · cases stepped
      exact fresh
    · rename_i event events _
      exact @turn_fresh _ { d with events } _ fresh _ _ stepped
  | resume room i =>
    simp only [Desktop.step] at stepped
    split at stepped
    · cases stepped
      exact fresh
    · exact @turn_fresh _ { d with pauses := d.pauses.eraseIdx i } _ fresh _ _ stepped
  | actor io o =>
    simp only [Desktop.step] at stepped
    split at stepped
    · cases stepped
      exact fresh
    · cases stepped
      exact fresh

theorem run_fresh {engine : Bytes → Text} {describe : CommandParseError → Text} {d last : Desktop}
    (fresh : Fresh d.ui) {moves : List Move} (ran : d.run engine describe moves = .ok last) :
    Fresh last.ui := by
  induction moves generalizing d with
  | nil =>
    cases ran
    exact fresh
  | cons move more ih =>
    rw [Desktop.run, List.foldlM_cons] at ran
    obtain ⟨next, stepped, rest⟩ := Results.bind_eq_ok.mp ran
    exact ih (step_fresh fresh stepped) rest

/-- In every state the client can be in, the verdict is that of the present input, and SendCommand
    puts the command that the input stands for into the channel, if there is one and the channel
    takes it, and nothing else. An accepted input is recorded whether or not the channel takes it; an
    input that is no command, or outside raw mode no known one, is not even recorded. -/
theorem typed_commands_sent (engine : Bytes → Text) (describe : CommandParseError → Text)
    {moves : List Move} {d : Desktop} (ran : Desktop.new.run engine describe moves = .ok d)
    (room : Nat) :
    d.ui.commandValid = (d.ui.rawMode || (accepted false d.ui.commandInput).isSome) ∧
      ∃ next, d.step engine describe (.user room .sendCommand) = .ok next ∧
        next.actor.channel = d.actor.channel ++
          (if d.ui.actorTx.held = true ∧ 0 < room then
            (accepted d.ui.rawMode d.ui.commandInput).toList.map .send else []) ∧
        next.ui.app.commandHistory = recorded describe d.ui := by
  have upToDate := run_fresh fresh_new ran
  have fresh : Fresh (ready d room) := upToDate.same rfl rfl rfl
  obtain ⟨sent, history⟩ := sendCommand_spec describe fresh
  refine ⟨upToDate.verdict, behind d ((ready d room).sendCommand describe) none, rfl, ?_, history⟩
  change d.actor.channel ++ ((ready d room).sendCommand describe).actorTx.sent = _
  rw [sent]
  rfl

def typing : List Move := [.user 9 (.commandInputChanged (lit " verb 3"))]

theorem typed_commands_sent_verb :
    ∃ d next, Desktop.new.run (fun _ => []) (fun _ => []) typing = .ok d ∧
      d.step (fun _ => []) (fun _ => []) (.user 9 .sendCommand) = .ok next ∧
        next.actor.channel = [.send (.verb (some 3))] := by
  have facts : (Desktop.new.run (fun _ => []) (fun _ => []) typing).toOption.map (fun d =>
      (d.ui.actorTx.held, d.actor.channel.length, accepted d.ui.rawMode d.ui.commandInput)) =
        some (true, 0, some (.verb (some 3))) := by decide +kernel
  obtain ⟨d, found, state⟩ := Option.map_eq_some_iff.mp facts
  have ran := Results.toOption_eq_some.mp found
  simp only [Prod.mk.injEq] at state
  obtain ⟨held, empty, typed⟩ := state
  obtain ⟨_, next, stepped, channel, _⟩ := typed_commands_sent (fun _ => []) (fun _ => []) ran 9
  refine ⟨d, next, ran, stepped, ?_⟩
  rw [channel, List.length_eq_zero_iff.mp empty, typed, if_pos ⟨held, by decide⟩]
  rfl

def reconnecting : List Move :=
  [.user 9 .connect, .actor quiet .take, .deliver 9, .user 9 .reconnect] ++
    List.replicate 8 (.actor quiet .timeout) ++
    [.actor quiet .take, .deliver 9, .resume 9 0, .actor quiet .take, .deliver 9]

theorem display_right_reconnected :
    ∃ d, Desktop.new.run (fun _ => []) (fun _ => []) reconnecting = .ok d ∧
      d.ui.connectionState = .connected := by
  have facts : (Desktop.new.run (fun _ => []) (fun _ => []) reconnecting).toOption.map (fun d =>
      (d.ui.actorTx.held, lastStatus d.events, d.actor.channel.any isConnect, d.pauses.length,
        isOpen d.actor)) = some (true, none, false, 0, true) := by decide +kernel
  obtain ⟨d, found, state⟩ := Option.map_eq_some_iff.mp facts
  have ran := Results.toOption_eq_some.mp found
  simp only [Prod.mk.injEq] at state
  obtain ⟨held, delivered, taken, resumed, opened⟩ := state
  refine ⟨d, ran, ?_⟩
  rw [display_right _ _ ran held delivered taken (List.length_eq_zero_iff.mp resumed), opened]
  rfl

end MgmtDesktop
