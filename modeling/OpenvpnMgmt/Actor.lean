import OpenvpnMgmt.Calls
import OpenvpnMgmt.EncodeSafety

/-!
The connection actor of the graphical client: one loop waits for a Connect, another one serves the
open socket, and both take from the same channel. What the socket, the clock and the UI do is an
occurrence; what a step tells the UI or writes is its output. A Connect is dialled as it is taken:
it counts as on its way until the dial is over.
-/
namespace MgmtActor
open TextOps Utf8Text MgmtEncoder MgmtCommand MgmtMessage MgmtFrame MgmtCodec MgmtDraining
  MgmtCalls MgmtEncodeSafety

inductive ActorCommand where
  | connect (host port : Text) (startupCommands : List OvpnCommand)
  | disconnect
  | send (cmd : OvpnCommand)

inductive Reason where
  | text (error : Text)
  | decode (error : IoError)
  | encode (error : EncodeError)
  deriving DecidableEq, Repr

inductive ActorEvent where
  | connected
  | disconnected (reason : Option Reason)
  | message (msg : OvpnMessage)

inductive Output where
  | event (event : ActorEvent)
  | write (addr : Text) (bytes : Bytes)

/-- The error of each socket call that a step makes, if it fails. -/
structure Io where
  connect : Option Text
  write : Option Text

inductive Occurrence where
  /-- The UI puts a command into the channel. -/
  | submit (cmd : ActorCommand)
  /-- All senders of the channel are dropped. -/
  | hangUp
  /-- The actor looks into the channel. -/
  | take
  /-- Bytes arrive. -/
  | receive (chunk : Bytes)
  /-- The actor asks the stream for a message. -/
  | poll
  /-- The stream ends, by an error or without. -/
  | ended (error : Option Text)
  | timeout
  /-- The UI drops its receiver. -/
  | uiGone

structure Link where
  addr : Text
  codec : OvpnCodec
  buffer : Bytes

inductive Phase where
  | idle
  /-- For the response to a startup command. -/
  | startup (link : Link) (left : List OvpnCommand) (sawPasswordPrompt : Bool)
  | running (link : Link)
  | returned

structure Actor where
  phase : Phase
  channel : List ActorCommand
  hungUp : Bool
  listening : Bool

def Actor.new : Actor := ⟨.idle, [], false, true⟩

def socketAddr (host port : Text) : Text :=
  if ':' ∈ host then '[' :: host ++ lit "]:" ++ port else host ++ ':' :: port

def isAsync : OvpnMessage → Bool
  | .notification _ => true
  | .info _ => true
  | .passwordPrompt => true
  | _ => false

def passwordRequired : Text := lit "Management password required but not provided"

/- Without a UI to tell, the actor returns. -/
def Actor.report (a : Actor) (event : ActorEvent) (next : Phase) : Actor × List Output :=
  if a.listening then ({ a with phase := next }, [.event event])
  else ({ a with phase := .returned }, [])

section Running
variable (engine : Bytes → Text)

def Link.send (link : Link) (io : Io) (cmd : OvpnCommand) : Except Reason (Link × Bytes) :=
  match link.codec.encode engine cmd [] with
  | (codec, bytes, .ok ()) =>
    match io.write with
    | none => .ok ({ link with codec }, bytes)
    | some error => .error (.text error)
  | (_, _, .error e) => .error (.encode e)

/- The next startup command; behind the last one the loop begins. -/
def Actor.startup (a : Actor) (io : Io) (link : Link) (saw : Bool) :
    List OvpnCommand → Actor × List Output
  | [] => ({ a with phase := .running link }, [])
  | cmd :: left =>
    match link.send engine io cmd with
    | .error reason => a.report (.disconnected (some reason)) .idle
    | .ok (link, bytes) => ({ a with phase := .startup link left saw }, [.write link.addr bytes])

def Actor.connect (a : Actor) (io : Io) (host port : Text) (startupCommands : List OvpnCommand) :
    Actor × List Output :=
  match io.connect with
  | some error => a.report (.disconnected (some (.text error))) .idle
  | none =>
    if a.listening then
      let (a, out) := a.startup engine io ⟨socketAddr host port, .new, []⟩ false startupCommands
      (a, .event .connected :: out)
    else ({ a with phase := .returned }, [])

def Actor.command (a : Actor) (io : Io) (link : Link) : ActorCommand → Actor × List Output
  | .connect _ _ _ => a.report (.disconnected none) .idle
  | .disconnect =>
    -- A QUIT that cannot be sent is only logged.
    let written := match link.send engine io .quit with
      | .ok (_, bytes) => [.write link.addr bytes]
      | .error _ => []
    let (a, out) := a.report (.disconnected none) .idle
    (a, written ++ out)
  | .send cmd =>
    match link.send engine io cmd with
    | .ok (link, bytes) => ({ a with phase := .running link }, [.write link.addr bytes])
    | .error reason => a.report (.disconnected (some reason)) .idle

/- `recv`: the head of the channel, or its end. The startup sequence does not look. -/
def Actor.take (a : Actor) (io : Io) : Actor × List Output :=
  match a.phase, a.channel with
  | .idle, cmd :: left =>
    match cmd with
    | .connect host port startupCommands =>
      { a with channel := left }.connect engine io host port startupCommands
    | .disconnect => ({ a with channel := left }, [])
    | .send _ => ({ a with channel := left }, [])
  | .running link, cmd :: left => { a with channel := left }.command engine io link cmd
  | .idle, [] => (if a.hungUp then { a with phase := .returned } else a, [])
  | .running _, [] => (if a.hungUp then { a with phase := .returned } else a, [])
  | .startup _ _ _, _ => (a, [])
  | .returned, _ => (a, [])

def Actor.startupMessage (a : Actor) (io : Io) (link : Link) (left : List OvpnCommand) (saw : Bool)
    (msg : OvpnMessage) : Actor × List Output :=
  let saw := saw || decide (msg = .passwordPrompt)
  if a.listening then
    if isAsync msg then ({ a with phase := .startup link left saw }, [.event (.message msg)])
    else
      let (a, out) := a.startup engine io link saw left
      (a, .event (.message msg) :: out)
  else ({ a with phase := .returned }, [])

def Actor.poll (a : Actor) (io : Io) : Actor × List Output :=
  match a.phase with
  | .startup link left saw =>
    match link.codec.decode link.buffer with
    | (codec, buffer, .ok none) =>
      ({ a with phase := .startup { link with codec, buffer } left saw }, [])
    | (codec, buffer, .ok (some msg)) =>
      a.startupMessage engine io { link with codec, buffer } left saw msg
    | (_, _, .error e) => a.report (.disconnected (some (.decode e))) .idle
  | .running link =>
    match link.codec.decode link.buffer with
    | (codec, buffer, .ok none) => ({ a with phase := .running { link with codec, buffer } }, [])
    | (codec, buffer, .ok (some msg)) =>
      a.report (.message msg) (.running { link with codec, buffer })
    | (_, _, .error e) => a.report (.disconnected (some (.decode e))) .idle
  | .idle => (a, [])
  | .returned => (a, [])

def Actor.receive (a : Actor) (chunk : Bytes) : Actor :=
  match a.phase with
  | .startup link left saw =>
    { a with phase := .startup { link with buffer := link.buffer ++ chunk } left saw }
  | .running link => { a with phase := .running { link with buffer := link.buffer ++ chunk } }
  | .idle => a
  | .returned => a

/- The end of a startup sequence that saw a prompt has a reason of its own. -/
def Actor.ended (a : Actor) (error : Option Text) : Actor × List Output :=
  match a.phase with
  | .startup _ _ saw =>
    let reason := error.or (if saw then some passwordRequired else none)
    a.report (.disconnected (reason.map .text)) .idle
  | .running _ => a.report (.disconnected (error.map .text)) .idle
  | .idle => (a, [])
  | .returned => (a, [])

def step (a : Actor) (io : Io) : Occurrence → Actor × List Output
  | .submit cmd => ({ a with channel := a.channel ++ [cmd] }, [])
  | .hangUp => ({ a with hungUp := true }, [])
  | .take => a.take engine io
  | .receive chunk => (a.receive chunk, [])
  | .poll => a.poll engine io
  | .ended error => a.ended error
  | .timeout =>
    match a.phase with
    | .startup link left saw => a.startup engine io link saw left
    | _ => (a, [])
  | .uiGone => ({ a with listening := false }, [])

def run : Actor → List (Io × Occurrence) → Actor × List Output
  | a, [] => (a, [])
  | a, (io, o) :: more =>
    let (next, out) := step engine a io o
    let (last, later) := run next more
    (last, out ++ later)

/-! Runs without failures -/

/- Every connect succeeds, the socket stays open and no startup command is sent. -/
def Steady (a : Actor) (io : Io) : Occurrence → Prop
  | .submit (.connect _ _ startupCommands) => startupCommands = []
  | .submit _ => True
  | .take => io.connect = none ∧ io.write = none
  | .receive _ => True
  | .poll => ∀ link e, a.phase = .running link → (link.codec.decode link.buffer).2.2 ≠ .error e
  | .timeout => True
  | .hangUp => False
  | .ended _ => False
  | .uiGone => False

def SteadyRun : Actor → List (Io × Occurrence) → Prop
  | _, [] => True
  | a, (io, o) :: more => Steady a io o ∧ SteadyRun (step engine a io o).1 more

end Running

theorem run_append (engine : Bytes → Text) (a : Actor) (front back : List (Io × Occurrence)) :
    run engine a (front ++ back) =
      ((run engine (run engine a front).1 back).1,
        (run engine a front).2 ++ (run engine (run engine a front).1 back).2) := by
  induction front generalizing a with
  | nil => rfl
  | cons s more ih =>
    simp only [List.cons_append, run, ih, List.append_assoc]

def openTarget (a : Actor) : Option Text :=
  match a.phase with
  | .startup link _ _ => some link.addr
  | .running link => some link.addr
  | .idle => none
  | .returned => none

def submitted : List (Io × Occurrence) → List ActorCommand
  | [] => []
  | (_, .submit cmd) :: more => cmd :: submitted more
  | _ :: more => submitted more

def follow (target : Option Text) : ActorCommand → Option Text
  | .connect host port _ => some (socketAddr host port)
  | .disconnect => none
  | .send _ => target

def requestedTarget (cmds : List ActorCommand) : Option Text := cmds.foldl follow none

def countConnect (n : Nat) : ActorCommand → Nat
  | .connect _ _ _ => n + 1
  | .disconnect => 0
  | .send _ => n

def connectsSince (cmds : List ActorCommand) : Nat := cmds.foldl countConnect 0

def toggle (target : Option Text) : ActorCommand → Option Text
  | .connect host port _ => if target.isSome then none else some (socketAddr host port)
  | .disconnect => none
  | .send _ => target

def Bare : ActorCommand → Prop
  | .connect _ _ startupCommands => startupCommands = []
  | _ => True

/-- The actor serves its channel, and its socket leads to the target. -/
inductive Serves : Actor → Option Text → Prop
  | idle {channel : List ActorCommand} (bare : ∀ cmd ∈ channel, Bare cmd) :
    Serves ⟨.idle, channel, false, true⟩ none
  | running {link : Link} {channel : List ActorCommand} (bare : ∀ cmd ∈ channel, Bare cmd)
    (sanitize : link.codec.encoderMode = .sanitize) :
    Serves ⟨.running link, channel, false, true⟩ (some link.addr)

theorem Serves.openTarget {a : Actor} {target : Option Text} (serves : Serves a target) :
    openTarget a = target := by
  cases serves <;> rfl

theorem serves_new : Serves Actor.new none := .idle (by simp)

theorem decode_sanitize {c : OvpnCodec} (sanitize : c.encoderMode = .sanitize) (src : Bytes) :
    (c.decode src).1.encoderMode = .sanitize := by
  apply @decode_keeps (fun c => c.encoderMode = .sanitize)
  · intro a b same mode
    exact (congrArg OvpnCodec.encoderMode same).symm.trans mode
  · intro c line mode
    unfold OvpnCodec.takeBytes
    split
    · exact mode
    · exact mode
    · exact (takeFrame_keeps _ _).2.trans mode
  · exact sanitize

section Running
variable (engine : Bytes → Text)

theorem send_sanitize {link : Link} (sanitize : link.codec.encoderMode = .sanitize) {io : Io}
    (flushed : io.write = none) (cmd : OvpnCommand) :
    ∃ after bytes, link.send engine io cmd = .ok (after, bytes) ∧ after.addr = link.addr ∧
      after.codec.encoderMode = .sanitize := by
  have accepted : Accepted link.codec.encoderMode cmd := Or.inl sanitize
  obtain ⟨w, _, _, encoded⟩ := encode_accepted engine accepted []
  have sent : link.send engine io cmd =
      .ok ({ link with codec := (link.codec.encode engine cmd []).1 }, [] ++ wireBytes w) := by
    simp only [Link.send, encoded, flushed]
  refine ⟨_, _, sent, rfl, ?_⟩
  rw [encoded]
  exact sanitize

theorem take_serves {a : Actor} {target : Option Text} (serves : Serves a target) {io : Io}
    (connected : io.connect = none) (flushed : io.write = none) :
    ∃ taken, Serves (a.take engine io).1 (taken.foldl toggle target) ∧
      a.channel = taken ++ (a.take engine io).1.channel := by
  cases serves with
  | @idle channel bare =>
    cases channel with
    | nil => exact ⟨[], .idle bare, rfl⟩
    | cons cmd left =>
      have bareLeft : ∀ cmd ∈ left, Bare cmd := fun other member => bare other (by simp [member])
      refine ⟨[cmd], ?_⟩
      cases cmd with
      | connect host port startupCommands =>
        have empty : startupCommands = [] := bare (.connect host port startupCommands) (by simp)
        subst empty
        simp only [Actor.take, Actor.connect, connected, Actor.startup]
        exact ⟨.running bareLeft rfl, rfl⟩
      | disconnect => exact ⟨.idle bareLeft, rfl⟩
      | send cmd => exact ⟨.idle bareLeft, rfl⟩
  | @running link channel bare sanitize =>
    cases channel with
    | nil => exact ⟨[], .running bare sanitize, rfl⟩
    | cons cmd left =>
      have bareLeft : ∀ cmd ∈ left, Bare cmd := fun other member => bare other (by simp [member])
      refine ⟨[cmd], ?_⟩
      cases cmd with
      -- The loop that serves a socket gives it up, and the new target with it.
      | connect host port startupCommands => exact ⟨.idle bareLeft, rfl⟩
      | disconnect => exact ⟨.idle bareLeft, rfl⟩
      | send cmd =>
        obtain ⟨after, bytes, sent, addr, mode⟩ := send_sanitize engine sanitize flushed cmd
        simp only [Actor.take, Actor.command, sent, List.foldl_cons, List.foldl_nil, toggle, ← addr]
        exact ⟨.running bareLeft mode, rfl⟩

theorem poll_serves {a : Actor} {target : Option Text} (serves : Serves a target) {io : Io}
    (decodes : ∀ link e, a.phase = .running link → (link.codec.decode link.buffer).2.2 ≠ .error e) :
    Serves (a.poll engine io).1 target ∧ (a.poll engine io).1.channel = a.channel := by
  cases serves with
  | idle bare => exact ⟨.idle bare, rfl⟩
  | @running link channel bare sanitize =>
    have mode := decode_sanitize sanitize link.buffer
    rcases result : link.codec.decode link.buffer with ⟨codec, buffer, e | _ | msg⟩
    · exact absurd (by rw [result]) (decodes link e rfl)
    · rw [result] at mode
      simp only [Actor.poll, result]
      exact ⟨@Serves.running { link with codec, buffer } channel bare mode, trivial⟩
    · rw [result] at mode
      simp only [Actor.poll, result, Actor.report]
      exact ⟨@Serves.running { link with codec, buffer } channel bare mode, rfl⟩

theorem receive_serves {a : Actor} {target : Option Text} (serves : Serves a target)
    (chunk : Bytes) : Serves (a.receive chunk) target ∧ (a.receive chunk).channel = a.channel := by
  cases serves with
  | idle bare => exact ⟨.idle bare, rfl⟩
  | @running link channel bare sanitize =>
    exact ⟨@Serves.running { link with buffer := link.buffer ++ chunk } channel bare sanitize, rfl⟩

theorem bare_snoc {channel : List ActorCommand} {cmd : ActorCommand}
    (bare : ∀ other ∈ channel, Bare other) (bareNew : Bare cmd) :
    ∀ other ∈ channel ++ [cmd], Bare other := by
  intro other member
  rcases List.mem_append.mp member with earlier | last
  · exact bare other earlier
  · exact List.mem_singleton.mp last ▸ bareNew

theorem submit_serves {a : Actor} {target : Option Text} (serves : Serves a target)
    {cmd : ActorCommand} (bareNew : Bare cmd) :
    Serves { a with channel := a.channel ++ [cmd] } target := by
  cases serves with
  | idle bare => exact .idle (bare_snoc bare bareNew)
  | running bare sanitize => exact .running (bare_snoc bare bareNew) sanitize

/-- One occurrence: at most one command leaves the channel, and the socket follows it. -/
theorem step_serves {a : Actor} {target : Option Text} (serves : Serves a target) {io : Io}
    {o : Occurrence} (steady : Steady a io o) :
    ∃ taken, Serves (step engine a io o).1 (taken.foldl toggle target) ∧
      a.channel ++ submitted [(io, o)] = taken ++ (step engine a io o).1.channel := by
  cases o with
  | submit cmd =>
    have bareNew : Bare cmd := by
      cases cmd with
      | connect host port startupCommands => exact steady
      | disconnect => trivial
      | send cmd => trivial
    exact ⟨[], submit_serves serves bareNew, rfl⟩
  | take =>
    obtain ⟨taken, served, order⟩ := take_serves engine serves steady.1 steady.2
    refine ⟨taken, served, ?_⟩
    simp only [submitted, List.append_nil]
    exact order
  | receive chunk =>
    obtain ⟨served, same⟩ := receive_serves serves chunk
    exact ⟨[], served, by simp [submitted, step, same]⟩
  | poll =>
    obtain ⟨served, same⟩ := @poll_serves engine _ _ serves io steady
    exact ⟨[], served, by simp [submitted, step, same]⟩
  | timeout =>
    cases serves with
    | idle bare => exact ⟨[], .idle bare, by simp [submitted, step]⟩
    | running bare sanitize => exact ⟨[], .running bare sanitize, by simp [submitted, step]⟩
  | hangUp => cases steady
  | ended error => cases steady
  | uiGone => cases steady

theorem submitted_cons (s : Io × Occurrence) (more : List (Io × Occurrence)) :
    submitted (s :: more) = submitted [s] ++ submitted more := by
  obtain ⟨io, o⟩ := s
  cases o <;> rfl

theorem submitted_append (front back : List (Io × Occurrence)) :
    submitted (front ++ back) = submitted front ++ submitted back := by
  induction front with
  | nil => rfl
  | cons s more ih =>
    rw [List.cons_append, submitted_cons, ih, submitted_cons s more, List.append_assoc]

theorem run_serves {a : Actor} {target : Option Text} (serves : Serves a target)
    {steps : List (Io × Occurrence)} (steady : SteadyRun engine a steps) :
    ∃ taken, Serves (run engine a steps).1 (taken.foldl toggle target) ∧
      a.channel ++ submitted steps = taken ++ (run engine a steps).1.channel := by
  induction steps generalizing a target with
  | nil => exact ⟨[], serves, by simp [submitted, run]⟩
  | cons s more ih =>
    obtain ⟨io, o⟩ := s
    obtain ⟨first, next, order⟩ := step_serves engine serves steady.1
    obtain ⟨rest, last, left⟩ := ih next steady.2
    refine ⟨first ++ rest, ?_, ?_⟩
    · rw [List.foldl_append]
      exact last
    · rw [submitted_cons, ← List.append_assoc, order, List.append_assoc, left, List.append_assoc]
      rfl

end Running

theorem toggle_requested (cmds : List ActorCommand) :
    cmds.foldl toggle none =
        (if connectsSince cmds % 2 = 1 then requestedTarget cmds else none) ∧
      (requestedTarget cmds = none ↔ connectsSince cmds = 0) := by
  induction cmds using List.reverseRecOn with
  | nil => exact ⟨rfl, iff_of_true rfl rfl⟩
  | append_singleton earlier cmd ih =>
    obtain ⟨socket, none_iff⟩ := ih
    have count : connectsSince (earlier ++ [cmd]) = countConnect (connectsSince earlier) cmd := by
      simp [connectsSince]
    have target : requestedTarget (earlier ++ [cmd]) = follow (requestedTarget earlier) cmd := by
      simp [requestedTarget]
    rw [List.foldl_append, List.foldl_cons, List.foldl_nil, socket, count, target]
    cases cmd with
    | disconnect => exact ⟨rfl, iff_of_true rfl rfl⟩
    | send cmd => exact ⟨rfl, none_iff⟩
    | connect host port startupCommands =>
      refine ⟨?_, iff_of_false (by simp [follow]) (by simp [countConnect])⟩
      have next : countConnect (connectsSince earlier) (.connect host port startupCommands) =
        connectsSince earlier + 1 := rfl
      rw [next, toggle, follow]
      by_cases odd : connectsSince earlier % 2 = 1
      · have opened : requestedTarget earlier ≠ none := by
          intro closed
          rw [none_iff.mp closed] at odd
          cases odd
        rw [if_pos odd, if_pos (Option.isSome_iff_ne_none.mpr opened), if_neg (by omega)]
      · have nextOdd : (connectsSince earlier + 1) % 2 = 1 := by omega
        rw [if_neg odd, if_pos nextOdd]
        rfl

/-- Once all commands are taken, the actor is where the last Connect or Disconnect wants it exactly
    if that was a Disconnect, or one of an odd number of Connects in a row. -/
theorem last_request_honoured_iff (engine : Bytes → Text) (steps : List (Io × Occurrence))
    (steady : SteadyRun engine Actor.new steps)
    (processed : (run engine Actor.new steps).1.channel = []) :
    openTarget (run engine Actor.new steps).1 = requestedTarget (submitted steps) ↔
      connectsSince (submitted steps) = 0 ∨ connectsSince (submitted steps) % 2 = 1 := by
  obtain ⟨taken, serves, order⟩ := run_serves engine serves_new steady
  rw [processed, List.append_nil] at order
  have all : taken = submitted steps := order.symm
  rw [serves.openTarget, all]
  obtain ⟨socket, none_iff⟩ := toggle_requested (submitted steps)
  rw [socket]
  split
  · rename_i odd
    exact iff_of_true rfl (Or.inr odd)
  · rename_i even
    rw [eq_comm, none_iff]
    omega

def quiet : Io := ⟨none, none⟩

def promptly (cmds : List ActorCommand) : List (Io × Occurrence) :=
  cmds.flatMap fun cmd => [(quiet, .submit cmd), (quiet, .take)]

theorem last_request_honoured_reconnect :
    let steps := promptly [.connect (lit "::1") (lit "7505") [], .send .pid, .disconnect,
      .connect (lit "vpn") (lit "7505") []]
    openTarget (run (fun _ => []) Actor.new steps).1 = some (lit "vpn:7505") := by
  intro steps
  have steady : SteadyRun (fun _ => []) Actor.new steps :=
    ⟨rfl, ⟨rfl, rfl⟩, trivial, ⟨rfl, rfl⟩, trivial, ⟨rfl, rfl⟩, rfl, ⟨rfl, rfl⟩, trivial⟩
  have processed : (run (fun _ => []) Actor.new steps).1.channel = [] := by decide +kernel
  have honoured := (last_request_honoured_iff (fun _ => []) steps steady processed).mpr
    (by decide +kernel)
  rw [honoured]
  decide +kernel

/-- Two overlapping reconnects: the second Connect ends the connection of the first and is gone. -/
theorem overlapping_reconnects :
    let cmds : List ActorCommand := [.disconnect, .disconnect,
      .connect (lit "vpn") (lit "7505") [], .connect (lit "vpn") (lit "7505") []]
    SteadyRun (fun _ => []) Actor.new (promptly cmds) ∧
      (run (fun _ => []) Actor.new (promptly cmds)).1.channel = [] ∧
      requestedTarget cmds = some (lit "vpn:7505") ∧
      openTarget (run (fun _ => []) Actor.new (promptly cmds)).1 = none := by
  refine ⟨?_, by decide +kernel, by decide +kernel, by decide +kernel⟩
  exact ⟨trivial, ⟨rfl, rfl⟩, trivial, ⟨rfl, rfl⟩, rfl, ⟨rfl, rfl⟩, rfl, ⟨rfl, rfl⟩, trivial⟩

end MgmtActor
