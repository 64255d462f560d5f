import OpenvpnMgmt.Actor

/-!
What the actor has made of the commands it took. A connection that opens is one run of a fresh
endpoint on what arrived on its socket: what it writes are the commands that were taken for it, one
after the other, and what it reports are the messages of that run. Nothing is carried over to the
next connection, and every command has its fate, the unwritten ones too.
-/
namespace MgmtConnections
open TextOps Utf8Text MgmtEncoder MgmtCommand MgmtMessage MgmtFrame MgmtCodec MgmtDraining
  MgmtEncodeSafety MgmtActor
open MgmtMatching (Endpoint Step commands)

/-! Outputs -/

def writes : List Output → List Bytes
  | [] => []
  | .write _ bytes :: more => bytes :: writes more
  | .event _ :: more => writes more

def reported : List Output → List OvpnMessage
  | [] => []
  | .event (.message msg) :: more => msg :: reported more
  | _ :: more => reported more

def turns (out : List Output) : Nat := (reported out).countP fun msg => !isAsync msg

def timeouts : List (Io × Occurrence) → Nat
  | [] => 0
  | (_, .timeout) :: more => timeouts more + 1
  | _ :: more => timeouts more

theorem writes_append (a b : List Output) : writes (a ++ b) = writes a ++ writes b := by
  induction a with
  | nil => rfl
  | cons o more ih => cases o <;> simp [writes, ih]

theorem reported_append (a b : List Output) : reported (a ++ b) = reported a ++ reported b := by
  induction a with
  | nil => rfl
  | cons o more ih =>
    cases o with
    | write addr bytes => simp [reported, ih]
    | event event => cases event <;> simp [reported, ih]

theorem turns_append (a b : List Output) : turns (a ++ b) = turns a + turns b := by
  simp [turns, reported_append]

theorem turns_message (msg : OvpnMessage) :
    turns [.event (.message msg)] = if isAsync msg then 0 else 1 := by
  cases async : isAsync msg <;> simp [turns, reported, async]

section Connections
variable (engine : Bytes → Text)

/-! The commands -/

/- The command that an occurrence takes off the channel. The startup sequence does not look. -/
def takes (a : Actor) : Occurrence → List ActorCommand
  | .take =>
    match a.phase with
    | .idle => a.channel.head?.toList
    | .running _ => a.channel.head?.toList
    | _ => []
  | _ => []

def took : Actor → List (Io × Occurrence) → List ActorCommand
  | _, [] => []
  | a, (io, o) :: more => takes a o ++ took (step engine a io o).1 more

inductive Fate where
  /-- No socket was open. -/
  | ignored
  /-- The socket did not open. -/
  | refused
  /-- The socket opened, and these startup commands were written; those behind them never are. -/
  | opened (begun : List OvpnCommand)
  | written
  /-- The connection ended with it: another Connect, or a write that failed. -/
  | dropped

def writtenFor : ActorCommand × Fate → List OvpnCommand
  | (_, .opened begun) => begun
  | (.send cmd, .written) => [cmd]
  | (.disconnect, .written) => [.quit]
  | _ => []

def wireOf (cmd : OvpnCommand) : Bytes := (OvpnCodec.new.encode engine cmd []).2.1

/-! The endpoint behind a connection -/

def arrival : Occurrence → List Step
  | .receive chunk => [.receive chunk]
  | .poll => [.poll]
  | _ => []

def mayWrite : Occurrence → Bool
  | .take => true
  | .poll => true
  | .timeout => true
  | _ => false

/-- The steps of an endpoint in the course of these occurrences: what arrives and is asked for, and
    behind that at most one command, when the socket takes it. -/
inductive Trace : List (Io × Occurrence) → List Step → Prop
  | start : Trace [] []
  | passes {past : List (Io × Occurrence)} {steps : List Step} (earlier : Trace past steps) (io : Io)
    (o : Occurrence) : Trace (past ++ [(io, o)]) (steps ++ arrival o)
  | writes {past : List (Io × Occurrence)} {steps : List Step} (earlier : Trace past steps) {io : Io}
    {o : Occurrence} (cmd : OvpnCommand) (flushed : io.write = none) (due : mayWrite o = true) :
    Trace (past ++ [(io, o)]) (steps ++ arrival o ++ [.encode cmd])

def messageOf : Event → List Output
  | .ok msg => [.event (.message msg)]
  | .error _ => []

def outputsOf (addr : Text) : Endpoint → List Step → List Output
  | _, [] => []
  | e, s :: more =>
    let now := match s with
      | .encode cmd => [.write addr (wireOf engine cmd)]
      | _ => (MgmtMatching.step engine e s).2.flatMap messageOf
    now ++ outputsOf addr (MgmtMatching.step engine e s).1 more

structure Explains (link : Link) (given : List OvpnCommand) (body : List Output)
    (steps : List Step) : Prop where
  sent : commands steps = given
  told : body = outputsOf engine link.addr ⟨.new, [], []⟩ steps
  written : writes body = given.map (wireOf engine)
  endpoint : MgmtMatching.run engine ⟨.new, [], []⟩ steps =
    (⟨link.codec, link.buffer, (writes body).flatten⟩, (reported body).map .ok)

/-- What a connection has done in the course of these occurrences, with the commands it was given. -/
def Conversation (link : Link) (past : List (Io × Occurrence)) (given : List OvpnCommand)
    (body : List Output) : Prop :=
  ∃ steps, Trace past steps ∧ Explains engine link given body steps

/- The first of them took the Connect, and the socket opened. -/
def Dialled (past : List (Io × Occurrence)) : Prop :=
  ∃ io more, past = (io, .take) :: more ∧ io.connect = none

/-! The accounts -/

/-- An open connection. The startup sequence keeps the pace of the responses: every command but the
    first is preceded by a response of its own, or a timeout. -/
inductive Open : Phase → List (Io × Occurrence) → List (ActorCommand × Fate) → List Output → Prop
  | startup {link : Link} {left : List OvpnCommand} {saw : Bool} {past : List (Io × Occurrence)}
    {host port : Text} {begun : List OvpnCommand} {body : List Output} (dialled : Dialled past)
    (addr : link.addr = socketAddr host port) (talk : Conversation engine link past begun body)
    (prompted : saw = true ↔ .passwordPrompt ∈ reported body)
    (slow : begun.length ≤ turns body + timeouts past + 1)
    (ready : turns body + 1 ≤ begun.length) :
    Open (.startup link left saw) past [(.connect host port (begun ++ left), .opened begun)]
      (.event .connected :: body)
  | running {link : Link} {past : List (Io × Occurrence)} {host port : Text}
    {begun sends : List OvpnCommand} {body : List Output} (dialled : Dialled past)
    (addr : link.addr = socketAddr host port)
    (talk : Conversation engine link past (begun ++ sends) body)
    (slow : begun.length ≤ turns body + timeouts past) :
    Open (.running link) past
      ((.connect host port begun, .opened begun) :: sends.map fun cmd => (.send cmd, .written))
      (.event .connected :: body)

def linkOf : Phase → Option Link
  | .startup link _ _ => some link
  | .running link => some link
  | _ => none

/-- How a connection ends: the occurrence, the commands that are taken for it and what is told. -/
inductive Closing : Phase → Io × Occurrence → List (ActorCommand × Fate) → List Output → Prop
  | quit {link : Link} {io : Io} (flushed : io.write = none) :
    Closing (.running link) (io, .take) [(.disconnect, .written)]
      [.write link.addr (wireOf engine .quit), .event (.disconnected none)]
  | quitUnsent {link : Link} {io : Io} (failed : io.write ≠ none) :
    Closing (.running link) (io, .take) [(.disconnect, .dropped)] [.event (.disconnected none)]
  | another {link : Link} (io : Io) (host port : Text) (startupCommands : List OvpnCommand) :
    Closing (.running link) (io, .take) [(.connect host port startupCommands, .dropped)]
      [.event (.disconnected none)]
  | unsent {link : Link} {io : Io} (cmd : OvpnCommand) {error : Text}
    (failed : io.write = some error) :
    Closing (.running link) (io, .take) [(.send cmd, .dropped)]
      [.event (.disconnected (some (.text error)))]
  | undecoded {phase : Phase} {link : Link} (opened : linkOf phase = some link) (io : Io)
    {e : IoError} (failed : (link.codec.decode link.buffer).2.2 = .error e) :
    Closing phase (io, .poll) [] [.event (.disconnected (some (.decode e)))]
  | ended {link : Link} (io : Io) (error : Option Text) :
    Closing (.running link) (io, .ended error) [] [.event (.disconnected (error.map .text))]
  -- A prompt that nobody answered is the reason, unless there is an error.
  | startupEnded {link : Link} {left : List OvpnCommand} {saw : Bool} (io : Io)
    (error : Option Text) :
    Closing (.startup link left saw) (io, .ended error) []
      [.event (.disconnected
        ((error.or (if saw then some passwordRequired else none)).map .text))]

/-- While no socket is open: refused connects, whole connections, and commands that came in between
    and are gone. -/
inductive Settled : List (Io × Occurrence) → List (ActorCommand × Fate) → List Output → Prop
  | start : Settled [] [] []
  | passed {past : List (Io × Occurrence)} {taken : List (ActorCommand × Fate)} {out : List Output}
    (earlier : Settled past taken out) (s : Io × Occurrence) : Settled (past ++ [s]) taken out
  | ignored {past : List (Io × Occurrence)} {taken : List (ActorCommand × Fate)} {out : List Output}
    (earlier : Settled past taken out) (io : Io) {cmd : ActorCommand}
    (other : ∀ host port cmds, cmd ≠ .connect host port cmds) :
    Settled (past ++ [(io, .take)]) (taken ++ [(cmd, .ignored)]) out
  | refused {past : List (Io × Occurrence)} {taken : List (ActorCommand × Fate)} {out : List Output}
    (earlier : Settled past taken out) {io : Io} (host port : Text)
    (startupCommands : List OvpnCommand) {error : Text} (failed : io.connect = some error) :
    Settled (past ++ [(io, .take)]) (taken ++ [(.connect host port startupCommands, .refused)])
      (out ++ [.event (.disconnected (some (.text error)))])
  -- The write of a startup command fails.
  | unsent {past during : List (Io × Occurrence)} {taken : List (ActorCommand × Fate)}
    {out body : List Output} (earlier : Settled past taken out) {io : Io} {o : Occurrence}
    {link : Link} {host port : Text} {begun : List OvpnCommand} {cmd : OvpnCommand}
    {left : List OvpnCommand} {error : Text} (dialled : Dialled (during ++ [(io, o)]))
    (addr : link.addr = socketAddr host port)
    (talk : Conversation engine link (during ++ [(io, o)]) begun body)
    (slow : begun.length ≤ turns body + timeouts (during ++ [(io, o)]))
    (ready : turns body ≤ begun.length) (failed : io.write = some error) :
    Settled (past ++ (during ++ [(io, o)]))
      (taken ++ [(.connect host port (begun ++ cmd :: left), .opened begun)])
      (out ++ .event .connected :: body ++ [.event (.disconnected (some (.text error)))])
  | closed {past during : List (Io × Occurrence)} {taken mine last : List (ActorCommand × Fate)}
    {out body ending : List Output} {phase : Phase} {s : Io × Occurrence}
    (earlier : Settled past taken out) (opened : Open engine phase during mine body)
    (closing : Closing engine phase s last ending) :
    Settled (past ++ during ++ [s]) (taken ++ mine ++ last) (out ++ body ++ ending)

inductive Accounts :
    List (Io × Occurrence) → Phase → List (ActorCommand × Fate) → List Output → Prop
  | idle {past : List (Io × Occurrence)} {taken : List (ActorCommand × Fate)} {out : List Output}
    (settled : Settled engine past taken out) : Accounts past .idle taken out
  | opened {past during : List (Io × Occurrence)} {taken mine : List (ActorCommand × Fate)}
    {out body : List Output} {phase : Phase} (settled : Settled engine past taken out)
    (opened : Open engine phase during mine body) :
    Accounts (past ++ during) phase (taken ++ mine) (out ++ body)

/-! One endpoint -/

theorem encode_sanitize {c : OvpnCodec} (sanitize : c.encoderMode = .sanitize) (cmd : OvpnCommand)
    (dst : Bytes) :
    c.encode engine cmd dst =
      ({ c with expectedQueue := c.expectedQueue ++ [cmd.expectedResponse] },
        dst ++ wireOf engine cmd, .ok ()) := by
  have accepted : Accepted c.encoderMode cmd := Or.inl sanitize
  have acceptedNew : Accepted OvpnCodec.new.encoderMode cmd := Or.inl rfl
  obtain ⟨w, form, _, encoded⟩ := encode_accepted engine accepted dst
  obtain ⟨same, formNew, _, encodedNew⟩ := encode_accepted engine acceptedNew []
  have mode : OvpnCodec.new.encoderMode = c.encoderMode := sanitize.symm
  rw [mode, form] at formNew
  cases formNew
  rw [encoded, wireOf, encodedNew, List.nil_append]

theorem endpoint_append (e : Endpoint) (front back : List Step) :
    MgmtMatching.run engine e (front ++ back) =
      ((MgmtMatching.run engine (MgmtMatching.run engine e front).1 back).1,
        (MgmtMatching.run engine e front).2 ++
          (MgmtMatching.run engine (MgmtMatching.run engine e front).1 back).2) := by
  induction front generalizing e with
  | nil => rfl
  | cons s more ih =>
    simp only [List.cons_append, MgmtMatching.run, ih, List.append_assoc]

theorem run_snoc (e : Endpoint) (steps : List Step) (s : Step) :
    MgmtMatching.run engine e (steps ++ [s]) =
      ((MgmtMatching.step engine (MgmtMatching.run engine e steps).1 s).1,
        (MgmtMatching.run engine e steps).2 ++
          (MgmtMatching.step engine (MgmtMatching.run engine e steps).1 s).2) := by
  rw [endpoint_append]
  simp only [MgmtMatching.run, List.append_nil]

theorem commands_append (front back : List Step) :
    commands (front ++ back) = commands front ++ commands back := by
  induction front with
  | nil => rfl
  | cons s more ih => cases s <;> simp [commands, ih]

theorem run_sanitize {e : Endpoint} (sanitize : e.codec.encoderMode = .sanitize)
    (steps : List Step) : (MgmtMatching.run engine e steps).1.codec.encoderMode = .sanitize := by
  induction steps generalizing e with
  | nil => exact sanitize
  | cons s more ih =>
    apply ih
    cases s with
    | encode cmd =>
      simp only [encode_codec]
      exact sanitize
    | receive chunk => exact sanitize
    | poll => exact decode_sanitize sanitize e.buffer

variable {engine}

theorem Explains.sanitize {link : Link} {given : List OvpnCommand} {body : List Output}
    {steps : List Step} (talk : Explains engine link given body steps) :
    link.codec.encoderMode = .sanitize := by
  have mode := @run_sanitize engine ⟨.new, [], []⟩ rfl steps
  rw [talk.endpoint] at mode
  exact mode

theorem outputsOf_snoc (addr : Text) (e : Endpoint) (steps : List Step) (s : Step) :
    outputsOf engine addr e (steps ++ [s]) =
      outputsOf engine addr e steps ++
        outputsOf engine addr (MgmtMatching.run engine e steps).1 [s] := by
  induction steps generalizing e with
  | nil => simp [outputsOf, MgmtMatching.run]
  | cons first more ih =>
    simp only [List.cons_append, outputsOf, ih, MgmtMatching.run, List.append_assoc]

theorem explains_start (addr : Text) : Explains engine ⟨addr, .new, []⟩ [] [] [] :=
  ⟨rfl, rfl, rfl, rfl⟩

section Talking
variable {link : Link} {given : List OvpnCommand} {body : List Output} {steps : List Step}
  (talk : Explains engine link given body steps)
include talk

theorem Explains.receive (chunk : Bytes) :
    Explains engine { link with buffer := link.buffer ++ chunk } given body
      (steps ++ [.receive chunk]) := by
  refine ⟨?_, ?_, talk.written, ?_⟩
  · rw [commands_append, talk.sent]
    exact List.append_nil given
  · rw [outputsOf_snoc, ← talk.told]
    simp [outputsOf, MgmtMatching.step]
  · rw [run_snoc, talk.endpoint]
    simp [MgmtMatching.step]

theorem Explains.send {after : Link} {io : Io} {cmd : OvpnCommand} {bytes : Bytes}
    (sent : link.send engine io cmd = .ok (after, bytes)) :
    io.write = none ∧ after.addr = link.addr ∧ bytes = wireOf engine cmd ∧
      Explains engine after (given ++ [cmd]) (body ++ [.write link.addr bytes])
        (steps ++ [.encode cmd]) := by
  have encoded := encode_sanitize engine talk.sanitize cmd
  simp only [Link.send, encoded] at sent
  split at sent
  · rename_i flushed
    cases sent
    refine ⟨flushed, rfl, rfl, ?_, ?_, ?_, ?_⟩
    · rw [commands_append, talk.sent]
      rfl
    · rw [outputsOf_snoc, ← talk.told]
      simp [outputsOf]
    · rw [writes_append, talk.written]
      simp [writes]
    · rw [run_snoc, talk.endpoint]
      simp [MgmtMatching.step, encoded, writes_append, reported_append, writes, reported]
  · cases sent

theorem Explains.unsent {io : Io} {cmd : OvpnCommand} {reason : Reason}
    (failed : link.send engine io cmd = .error reason) :
    ∃ error, io.write = some error ∧ reason = .text error := by
  simp only [Link.send, encode_sanitize engine talk.sanitize cmd] at failed
  split at failed
  · cases failed
  · rename_i error found
    cases failed
    exact ⟨error, found, rfl⟩

theorem Explains.polled {codec : OvpnCodec} {buffer : Bytes} {out : Option OvpnMessage}
    (decoded : link.codec.decode link.buffer = (codec, buffer, .ok out)) :
    Explains engine { link with codec, buffer } given
      (body ++ out.toList.map fun msg => .event (.message msg)) (steps ++ [.poll]) := by
  have here : MgmtMatching.step engine ⟨link.codec, link.buffer, (writes body).flatten⟩ .poll =
      (⟨codec, buffer, (writes body).flatten⟩, out.toList.map .ok) := by
    simp only [MgmtMatching.step, decoded]
    cases out <;> rfl
  refine ⟨?_, ?_, ?_, ?_⟩
  · rw [commands_append, talk.sent]
    exact List.append_nil given
  · rw [outputsOf_snoc, ← talk.told, talk.endpoint]
    simp only [outputsOf, here]
    cases out <;> simp [messageOf]
  · rw [writes_append, talk.written]
    cases out <;> simp [writes]
  · rw [run_snoc, talk.endpoint, here]
    cases out <;> simp [writes_append, reported_append, writes, reported]

end Talking

/-! Conversations -/

variable (engine) in
def Arrived (link : Link) (past : List (Io × Occurrence)) (o : Occurrence)
    (given : List OvpnCommand) (body : List Output) : Prop :=
  ∃ steps, Trace past steps ∧ Explains engine link given body (steps ++ arrival o)

section Talking
variable {link : Link} {past : List (Io × Occurrence)} {o : Occurrence} {given : List OvpnCommand}
  {body : List Output}

theorem Arrived.passes (arrived : Arrived engine link past o given body) (io : Io) :
    Conversation engine link (past ++ [(io, o)]) given body := by
  obtain ⟨steps, trace, talk⟩ := arrived
  exact ⟨_, trace.passes io o, talk⟩

theorem Arrived.send (arrived : Arrived engine link past o given body) (due : mayWrite o = true)
    {after : Link} {io : Io} {cmd : OvpnCommand} {bytes : Bytes}
    (sent : link.send engine io cmd = .ok (after, bytes)) :
    after.addr = link.addr ∧ Conversation engine after (past ++ [(io, o)]) (given ++ [cmd])
      (body ++ [.write link.addr bytes]) := by
  obtain ⟨steps, trace, talk⟩ := arrived
  obtain ⟨flushed, same, _, next⟩ := talk.send sent
  exact ⟨same, _, trace.writes cmd flushed due, next⟩

theorem Arrived.unsent (arrived : Arrived engine link past o given body) {io : Io}
    {cmd : OvpnCommand} {reason : Reason} (failed : link.send engine io cmd = .error reason) :
    ∃ error, io.write = some error ∧ reason = .text error := by
  obtain ⟨steps, _, talk⟩ := arrived
  exact talk.unsent failed

theorem Conversation.arrived (talk : Conversation engine link past given body)
    (nothing : arrival o = []) : Arrived engine link past o given body := by
  obtain ⟨steps, trace, talk⟩ := talk
  exact ⟨steps, trace, by rwa [nothing, List.append_nil]⟩

theorem Conversation.receive (talk : Conversation engine link past given body) (chunk : Bytes) :
    Arrived engine { link with buffer := link.buffer ++ chunk } past (.receive chunk) given body := by
  obtain ⟨steps, trace, talk⟩ := talk
  exact ⟨steps, trace, talk.receive chunk⟩

theorem Conversation.polled (talk : Conversation engine link past given body) {codec : OvpnCodec}
    {buffer : Bytes} {out : Option OvpnMessage}
    (decoded : link.codec.decode link.buffer = (codec, buffer, .ok out)) :
    Arrived engine { link with codec, buffer } past .poll given
      (body ++ out.toList.map fun msg => .event (.message msg)) := by
  obtain ⟨steps, trace, talk⟩ := talk
  exact ⟨steps, trace, talk.polled decoded⟩

end Talking

theorem Dialled.snoc {past : List (Io × Occurrence)} (dialled : Dialled past)
    (s : Io × Occurrence) : Dialled (past ++ [s]) := by
  obtain ⟨io, more, rfl, connected⟩ := dialled
  exact ⟨io, more ++ [s], rfl, connected⟩

theorem timeouts_cons (s : Io × Occurrence) (more : List (Io × Occurrence)) :
    timeouts (s :: more) = timeouts [s] + timeouts more := by
  obtain ⟨io, o⟩ := s
  cases o <;> simp [timeouts, Nat.add_comm]

theorem timeouts_append (front back : List (Io × Occurrence)) :
    timeouts (front ++ back) = timeouts front + timeouts back := by
  induction front with
  | nil => simp [timeouts]
  | cons s more ih =>
    rw [List.cons_append, timeouts_cons, ih, timeouts_cons s more]
    omega

theorem timeouts_snoc (past : List (Io × Occurrence)) (s : Io × Occurrence) :
    timeouts past ≤ timeouts (past ++ [s]) := by
  rw [timeouts_append]
  exact Nat.le_add_right _ _

/-! One occurrence -/

theorem report_alive {a : Actor} {event : ActorEvent} {next : Phase}
    (alive : (a.report event next).1.phase ≠ .returned) :
    a.report event next = ({ a with phase := next }, [.event event]) := by
  unfold Actor.report at alive ⊢
  split
  · rfl
  · rename_i gone
    rw [if_neg gone] at alive
    exact absurd rfl alive

@[simp] theorem report_channel (a : Actor) (event : ActorEvent) (next : Phase) :
    (a.report event next).1.channel = a.channel := by
  unfold Actor.report
  split <;> rfl

@[simp] theorem startup_channel (a : Actor) (io : Io) (link : Link) (saw : Bool)
    (left : List OvpnCommand) : (a.startup engine io link saw left).1.channel = a.channel := by
  unfold Actor.startup
  split
  · rfl
  · split
    · exact report_channel _ _ _
    · rfl

variable {past during : List (Io × Occurrence)} {taken mine : List (ActorCommand × Fate)}
  {out body : List Output} {host port : Text} {begun left sends : List OvpnCommand} {link : Link}
  {saw : Bool} {io : Io} {o : Occurrence}

theorem startup_accounts (settled : Settled engine past taken out)
    (dialled : Dialled (during ++ [(io, o)])) (addr : link.addr = socketAddr host port)
    (arrived : Arrived engine link during o begun body)
    (prompted : saw = true ↔ .passwordPrompt ∈ reported body)
    (slow : begun.length ≤ turns body + timeouts (during ++ [(io, o)]))
    (ready : turns body ≤ begun.length) (due : mayWrite o = true) (a : Actor)
    (alive : (a.startup engine io link saw left).1.phase ≠ .returned) :
    ∃ fate, Accounts engine (past ++ (during ++ [(io, o)]))
      (a.startup engine io link saw left).1.phase
      (taken ++ [(.connect host port (begun ++ left), fate)])
      (out ++ (.event .connected :: body ++ (a.startup engine io link saw left).2)) := by
  cases left with
  | nil =>
    have talk : Conversation engine link (during ++ [(io, o)]) (begun ++ []) body := by
      rw [List.append_nil]
      exact arrived.passes io
    refine ⟨.opened begun, ?_⟩
    simp only [Actor.startup, List.append_nil]
    exact .opened settled (.running dialled addr talk slow)
  | cons cmd rest =>
    cases sent : link.send engine io cmd with
    | error reason =>
      obtain ⟨error, failed, rfl⟩ := arrived.unsent sent
      have settledLast := @Settled.unsent engine _ _ _ _ _ settled _ _ _ _ _ _ cmd rest _ dialled
        addr (arrived.passes io) slow ready failed
      refine ⟨.opened begun, ?_⟩
      simp only [Actor.startup, sent] at alive ⊢
      rw [report_alive alive]
      exact .idle (by simpa using settledLast)
    | ok result =>
      refine ⟨.opened (begun ++ [cmd]), ?_⟩
      obtain ⟨after, bytes⟩ := result
      obtain ⟨same, talk⟩ := arrived.send due sent
      have heard : turns (body ++ [.write link.addr bytes]) = turns body := turns_append _ _
      have seen : reported (body ++ [.write link.addr bytes]) = reported body := by
        simp [reported_append, reported]
      have opened : Open engine (.startup after rest saw) (during ++ [(io, o)])
          [(.connect host port (begun ++ [cmd] ++ rest), .opened (begun ++ [cmd]))]
          (.event .connected :: (body ++ [.write link.addr bytes])) := by
        apply Open.startup dialled (same.trans addr) talk (seen ▸ prompted)
        · rw [heard, List.length_append]
          exact Nat.add_le_add_right slow 1
        · rw [heard, List.length_append]
          exact Nat.add_le_add_right ready 1
      simp only [Actor.startup, sent]
      rw [List.append_assoc, List.singleton_append] at opened
      rw [same]
      exact .opened settled opened

variable (engine) in
def Advances (past : List (Io × Occurrence)) (s : Io × Occurrence)
    (taken : List (ActorCommand × Fate)) (cmds : List ActorCommand) (out : List Output)
    (next : Actor × List Output) : Prop :=
  ∃ after, after.map Prod.fst = taken.map Prod.fst ++ cmds ∧
    Accounts engine (past ++ [s]) next.1.phase after (out ++ next.2)

theorem Open.passes {phase : Phase} {s : Io × Occurrence} (opened : Open engine phase during mine body)
    (nothing : arrival s.2 = []) : Open engine phase (during ++ [s]) mine body := by
  cases opened with
  | startup dialled addr talk prompted slow ready =>
    refine .startup (dialled.snoc s) addr ((talk.arrived nothing).passes s.1) prompted ?_ ready
    have later := timeouts_snoc during s
    omega
  | running dialled addr talk slow =>
    exact .running (dialled.snoc s) addr ((talk.arrived nothing).passes s.1)
      (slow.trans (Nat.add_le_add_left (timeouts_snoc during s) _))

theorem Accounts.stays {a : Actor} {s : Io × Occurrence}
    (accounts : Accounts engine past a.phase taken out) (nothing : arrival s.2 = []) :
    Advances engine past s taken [] out (a, []) := by
  refine ⟨taken, by simp, ?_⟩
  rw [List.append_nil]
  generalize a.phase = phase at accounts ⊢
  cases accounts with
  | idle settled => exact .idle (settled.passed s)
  | opened settled opened =>
    rw [List.append_assoc]
    exact .opened settled (opened.passes nothing)

theorem Settled.stays {a : Actor} (settled : Settled engine past taken out)
    (idle : a.phase = .idle) (s : Io × Occurrence) :
    Advances engine past s taken [] out (a, []) := by
  refine ⟨taken, by simp, ?_⟩
  rw [idle, List.append_nil]
  exact .idle (settled.passed s)

theorem Open.advances {s : Io × Occurrence} {after : List (ActorCommand × Fate)} {a : Actor}
    {later : List Output} {cmds : List ActorCommand} (settled : Settled engine past taken out)
    (same : after.map Prod.fst = mine.map Prod.fst ++ cmds)
    (opened : Open engine a.phase (during ++ [s]) after (body ++ later)) :
    Advances engine (past ++ during) s (taken ++ mine) cmds (out ++ body) (a, later) := by
  refine ⟨taken ++ after, by simp [same], ?_⟩
  have accounts := Accounts.opened settled opened
  rw [List.append_assoc, List.append_assoc]
  exact accounts

theorem closed_advances {phase : Phase} {a : Actor} {event : ActorEvent} {s : Io × Occurrence}
    {last : List (ActorCommand × Fate)} (written : List Output)
    (settled : Settled engine past taken out) (opened : Open engine phase during mine body)
    (closing : Closing engine phase s last (written ++ [.event event]))
    (alive : (a.report event .idle).1.phase ≠ .returned) :
    Advances engine (past ++ during) s (taken ++ mine) (last.map Prod.fst) (out ++ body)
      ((a.report event .idle).1, written ++ (a.report event .idle).2) := by
  refine ⟨taken ++ mine ++ last, by simp, ?_⟩
  rw [report_alive alive]
  exact .idle (.closed settled opened closing)

theorem connect_advances (settled : Settled engine past taken out) {a : Actor}
    {startupCommands : List OvpnCommand}
    (alive : (a.connect engine io host port startupCommands).1.phase ≠ .returned) :
    Advances engine past (io, .take) taken [.connect host port startupCommands] out
      (a.connect engine io host port startupCommands) := by
  cases socket : io.connect with
  | some error =>
    simp only [Actor.connect, socket] at alive ⊢
    rw [report_alive alive]
    exact ⟨_, by simp, .idle (settled.refused host port startupCommands socket)⟩
  | none =>
    simp only [Actor.connect, socket] at alive ⊢
    by_cases listening : a.listening = true
    · rw [if_pos listening] at alive ⊢
      have dialled : Dialled ([] ++ [(io, .take)]) := ⟨io, [], rfl, socket⟩
      have arrived : Arrived engine ⟨socketAddr host port, .new, []⟩ [] .take [] [] :=
        ⟨[], .start, explains_start _⟩
      obtain ⟨fate, accounts⟩ := startup_accounts settled dialled rfl arrived (by simp [reported])
        (Nat.zero_le _) (Nat.le_refl 0) rfl a alive
      exact ⟨_, by simp, accounts⟩
    · rw [if_neg listening] at alive
      exact absurd rfl alive

theorem command_advances (settled : Settled engine past taken out)
    (dialled : Dialled during) (addr : link.addr = socketAddr host port)
    (talk : Conversation engine link during (begun ++ sends) body)
    (slow : begun.length ≤ turns body + timeouts during) {a : Actor} (cmd : ActorCommand)
    (alive : (a.command engine io link cmd).1.phase ≠ .returned) :
    Advances engine (past ++ during) (io, .take)
      (taken ++ (.connect host port begun, .opened begun) :: sends.map fun cmd => (.send cmd, .written))
      [cmd] (out ++ .event .connected :: body) (a.command engine io link cmd) := by
  have opened := Open.running dialled addr talk slow
  have arrived : Arrived engine link during .take (begun ++ sends) body := talk.arrived rfl
  cases cmd with
  | connect host port startupCommands =>
    exact closed_advances [] settled opened (.another io host port startupCommands) alive
  | disconnect =>
    cases sent : link.send engine io .quit with
    | error reason =>
      obtain ⟨error, failed, rfl⟩ := arrived.unsent sent
      simp only [Actor.command, sent] at alive ⊢
      exact closed_advances [] settled opened (.quitUnsent (by simp [failed])) alive
    | ok result =>
      obtain ⟨after, bytes⟩ := result
      obtain ⟨steps, _, explains⟩ := talk
      obtain ⟨flushed, _, rfl, _⟩ := explains.send sent
      simp only [Actor.command, sent] at alive ⊢
      exact closed_advances [.write link.addr (wireOf engine .quit)] settled opened (.quit flushed)
        alive
  | send cmd =>
    cases sent : link.send engine io cmd with
    | error reason =>
      obtain ⟨error, failed, rfl⟩ := arrived.unsent sent
      simp only [Actor.command, sent] at alive ⊢
      exact closed_advances [] settled opened (.unsent cmd failed) alive
    | ok result =>
      obtain ⟨after, bytes⟩ := result
      obtain ⟨same, next⟩ := arrived.send rfl sent
      have heard : turns (body ++ [.write link.addr bytes]) = turns body := turns_append _ _
      rw [List.append_assoc] at next
      have later := Open.running (dialled.snoc (io, .take)) (same.trans addr) next
        (by have := timeouts_snoc during (io, .take); omega)
      simp only [Actor.command, sent]
      rw [same]
      exact Open.advances settled (by simp) later

theorem ignored_advances {a : Actor} (settled : Settled engine past taken out)
    (idle : a.phase = .idle) {cmd : ActorCommand}
    (other : ∀ host port startupCommands, cmd ≠ .connect host port startupCommands) :
    Advances engine past (io, .take) taken [cmd] out (a, []) := by
  refine ⟨taken ++ [(cmd, .ignored)], by simp, ?_⟩
  rw [idle, List.append_nil]
  exact .idle (settled.ignored io other)

theorem take_advances {a : Actor} (accounts : Accounts engine past a.phase taken out)
    (alive : (a.take engine io).1.phase ≠ .returned) :
    Advances engine past (io, .take) taken (takes a .take) out (a.take engine io) := by
  obtain ⟨phase, channel, hungUp, listening⟩ := a
  have empty
      (same : (⟨phase, [], hungUp, listening⟩ : Actor).take engine io =
        (if hungUp = true then ⟨.returned, [], hungUp, listening⟩ else
          ⟨phase, [], hungUp, listening⟩, []))
      (alive : ((⟨phase, [], hungUp, listening⟩ : Actor).take engine io).1.phase ≠ .returned) :
      Advances engine past (io, .take) taken [] out
        ((⟨phase, [], hungUp, listening⟩ : Actor).take engine io) := by
    rw [same] at alive ⊢
    by_cases closed : hungUp = true
    · rw [if_pos closed] at alive
      exact absurd rfl alive
    · rw [if_neg closed]
      exact @Accounts.stays engine past taken out ⟨phase, [], hungUp, listening⟩ _ accounts
        rfl
  cases accounts with
  | idle settled =>
    cases channel with
    | nil => exact empty rfl alive
    | cons cmd rest =>
      cases cmd with
      | connect host port startupCommands => exact connect_advances settled alive
      | disconnect => exact ignored_advances settled rfl (by simp)
      | send cmd => exact ignored_advances settled rfl (by simp)
  | opened settled opened =>
    cases opened with
    | @startup link left saw _ _ _ _ _ dialled addr talk prompted slow ready =>
      exact @Accounts.stays engine _ _ _ ⟨.startup link left saw, channel, hungUp, listening⟩ _
        (.opened settled (.startup dialled addr talk prompted slow ready)) rfl
    | @running link _ _ _ _ _ _ dialled addr talk slow =>
      cases channel with
      | nil => exact empty rfl alive
      | cons cmd rest => exact command_advances settled dialled addr talk slow cmd alive

theorem startupMessage_advances (settled : Settled engine past taken out) (dialled : Dialled during)
    (addr : link.addr = socketAddr host port) {msg : OvpnMessage}
    (arrived : Arrived engine link during .poll begun (body ++ [.event (.message msg)]))
    (prompted : saw = true ↔ .passwordPrompt ∈ reported body)
    (slow : begun.length ≤ turns body + timeouts during + 1) (ready : turns body + 1 ≤ begun.length)
    {a : Actor} (alive : (a.startupMessage engine io link left saw msg).1.phase ≠ .returned) :
    Advances engine (past ++ during) (io, .poll)
      (taken ++ [(.connect host port (begun ++ left), .opened begun)]) []
      (out ++ .event .connected :: body) (a.startupMessage engine io link left saw msg) := by
  have seen : (saw || decide (msg = .passwordPrompt)) = true ↔
      .passwordPrompt ∈ reported (body ++ [.event (.message msg)]) := by
    rw [Bool.or_eq_true, prompted, reported_append, List.mem_append, decide_eq_true_eq]
    simp [reported, eq_comm]
  have later := timeouts_snoc during (io, .poll)
  by_cases listening : a.listening = true
  · by_cases async : isAsync msg = true
    · have heard : turns (body ++ [.event (.message msg)]) = turns body := by
        rw [turns_append, turns_message, if_pos async, Nat.add_zero]
      have opened : Open engine (.startup link left (saw || decide (msg = .passwordPrompt)))
          (during ++ [(io, .poll)]) [(.connect host port (begun ++ left), .opened begun)]
          (.event .connected :: (body ++ [.event (.message msg)])) :=
        .startup (dialled.snoc _) addr (arrived.passes io) seen (by omega) (by omega)
      simp only [Actor.startupMessage, if_pos listening, if_pos async]
      exact Open.advances settled (by simp) opened
    · have heard : turns (body ++ [.event (.message msg)]) = turns body + 1 := by
        rw [turns_append, turns_message, if_neg async]
      simp only [Actor.startupMessage, if_pos listening, if_neg async] at alive ⊢
      obtain ⟨fate, accounts⟩ := startup_accounts settled (dialled.snoc (io, .poll)) addr arrived seen
        (by omega) (by omega) rfl a alive
      refine ⟨taken ++ [(.connect host port (begun ++ left), fate)], by simp, ?_⟩
      rw [List.append_assoc]
      simpa using accounts
  · simp only [Actor.startupMessage, if_neg listening] at alive
    exact absurd rfl alive

theorem poll_advances {a : Actor} (accounts : Accounts engine past a.phase taken out)
    (alive : (a.poll engine io).1.phase ≠ .returned) :
    Advances engine past (io, .poll) taken [] out (a.poll engine io) := by
  obtain ⟨phase, channel, hungUp, listening⟩ := a
  cases accounts with
  | idle settled =>
    exact settled.stays rfl _
  | @opened _ during _ _ _ _ _ settled opened =>
    have later := timeouts_snoc during (io, .poll)
    cases opened with
    | @startup link left saw _ host port begun body dialled addr talk prompted slow ready =>
      rcases result : link.codec.decode link.buffer with ⟨codec, buffer, e | _ | msg⟩
      · simp only [Actor.poll, result] at alive ⊢
        exact closed_advances [] settled (.startup dialled addr talk prompted slow ready)
          (.undecoded rfl io (by rw [result])) alive
      · have arrived := talk.polled result
        rw [Option.toList_none, List.map_nil, List.append_nil] at arrived
        have opened : Open engine (.startup { link with codec, buffer } left saw)
            (during ++ [(io, .poll)]) [(.connect host port (begun ++ left), .opened begun)]
            (.event .connected :: body) :=
          .startup (dialled.snoc _) addr (arrived.passes io) prompted (by omega) ready
        rw [← List.append_nil (_ :: body)] at opened
        simp only [Actor.poll, result]
        exact Open.advances settled (by simp) opened
      · simp only [Actor.poll, result] at alive ⊢
        exact @startupMessage_advances engine _ _ _ _ _ _ _ _ _ { link with codec, buffer } _ _
          settled dialled addr _ (talk.polled result) prompted slow ready _ alive
    | @running link _ host port begun sends body dialled addr talk slow =>
      rcases result : link.codec.decode link.buffer with ⟨codec, buffer, e | _ | msg⟩
      · simp only [Actor.poll, result] at alive ⊢
        exact closed_advances [] settled (.running dialled addr talk slow)
          (.undecoded rfl io (by rw [result])) alive
      · have arrived := talk.polled result
        rw [Option.toList_none, List.map_nil, List.append_nil] at arrived
        have opened : Open engine (.running { link with codec, buffer }) (during ++ [(io, .poll)])
            ((.connect host port begun, .opened begun) :: sends.map fun cmd => (.send cmd, .written))
            (.event .connected :: body) :=
          .running (dialled.snoc _) addr (arrived.passes io) (by omega)
        rw [← List.append_nil (_ :: body)] at opened
        simp only [Actor.poll, result]
        exact Open.advances settled (by simp) opened
      · have heard : turns body ≤ turns (body ++ [.event (.message msg)]) := by simp [turns_append]
        have opened : Open engine (.running { link with codec, buffer }) (during ++ [(io, .poll)])
            ((.connect host port begun, .opened begun) :: sends.map fun cmd => (.send cmd, .written))
            (.event .connected :: (body ++ [.event (.message msg)])) :=
          .running (dialled.snoc _) addr ((talk.polled result).passes io) (by omega)
        simp only [Actor.poll, result] at alive ⊢
        rw [report_alive alive]
        exact Open.advances settled (by simp) opened

theorem receive_advances {a : Actor} (accounts : Accounts engine past a.phase taken out)
    (chunk : Bytes) :
    Advances engine past (io, .receive chunk) taken [] out (a.receive chunk, []) := by
  obtain ⟨phase, channel, hungUp, listening⟩ := a
  cases accounts with
  | idle settled =>
    exact settled.stays rfl _
  | @opened _ during _ _ _ _ _ settled opened =>
    have later := timeouts_snoc during (io, .receive chunk)
    cases opened with
    | @startup link left saw _ host port begun body dialled addr talk prompted slow ready =>
      have opened : Open engine (.startup { link with buffer := link.buffer ++ chunk } left saw)
          (during ++ [(io, .receive chunk)]) [(.connect host port (begun ++ left), .opened begun)]
          (.event .connected :: body) :=
        .startup (dialled.snoc _) addr ((talk.receive chunk).passes io) prompted (by omega) ready
      rw [← List.append_nil (_ :: body)] at opened
      exact Open.advances settled (by simp) opened
    | @running link _ host port begun sends body dialled addr talk slow =>
      have opened : Open engine (.running { link with buffer := link.buffer ++ chunk })
          (during ++ [(io, .receive chunk)])
          ((.connect host port begun, .opened begun) :: sends.map fun cmd => (.send cmd, .written))
          (.event .connected :: body) :=
        .running (dialled.snoc _) addr ((talk.receive chunk).passes io) (by omega)
      rw [← List.append_nil (_ :: body)] at opened
      exact Open.advances settled (by simp) opened

theorem ended_advances {a : Actor} (accounts : Accounts engine past a.phase taken out)
    (error : Option Text) (alive : (a.ended error).1.phase ≠ .returned) :
    Advances engine past (io, .ended error) taken [] out (a.ended error) := by
  obtain ⟨phase, channel, hungUp, listening⟩ := a
  cases accounts with
  | idle settled =>
    exact settled.stays rfl _
  | opened settled opened =>
    cases opened with
    | startup dialled addr talk prompted slow ready =>
      exact closed_advances [] settled (.startup dialled addr talk prompted slow ready)
        (.startupEnded io error) alive
    | running dialled addr talk slow =>
      exact closed_advances [] settled (.running dialled addr talk slow) (.ended io error) alive

theorem timeout_advances {a : Actor} (accounts : Accounts engine past a.phase taken out)
    (alive : (step engine a io .timeout).1.phase ≠ .returned) :
    Advances engine past (io, .timeout) taken [] out (step engine a io .timeout) := by
  obtain ⟨phase, channel, hungUp, listening⟩ := a
  cases accounts with
  | idle settled =>
    exact settled.stays rfl _
  | @opened _ during earlier _ _ _ _ settled opened =>
    cases opened with
    | @startup link left saw _ host port begun body dialled addr talk prompted slow ready =>
      have one : timeouts (during ++ [(io, .timeout)]) = timeouts during + 1 := by
        rw [timeouts_append]
        rfl
      obtain ⟨fate, accounts⟩ := startup_accounts settled (dialled.snoc (io, .timeout)) addr
        (talk.arrived rfl) prompted (by omega) (by omega) rfl
        ⟨.startup link left saw, channel, hungUp, listening⟩ alive
      refine ⟨earlier ++ [(.connect host port (begun ++ left), fate)], by simp, ?_⟩
      rw [List.append_assoc, List.append_assoc]
      exact accounts
    | @running link _ _ _ _ _ _ dialled addr talk slow =>
      exact @Accounts.stays engine _ _ _ ⟨.running link, channel, hungUp, listening⟩ _
        (.opened settled (.running dialled addr talk slow)) rfl

theorem step_advances {a : Actor} (accounts : Accounts engine past a.phase taken out) (io : Io)
    (o : Occurrence) (alive : (step engine a io o).1.phase ≠ .returned) :
    Advances engine past (io, o) taken (takes a o) out (step engine a io o) := by
  cases o with
  | submit cmd =>
    exact @Accounts.stays engine _ _ _ { a with channel := a.channel ++ [cmd] } _ accounts rfl
  | hangUp => exact @Accounts.stays engine _ _ _ { a with hungUp := true } _ accounts rfl
  | uiGone =>
    exact @Accounts.stays engine _ _ _ { a with listening := false } _ accounts rfl
  | take => exact take_advances accounts alive
  | receive chunk => exact receive_advances accounts chunk
  | poll => exact poll_advances accounts alive
  | ended error => exact ended_advances accounts error alive
  | timeout => exact timeout_advances accounts alive

/-! Runs -/

theorem returned_step {a : Actor} (gone : a.phase = .returned) (io : Io) (o : Occurrence) :
    (step engine a io o).1.phase = .returned := by
  obtain ⟨phase, channel, hungUp, listening⟩ := a
  cases gone
  cases o <;> rfl

theorem returned_run {a : Actor} (gone : a.phase = .returned) (steps : List (Io × Occurrence)) :
    (run engine a steps).1.phase = .returned := by
  induction steps generalizing a with
  | nil => exact gone
  | cons s more ih => exact ih (returned_step gone s.1 s.2)

theorem run_advances {a : Actor} (accounts : Accounts engine past a.phase taken out)
    (steps : List (Io × Occurrence)) (alive : (run engine a steps).1.phase ≠ .returned) :
    ∃ after, after.map Prod.fst = taken.map Prod.fst ++ took engine a steps ∧
      Accounts engine (past ++ steps) (run engine a steps).1.phase after
        (out ++ (run engine a steps).2) := by
  induction steps generalizing a past taken out with
  | nil => exact ⟨taken, by simp [took], by simpa [run] using accounts⟩
  | cons s more ih =>
    obtain ⟨io, o⟩ := s
    have first : (step engine a io o).1.phase ≠ .returned := fun gone =>
      alive (returned_run gone more)
    obtain ⟨mid, now, next⟩ := step_advances accounts io o first
    obtain ⟨after, rest, last⟩ := ih next alive
    refine ⟨after, ?_, ?_⟩
    · rw [rest, now, List.append_assoc]
      rfl
    · rw [List.append_assoc, List.append_assoc] at last
      exact last

theorem take_channel (a : Actor) (io : Io) :
    a.channel = takes a .take ++ (a.take engine io).1.channel := by
  obtain ⟨phase, channel, hungUp, listening⟩ := a
  cases phase with
  | startup link left saw => rfl
  | returned => rfl
  | idle =>
    cases channel with
    | nil => cases hungUp <;> rfl
    | cons cmd rest =>
      cases cmd with
      | connect host port cmds =>
        simp only [takes, Actor.take, Actor.connect]
        split
        · simp
        · split <;> simp
      | disconnect => simp [takes, Actor.take]
      | send cmd => simp [takes, Actor.take]
  | running link =>
    cases channel with
    | nil => cases hungUp <;> rfl
    | cons cmd rest =>
      cases cmd with
      | connect host port cmds => simp [takes, Actor.take, Actor.command]
      | disconnect => simp [takes, Actor.take, Actor.command]
      | send cmd =>
        simp only [takes, Actor.take, Actor.command]
        split <;> simp

theorem poll_channel (a : Actor) (io : Io) : (a.poll engine io).1.channel = a.channel := by
  unfold Actor.poll Actor.startupMessage
  repeat' split
  all_goals simp

theorem step_channel (a : Actor) (io : Io) (o : Occurrence) :
    a.channel ++ submitted [(io, o)] = takes a o ++ (step engine a io o).1.channel := by
  cases o with
  | take =>
    simp only [submitted, List.append_nil]
    exact take_channel a io
  | poll => simp [submitted, takes, step, poll_channel]
  | receive chunk =>
    simp only [submitted, takes, step, Actor.receive]
    split <;> simp
  | ended error =>
    simp only [submitted, takes, step, Actor.ended]
    split <;> simp
  | timeout =>
    simp only [submitted, takes, step]
    split <;> simp
  | submit cmd => rfl
  | hangUp => simp [submitted, takes, step]
  | uiGone => simp [submitted, takes, step]

theorem run_channel (a : Actor) (steps : List (Io × Occurrence)) :
    a.channel ++ submitted steps = took engine a steps ++ (run engine a steps).1.channel := by
  induction steps generalizing a with
  | nil => simp [submitted, took, run]
  | cons s more ih =>
    obtain ⟨io, o⟩ := s
    rw [submitted_cons, ← List.append_assoc, step_channel, List.append_assoc, ih, took,
      List.append_assoc]
    rfl

/-! What is written -/

theorem Open.written {phase : Phase} (opened : Open engine phase during mine body) :
    writes body = (mine.flatMap writtenFor).map (wireOf engine) := by
  cases opened with
  | startup dialled addr talk prompted slow ready =>
    obtain ⟨steps, _, talk⟩ := talk
    simpa [writes, writtenFor] using talk.written
  | @running link past host port begun sends body dialled addr talk slow =>
    obtain ⟨steps, _, talk⟩ := talk
    have each : (sends.map fun cmd => (ActorCommand.send cmd, Fate.written)).flatMap writtenFor =
        sends := by
      simp [List.flatMap_map, writtenFor]
    rw [List.flatMap_cons, each]
    exact talk.written

theorem Closing.written {phase : Phase} {s : Io × Occurrence} {last : List (ActorCommand × Fate)}
    {ending : List Output} (closing : Closing engine phase s last ending) :
    writes ending = (last.flatMap writtenFor).map (wireOf engine) := by
  cases closing <;> rfl

theorem Settled.written (settled : Settled engine past taken out) :
    writes out = (taken.flatMap writtenFor).map (wireOf engine) := by
  induction settled with
  | start => rfl
  | passed earlier s ih => exact ih
  | @ignored past taken out earlier io cmd other ih =>
    have nothing : writtenFor (cmd, .ignored) = [] := by cases cmd <;> rfl
    simp [ih, nothing]
  | refused earlier host port startupCommands failed ih =>
    rw [writes_append, ih]
    simp [writes, writtenFor]
  | unsent earlier dialled addr talk slow ready failed ih =>
    obtain ⟨steps, _, talk⟩ := talk
    simp [writes_append, ih, writes, writtenFor, talk.written]
  | closed earlier opened closing ih =>
    simp [writes_append, ih, opened.written, closing.written]

theorem Accounts.written {phase : Phase} (accounts : Accounts engine past phase taken out) :
    writes out = (taken.flatMap writtenFor).map (wireOf engine) := by
  cases accounts with
  | idle settled => exact settled.written
  | opened settled opened => simp [writes_append, settled.written, opened.written]

theorem run_fates {steps : List (Io × Occurrence)}
    (alive : (run engine Actor.new steps).1.phase ≠ .returned) :
    ∃ fates, fates.map Prod.fst = took engine Actor.new steps ∧
      writes (run engine Actor.new steps).2 = (fates.flatMap writtenFor).map (wireOf engine) ∧
      Accounts engine steps (run engine Actor.new steps).1.phase fates
        (run engine Actor.new steps).2 := by
  have fresh : Accounts engine [] Actor.new.phase [] [] := .idle .start
  obtain ⟨fates, order, accounts⟩ := run_advances fresh steps alive
  exact ⟨fates, order, accounts.written, accounts⟩

end Connections

theorem open_alive {a : Actor} (opened : (openTarget a).isSome = true) : a.phase ≠ .returned := by
  intro gone
  rw [openTarget, gone] at opened
  cases opened

def lateStartup : List (Io × Occurrence) :=
  [(quiet, .submit (.send .help)), (quiet, .take),
    (quiet, .submit (.connect (lit "vpn") (lit "7505") [.pid, .version])), (quiet, .take),
    (quiet, .timeout), (quiet, .receive (MgmtServerStream.wire [lit "SUCCESS: pid=7"])),
    (quiet, .poll), (quiet, .submit (.send .state)), (quiet, .take), (quiet, .submit .disconnect)]

end MgmtConnections
