import OpenvpnMgmt.Serving

/-!
The event loops of the two example programs. A loop writes its startup sequence without waiting and
then hands one event after the other to its body, which calls for commands or leaves the loop. Which
commands go out depends on what comes in, and what comes in answers what went out; a server that
answers every command in order is nevertheless in step with the queue along the whole run.
-/
namespace MgmtEventLoops
open TextOps Utf8Text MgmtEncoder MgmtValues MgmtCommand MgmtMessage MgmtFrame MgmtCodec
  MgmtDraining MgmtServerStream MgmtConnections MgmtServing
open MgmtMatching (Endpoint Step Synced InTime readerOf commands received kinds)
open MgmtActor (decode_sanitize)

/-! The loops -/

/- `none` leaves the loop. -/
structure Program where
  startup : List OvpnCommand
  react : OvpnMessage → Option (List OvpnCommand)

def approval : OvpnMessage → List OvpnCommand
  | .notification (.client .connect cid (some kid) _) => [.clientAuthNt cid kid]
  | _ => []

def serverMode : Program := ⟨serverConnectionSequence 5 0, fun msg => some (approval msg)⟩

def clientMode : Program where
  startup := connectionSequence 5 ++ [.status .v3]
  react
    | .notification (.fatal _) => none
    | _ => some []

inductive Shown where
  | event (msg : OvpnMessage)
  | write (bytes : Bytes)

/- `room` is how many commands the socket takes before it fails. -/
structure Session where
  codec : OvpnCodec
  buffer : Bytes
  room : Nat
  running : Bool

inductive Turn where
  | receive (chunk : Bytes)
  /-- The loop asks the stream for an event. -/
  | poll
  /-- The stream ends, by an error or without. -/
  | ended
  deriving DecidableEq

section Loop
variable (engine : Bytes → Text) (p : Program)

/- The encoder of a new codec refuses nothing; a socket that fails ends the session. -/
def Session.send (s : Session) : List OvpnCommand → Session × List Shown
  | [] => (s, [])
  | cmd :: more =>
    match s.room with
    | 0 => ({ s with running := false }, [])
    | room + 1 =>
      let (codec, bytes, _) := s.codec.encode engine cmd []
      let (last, out) := Session.send { s with codec, room } more
      (last, .write bytes :: out)

def Session.step (s : Session) (turn : Turn) : Session × List Shown :=
  if s.running then
    match turn with
    | .receive chunk => ({ s with buffer := s.buffer ++ chunk }, [])
    | .ended => ({ s with running := false }, [])
    | .poll =>
      match s.codec.decode s.buffer with
      | (codec, buffer, .ok none) => ({ s with codec, buffer }, [])
      | (codec, buffer, .error _) => ({ s with codec, buffer, running := false }, [])
      | (codec, buffer, .ok (some msg)) =>
        match p.react msg with
        | none => ({ s with codec, buffer, running := false }, [.event msg])
        | some cmds =>
          let (next, out) := Session.send engine { s with codec, buffer } cmds
          (next, .event msg :: out)
  else (s, [])

def Session.run (s : Session) : List Turn → Session × List Shown
  | [] => (s, [])
  | turn :: more =>
    let (next, out) := s.step engine p turn
    let (last, later) := next.run more
    (last, out ++ later)

def started (room : Nat) : Session × List Shown :=
  Session.send engine ⟨.new, [], room, true⟩ p.startup

def handleConnection (room : Nat) (turns : List Turn) : Session × List Shown :=
  let (s, first) := started engine p room
  let (last, later) := s.run engine p turns
  (last, first ++ later)

end Loop

def written : List Shown → List Bytes
  | [] => []
  | .write bytes :: more => bytes :: written more
  | .event _ :: more => written more

def heard : List Shown → List OvpnMessage
  | [] => []
  | .event msg :: more => msg :: heard more
  | .write _ :: more => heard more

theorem written_append (a b : List Shown) : written (a ++ b) = written a ++ written b := by
  induction a with
  | nil => rfl
  | cons shown more ih => cases shown <;> simp [written, ih]

theorem heard_append (a b : List Shown) : heard (a ++ b) = heard a ++ heard b := by
  induction a with
  | nil => rfl
  | cons shown more ih => cases shown <;> simp [heard, ih]

/-! The endpoint inside -/

section Endpoint
variable (engine : Bytes → Text) (p : Program)

def Session.called (s : Session) : List OvpnCommand :=
  match (s.codec.decode s.buffer).2.2 with
  | .ok (some msg) => (p.react msg).getD []
  | _ => []

def Session.stepsOf (s : Session) (turn : Turn) : List Step :=
  if s.running then
    match turn with
    | .receive chunk => [.receive chunk]
    | .poll => .poll :: ((s.called p).take s.room).map .encode
    | .ended => []
  else []

def Session.runSteps (s : Session) : List Turn → List Step
  | [] => []
  | turn :: more => s.stepsOf p turn ++ (s.step engine p turn).1.runSteps more

def connectionSteps (room : Nat) (turns : List Turn) : List Step :=
  (p.startup.take room).map .encode ++ (started engine p room).1.runSteps engine p turns

end Endpoint

/-- What sending commands in a row does: as many as the socket takes are written, each of them
    whole, and the session goes on if that is all of them. -/
structure Sends (engine : Bytes → Text) (s : Session) (cmds : List OvpnCommand)
    (r : Session × List Shown) : Prop where
  endpoint : ∀ sent, MgmtMatching.run engine ⟨s.codec, s.buffer, sent⟩
    ((cmds.take s.room).map .encode) =
      (⟨r.1.codec, r.1.buffer, sent ++ (written r.2).flatten⟩, [])
  wires : written r.2 = (cmds.take s.room).map (wireOf engine)
  silent : heard r.2 = []
  sanitize : r.1.codec.encoderMode = .sanitize
  room : r.1.room = s.room - cmds.length
  running : r.1.running = true ↔ s.running = true ∧ cmds.length ≤ s.room

theorem send_sends {engine : Bytes → Text} {s : Session}
    (sanitize : s.codec.encoderMode = .sanitize) (cmds : List OvpnCommand) :
    Sends engine s cmds (s.send engine cmds) := by
  induction cmds generalizing s with
  | nil =>
    refine ⟨fun sent => ?_, by rw [List.take_nil]; rfl, rfl, sanitize, rfl, by simp [Session.send]⟩
    simp [Session.send, MgmtMatching.run, written]
  | cons cmd more ih =>
    obtain ⟨codec, buffer, room, running⟩ := s
    have mode : codec.encoderMode = .sanitize := sanitize
    cases room with
    | zero =>
      refine ⟨fun sent => ?_, rfl, rfl, mode, by simp [Session.send], by simp [Session.send]⟩
      simp [Session.send, MgmtMatching.run, written]
    | succ room =>
      have encoded := encode_sanitize engine mode cmd
      have next := @ih ⟨{ codec with expectedQueue :=
        codec.expectedQueue ++ [cmd.expectedResponse] }, buffer, room, running⟩ mode
      have shape : Session.send engine ⟨codec, buffer, room + 1, running⟩ (cmd :: more) =
          ((Session.send engine ⟨{ codec with expectedQueue := codec.expectedQueue ++
              [cmd.expectedResponse] }, buffer, room, running⟩ more).1,
            .write (wireOf engine cmd) :: (Session.send engine ⟨{ codec with expectedQueue :=
              codec.expectedQueue ++ [cmd.expectedResponse] }, buffer, room, running⟩ more).2) := by
        simp only [Session.send, encoded, List.nil_append]
      rw [shape]
      refine ⟨fun sent => ?_, ?_, next.silent, next.sanitize, ?_, ?_⟩
      · have rest := next.endpoint (sent ++ wireOf engine cmd)
        simp only [List.take_succ_cons, List.map_cons, MgmtMatching.run, MgmtMatching.step,
          encode_sanitize engine mode cmd sent, written, List.flatten_cons, List.nil_append]
        rw [rest, List.append_assoc]
      · simp only [written, List.take_succ_cons, List.map_cons, next.wires]
      · have left := next.room
        simp only [List.length_cons] at left ⊢
        omega
      · have goesOn := next.running
        simp only [List.length_cons, Nat.add_le_add_iff_right] at goesOn ⊢
        exact goesOn

/-! One turn -/

def reactions (p : Program) (msgs : List OvpnMessage) : List OvpnCommand :=
  msgs.flatMap fun msg => (p.react msg).getD []

/-- What a turn does while the stream is open and decodes: the endpoint takes the steps of the turn,
    what is written is what the event calls for, and the session goes on unless the event leaves the
    loop or the socket is full. -/
structure Stepped (engine : Bytes → Text) (p : Program) (s : Session) (turn : Turn)
    (r : Session × List Shown) : Prop where
  endpoint : ∀ sent, MgmtMatching.run engine ⟨s.codec, s.buffer, sent⟩ (s.stepsOf p turn) =
    (⟨r.1.codec, r.1.buffer, sent ++ (written r.2).flatten⟩, (heard r.2).map .ok)
  wires : written r.2 = ((reactions p (heard r.2)).take s.room).map (wireOf engine)
  sanitize : r.1.codec.encoderMode = .sanitize
  room : r.1.room = s.room - (reactions p (heard r.2)).length
  outcome : (reactions p (heard r.2)).length ≤ s.room →
    (r.1.running = true ∧ ∀ msg ∈ heard r.2, p.react msg ≠ none) ∨
      r.1.running = false ∧ ∃ msg, heard r.2 = [msg] ∧ p.react msg = none

theorem nothing_heard {engine : Bytes → Text} {p : Program} {s : Session} {turn : Turn}
    {r : Session × List Shown} (quiet : r.2 = []) (kept : r.1.room = s.room)
    (sanitize : r.1.codec.encoderMode = .sanitize) (running : r.1.running = true)
    (endpoint : ∀ sent, MgmtMatching.run engine ⟨s.codec, s.buffer, sent⟩ (s.stepsOf p turn) =
      (⟨r.1.codec, r.1.buffer, sent⟩, [])) : Stepped engine p s turn r := by
  obtain ⟨next, out⟩ := r
  obtain rfl : out = [] := quiet
  refine ⟨fun sent => ?_, ?_, sanitize, kept, fun _ => Or.inl ⟨running, by rintro _ ⟨⟩⟩⟩
  · rw [endpoint sent]
    simp [written, heard]
  · simp [written, heard, reactions]

theorem step_stepped {engine : Bytes → Text} {p : Program} {s : Session} {turn : Turn}
    (running : s.running = true) (sanitize : s.codec.encoderMode = .sanitize)
    (still : turn ≠ .ended)
    (decodes : turn = .poll → ∃ codec rest out, s.codec.decode s.buffer = (codec, rest, .ok out)) :
    Stepped engine p s turn (s.step engine p turn) := by
  obtain ⟨codec, buffer, room, _⟩ := s
  cases running
  cases turn with
  | ended => exact absurd rfl still
  | receive chunk =>
    have shape : Session.step engine p ⟨codec, buffer, room, true⟩ (.receive chunk) =
        (⟨codec, buffer ++ chunk, room, true⟩, []) := rfl
    rw [shape]
    exact nothing_heard rfl rfl sanitize rfl fun _ => rfl
  | poll =>
    obtain ⟨after, rest, out, decoding⟩ := decodes rfl
    have mode : after.encoderMode = .sanitize := by
      have kept := decode_sanitize sanitize buffer
      rwa [decoding] at kept
    cases out with
    | none =>
      have called : Session.called p ⟨codec, buffer, room, true⟩ = [] := by
        simp only [Session.called, decoding]
      have shape : Session.step engine p ⟨codec, buffer, room, true⟩ .poll =
          (⟨after, rest, room, true⟩, []) := by
        simp only [Session.step, decoding, if_true]
      rw [shape]
      refine nothing_heard rfl rfl mode rfl fun sent => ?_
      simp [Session.stepsOf, called, MgmtMatching.run, MgmtMatching.step, decoding, events]
    | some msg =>
      have called : Session.called p ⟨codec, buffer, room, true⟩ = (p.react msg).getD [] := by
        simp only [Session.called, decoding]
      have polled : ∀ sent, MgmtMatching.step engine ⟨codec, buffer, sent⟩ .poll =
          (⟨after, rest, sent⟩, [.ok msg]) := fun sent => endpoint_poll decoding sent
      cases answer : p.react msg with
      | none =>
        have shape : Session.step engine p ⟨codec, buffer, room, true⟩ .poll =
            (⟨after, rest, room, false⟩, [.event msg]) := by
          simp only [Session.step, decoding, answer, if_true]
        have silent : reactions p [msg] = [] := by simp [reactions, answer]
        rw [shape]
        refine ⟨fun sent => ?_, ?_, mode, ?_, fun _ => Or.inr ⟨rfl, msg, rfl, answer⟩⟩
        · simp [Session.stepsOf, called, answer, MgmtMatching.run, polled, written, heard]
        · simp [written, heard, silent]
        · simp [heard, silent]
      | some cmds =>
        have sends : Sends engine ⟨after, rest, room, true⟩ cmds _ := send_sends mode cmds
        have shape : Session.step engine p ⟨codec, buffer, room, true⟩ .poll =
            ((Session.send engine ⟨after, rest, room, true⟩ cmds).1,
              .event msg :: (Session.send engine ⟨after, rest, room, true⟩ cmds).2) := by
          simp only [Session.step, decoding, answer, if_true]
        rw [shape]
        generalize Session.send engine ⟨after, rest, room, true⟩ cmds = sent at sends
        have only : heard (.event msg :: sent.2) = [msg] := by rw [heard, sends.silent]
        have asked : reactions p [msg] = cmds := by simp [reactions, answer]
        refine ⟨fun bytes => ?_, ?_, sends.sanitize, ?_, fun enough => Or.inl ⟨?_, ?_⟩⟩
        · have behind := sends.endpoint bytes
          simp only [Session.stepsOf, called, answer, Option.getD_some, if_true, MgmtMatching.run,
            polled, behind, only, written, List.map_cons, List.map_nil, List.append_nil]
        · rw [only, asked]
          exact sends.wires
        · rw [only, asked]
          exact sends.room
        · rw [only, asked] at enough
          exact sends.running.mpr ⟨rfl, enough⟩
        · rw [only]
          simp [answer]

/-! A server that answers in order -/

section Served
variable {engine : Bytes → Text} {p : Program} {blockLeft : Option (List Text)}
  {kindsLeft : List ResponseKind}

theorem stopped_run {s : Session} (stopped : s.running = false) (turns : List Turn) :
    s.run engine p turns = (s, []) := by
  induction turns with
  | nil => rfl
  | cons turn more ih => simp [Session.run, Session.step, stopped, ih]

theorem reactions_append (a b : List OvpnMessage) :
    reactions p (a ++ b) = reactions p a ++ reactions p b := List.flatMap_append

/-- What has been heard of what is due: the session goes on, in step with the rest of the script, or
    it was left at the last event. -/
inductive Hears (p : Program) (blockLeft : Option (List Text)) (kindsLeft : List ResponseKind)
    (due msgs : List OvpnMessage) (s : Session) : Prop
  | goesOn (running : s.running = true) (stays : ∀ msg ∈ msgs, p.react msg ≠ none)
    (more : List Text) (sent : Bytes) (same : due = msgs ++ transcript (readerOf s.codec) more)
    (synced : Synced ⟨s.codec, s.buffer, sent⟩ more [] blockLeft kindsLeft) :
    Hears p blockLeft kindsLeft due msgs s
  | left (stopped : s.running = false) (front : List OvpnMessage) (msg : OvpnMessage)
    (rest : List OvpnMessage) (last : msgs = front ++ [msg])
    (stays : ∀ msg ∈ front, p.react msg ≠ none) (leaves : p.react msg = none)
    (same : due = msgs ++ rest) : Hears p blockLeft kindsLeft due msgs s

theorem Hears.behind {due msgs first : List OvpnMessage} {s : Session}
    (hears : Hears p blockLeft kindsLeft due msgs s) (stays : ∀ msg ∈ first, p.react msg ≠ none) :
    Hears p blockLeft kindsLeft (first ++ due) (first ++ msgs) s := by
  have both : ∀ {later : List OvpnMessage}, (∀ msg ∈ later, p.react msg ≠ none) →
      ∀ msg ∈ first ++ later, p.react msg ≠ none := fun kept msg member =>
    (List.mem_append.mp member).elim (stays msg) (kept msg)
  cases hears with
  | goesOn running kept more sent same synced =>
    exact .goesOn running (both kept) more sent (by rw [same, List.append_assoc]) synced
  | left stopped front msg rest last kept leaves same =>
    exact .left stopped (first ++ front) msg rest (by rw [last, List.append_assoc]) (both kept)
      leaves (by rw [same, List.append_assoc])

theorem run_hears {s : Session} {turns : List Turn} {script : List Text} {sent : Bytes}
    (running : s.running = true) (sanitize : s.codec.encoderMode = .sanitize)
    (synced : Synced ⟨s.codec, s.buffer, sent⟩ script (s.runSteps engine p turns) blockLeft
      kindsLeft)
    (still : .ended ∉ turns)
    (enough : (reactions p (transcript (readerOf s.codec) script)).length ≤ s.room) :
    let r := s.run engine p turns
    written r.2 = (reactions p (heard r.2)).map (wireOf engine) ∧
      Hears p blockLeft kindsLeft (transcript (readerOf s.codec) script) (heard r.2) r.1 := by
  induction turns generalizing s script sent with
  | nil => exact ⟨rfl, .goesOn running (by rintro _ ⟨⟩) script sent rfl synced⟩
  | cons turn more ih =>
    have decodes : turn = .poll →
        ∃ codec rest out, s.codec.decode s.buffer = (codec, rest, .ok out) := by
      rintro rfl
      have first : Synced ⟨s.codec, s.buffer, sent⟩ script (.poll ::
          (((s.called p).take s.room).map .encode ++
            (s.step engine p .poll).1.runSteps engine p more)) blockLeft kindsLeft := by
        simpa [Session.runSteps, Session.stepsOf, running] using synced
      exact synced_decodes first
    have opened : turn ≠ .ended := fun same => still (by simp [same])
    have stepped : Stepped engine p s turn _ := step_stepped running sanitize opened decodes
    obtain ⟨rest, messages, outcome, same, next⟩ := synced_front engine synced
    have shape : s.run engine p (turn :: more) =
        (((s.step engine p turn).1.run engine p more).1,
          (s.step engine p turn).2 ++ ((s.step engine p turn).1.run engine p more).2) := rfl
    rw [stepped.endpoint sent] at outcome same next
    simp only at outcome same next
    simp only [shape]
    generalize s.step engine p turn = r at stepped outcome same next
    have oks : Function.Injective (Except.ok (ε := IoError) (α := OvpnMessage)) :=
      fun _ _ => Except.ok.inj
    obtain rfl : heard r.2 = messages := List.map_injective_iff.mpr oks outcome
    have wires := stepped.wires
    rw [same, reactions_append, List.length_append] at enough
    rw [List.take_of_length_le (by omega)] at wires
    rcases stepped.outcome (by omega) with ⟨goesOn, stays⟩ | ⟨stopped, msg, last, leaves⟩
    · have left := stepped.room
      obtain ⟨laterWires, hears⟩ := ih goesOn stepped.sanitize next
        (fun member => still (List.mem_cons_of_mem _ member)) (by omega)
      rw [same, heard_append]
      refine ⟨?_, hears.behind stays⟩
      rw [written_append, reactions_append, List.map_append, wires, laterWires]
    · rw [stopped_run stopped, List.append_nil, same]
      exact ⟨wires, .left stopped [] msg _ last (by rintro _ ⟨⟩) leaves rfl⟩

/-- The server answers what the session writes, in order, and the stream is open all the while; the
    socket takes what the events may call for. The script is cut anywhere into what arrives. -/
structure InStep (engine : Bytes → Text) (p : Program) (room : Nat) (turns : List Turn)
    (script : List Text) (blockLeft : Option (List Text)) (kindsLeft : List ResponseKind) :
    Prop where
  clean : ∀ raw ∈ script, '\n' ∉ raw
  stream : received (connectionSteps engine p room turns) = wire script
  follows : Follows OvpnCodec.new.maxMultiLineLines none
    (kinds (connectionSteps engine p room turns)) (replies script) blockLeft kindsLeft
  inTime : InTime false 0 [] script (connectionSteps engine p room turns)
  still : .ended ∉ turns
  enough : p.startup.length + (reactions p (transcript ⟨.new, none⟩ script)).length ≤ room

theorem connection_hears {room : Nat} {turns : List Turn} {script : List Text}
    (server : InStep engine p room turns script blockLeft kindsLeft) :
    let r := handleConnection engine p room turns
    written r.2 = (p.startup ++ reactions p (heard r.2)).map (wireOf engine) ∧
      Hears p blockLeft kindsLeft (transcript ⟨.new, none⟩ script) (heard r.2) r.1 := by
  obtain ⟨clean, stream, follows, inTime, still, enough⟩ := server
  have sends : Sends engine ⟨.new, [], room, true⟩ p.startup (started engine p room) :=
    send_sends rfl p.startup
  have synced : Synced ⟨.new, [], []⟩ script (connectionSteps engine p room turns) blockLeft
      kindsLeft := ⟨clean, stream, follows, inTime, calm_of_unlimited rfl script⟩
  obtain ⟨rest, messages, outcome, same, next⟩ := synced_front engine synced
  have wires := sends.wires
  have left := sends.room
  have running := sends.running.mpr ⟨rfl, by simp only; omega⟩
  rw [sends.endpoint []] at outcome same next
  obtain rfl : messages = [] := List.map_eq_nil_iff.mp outcome.symm
  rw [List.take_of_length_le (by simp only; omega)] at wires
  rw [List.nil_append] at same
  change transcript ⟨.new, none⟩ script = _ at same
  simp only at same next left
  have shape : handleConnection engine p room turns =
      (((started engine p room).1.run engine p turns).1,
        (started engine p room).2 ++ ((started engine p room).1.run engine p turns).2) := rfl
  obtain ⟨later, hears⟩ := run_hears running sends.sanitize next still (by rw [← same]; omega)
  rw [← same] at hears
  simp only [shape, written_append, heard_append, sends.silent, List.nil_append, wires, later,
    List.map_append]
  exact ⟨trivial, hears⟩

theorem asked_in_vain {c : OvpnCodec} {buffer sent : Bytes} {script : List Text}
    (synced : Synced ⟨c, buffer, sent⟩ script [] blockLeft kindsLeft)
    (vain : (c.decode buffer).2.2 = .ok none) : transcript (readerOf c) script = [] := by
  obtain ⟨stream, whole⟩ := MgmtMatching.synced_received synced
  obtain ⟨drained, -⟩ := MgmtMatching.synced_drained whole
  simp only at stream
  rw [stream] at vain
  rw [drained_step] at drained
  rcases decoding : c.decode (wire script) with ⟨after, rest, out⟩
  rw [decoding] at vain drained
  obtain rfl : out = .ok none := vain
  have nothing := congrArg Prod.snd drained
  exact List.map_eq_nil_iff.mp nothing.symm

end Served

section Examples
variable {engine : Bytes → Text} {room : Nat} {turns : List Turn} {script : List Text}
  {blockLeft : Option (List Text)} {kindsLeft : List ResponseKind}

theorem reactions_serverMode (msgs : List OvpnMessage) :
    reactions serverMode msgs = msgs.flatMap approval := rfl

theorem reactions_clientMode (msgs : List OvpnMessage) : reactions clientMode msgs = [] := by
  refine List.flatMap_eq_nil_iff.mpr fun msg _ => ?_
  simp only [clientMode]
  split <;> rfl

theorem leaves_clientMode {msg : OvpnMessage} :
    clientMode.react msg = none ↔ ∃ message, msg = .notification (.fatal message) := by
  simp only [clientMode]
  split
  · simp
  · rename_i other
    simp only [reduceCtorEq, false_iff, not_exists]
    exact fun message same => other message same

/-- The loop of the listening example, with a server that answers in order and bytes cut anywhere:
    it never stops, and behind the startup sequence it writes one `client-auth-nt` for every CONNECT
    with a key id that it has heard of, with the ids of that event and in the order of the events,
    whatever other events and answers stand in between. It hears the events in the order in which
    the server sent them, and all of them once it asks in vain. -/
theorem connects_approved
    (server : InStep engine serverMode room turns script blockLeft kindsLeft) :
    let r := handleConnection engine serverMode room turns
    let said := transcript ⟨.new, none⟩ script
    r.1.running = true ∧
      written r.2 = (serverConnectionSequence 5 0 ++ (heard r.2).flatMap approval).map
        (wireOf engine) ∧
      heard r.2 <+: said ∧
      ((r.1.codec.decode r.1.buffer).2.2 = .ok none → heard r.2 = said) := by
  intro r said
  obtain ⟨wires, hears⟩ := connection_hears server
  rw [reactions_serverMode] at wires
  cases hears with
  | goesOn running _ more sent due synced =>
    refine ⟨running, wires, ⟨_, due.symm⟩, fun vain => ?_⟩
    have rest := asked_in_vain synced vain
    rw [rest, List.append_nil] at due
    exact due.symm
  | left _ _ _ _ _ _ leaves _ => cases leaves

def lobbyScript : List Text :=
  [lit ">INFO:OpenVPN Management Interface", lit "1,I,up", lit "END", lit "END",
    lit ">CLIENT:CONNECT,3,7", lit "SUCCESS: pid=9", lit ">CLIENT:ENV,n=c", lit ">CLIENT:ENV,END",
    lit "SUCCESS: env", lit "SUCCESS: bytecount", lit "SUCCESS: hold", lit "SUCCESS: client"]

def lobbyTurns : List Turn :=
  [.receive (wire (lobbyScript.take 5)), .poll, .receive (wire ((lobbyScript.drop 5).take 3)),
    .poll, .poll, .poll, .poll, .poll, .receive (wire (lobbyScript.drop 8)), .poll, .poll, .poll,
    .poll, .poll]

theorem lobby_inStep :
    InStep (fun _ => []) serverMode 9 lobbyTurns lobbyScript none [] := by
  refine ⟨by decide +kernel, by decide +kernel, ?_, by decide +kernel, by decide +kernel,
    by decide +kernel⟩
  have spoken : replies lobbyScript = [Answer.block [lit "1,I,up"], .block [],
      .success (lit "pid=9"), .success (lit "env"), .success (lit "bytecount"),
      .success (lit "hold"), .success (lit "client")].flatMap Answer.lines := by decide +kernel
  have asked : kinds (connectionSteps (fun _ => []) serverMode 9 lobbyTurns) =
      [.multiLine, .multiLine, .successOrError, .successOrError, .successOrError, .successOrError,
        .successOrError] := by decide +kernel
  rw [spoken, asked]
  apply MgmtPipelining.follows_answers
  refine .cons ⟨by decide +kernel, ?_⟩ (.cons ⟨by decide +kernel, ?_⟩ (.cons trivial
    (.cons trivial (.cons trivial (.cons trivial (.cons trivial .nil))))))
  · rintro most ⟨⟩
    decide
  · rintro most ⟨⟩
    decide

theorem connects_approved_lobby :
    let r := handleConnection (fun _ => []) serverMode 9 lobbyTurns
    written r.2 = (serverConnectionSequence 5 0 ++ [OvpnCommand.clientAuthNt 3 7]).map
        (wireOf fun _ => []) ∧
      heard r.2 = transcript ⟨.new, none⟩ lobbyScript := by
  intro r
  obtain ⟨-, wires, -, whole⟩ := connects_approved lobby_inStep
  have asked : (heard r.2).flatMap approval = [.clientAuthNt 3 7] := by decide +kernel
  have vain : (r.1.codec.decode r.1.buffer).2.2 = .ok none := by decide +kernel
  rw [asked] at wires
  exact ⟨wires, whole vain⟩

/-- The loop of the dialling example: it writes its startup sequence and nothing else, and hears the
    events in order until the first FATAL, where it stops; if there is none it goes on, and has
    heard everything once it asks in vain. -/
theorem fatal_leaves (server : InStep engine clientMode room turns script blockLeft kindsLeft) :
    let r := handleConnection engine clientMode room turns
    let said := transcript ⟨.new, none⟩ script
    written r.2 = (connectionSequence 5 ++ [OvpnCommand.status .v3]).map (wireOf engine) ∧
      heard r.2 <+: said ∧
      (r.1.running = true → (∀ message, .notification (.fatal message) ∉ heard r.2) ∧
        ((r.1.codec.decode r.1.buffer).2.2 = .ok none → heard r.2 = said)) ∧
      (r.1.running = false → ∃ front message,
        heard r.2 = front ++ [.notification (.fatal message)] ∧
          ∀ other, .notification (.fatal other) ∉ front) := by
  intro r said
  obtain ⟨wires, hears⟩ := connection_hears server
  rw [reactions_clientMode, List.append_nil] at wires
  have stays : ∀ {msgs : List OvpnMessage}, (∀ msg ∈ msgs, clientMode.react msg ≠ none) →
      ∀ message, .notification (.fatal message) ∉ msgs := fun kept message member =>
    kept _ member (leaves_clientMode.mpr ⟨message, rfl⟩)
  refine ⟨wires, ?_⟩
  cases hears with
  | goesOn running kept more sent due synced =>
    refine ⟨⟨_, due.symm⟩, fun _ => ⟨stays kept, fun vain => ?_⟩, fun no => ?_⟩
    · have rest := asked_in_vain synced vain
      rw [rest, List.append_nil] at due
      exact due.symm
    · exact Bool.noConfusion (running.symm.trans no)
  | left stopped front msg rest last kept leaves due =>
    obtain ⟨message, rfl⟩ := leaves_clientMode.mp leaves
    exact ⟨⟨rest, due.symm⟩, fun yes => Bool.noConfusion (stopped.symm.trans yes),
      fun _ => ⟨front, message, last, stays kept⟩⟩

/- What the server says behind the FATAL is not heard. -/
def downScript : List Text :=
  [lit ">HOLD:0", lit "1,I,up", lit ">FATAL:down", lit "END", lit ">HOLD:9"]

def downTurns : List Turn := [.poll, .receive (wire downScript), .poll, .poll, .poll]

theorem fatal_leaves_down :
    let r := handleConnection (fun _ => []) clientMode 7 downTurns
    r.1.running = false ∧ heard r.2 <+: transcript ⟨.new, none⟩ downScript ∧
      ∃ front message, heard r.2 = front ++ [.notification (.fatal message)] ∧
        ∀ other, .notification (.fatal other) ∉ front := by
  intro r
  have spoken : replies downScript = [Answer.block [lit "1,I,up"]].flatMap Answer.lines := by
    decide +kernel
  have asked : kinds (connectionSteps (fun _ => []) clientMode 7 downTurns) =
      .multiLine :: kinds (connectionSteps (fun _ => []) clientMode 7 downTurns).tail := by
    decide +kernel
  have follows : Follows OvpnCodec.new.maxMultiLineLines none
      (kinds (connectionSteps (fun _ => []) clientMode 7 downTurns)) (replies downScript) none
      (kinds (connectionSteps (fun _ => []) clientMode 7 downTurns).tail) := by
    have body : ∀ line ∈ [lit "1,I,up"], IsBody line := by decide +kernel
    rw [spoken, asked]
    refine MgmtPipelining.follows_block body (.done none _) none ?_
    rintro most ⟨⟩
    decide
  have stopped : r.1.running = false := by decide +kernel
  obtain ⟨-, part, -, left⟩ := @fatal_leaves (fun _ => []) 7 downTurns downScript none _
    ⟨by decide +kernel, by decide +kernel, follows, by decide +kernel, by decide +kernel,
      by decide +kernel⟩
  exact ⟨stopped, part, left stopped⟩

end Examples

end MgmtEventLoops
