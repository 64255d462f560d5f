import OpenvpnMgmt.Connections
import OpenvpnMgmt.Pipelining
import OpenvpnMgmt.Progress
import OpenvpnMgmt.Updates

/-!
A connection of the actor and a server that answers every command in order. The open link is an
endpoint whose commands the actor picks, so `Synced` holds along the whole run: nothing fails, and
the answers come out in order while the startup sequence is still going on.
-/
namespace MgmtServing
open TextOps Utf8Text MgmtEncoder MgmtValues MgmtCommand MgmtMessage MgmtFrame MgmtCodec
  MgmtDraining MgmtServerStream MgmtPipelining MgmtActor MgmtConnections
open MgmtMatching (Endpoint Step Synced InTime commands received kinds)
open MgmtUpdates (Ui)

/-! What happens to the connection -/

/- Nobody closes it, and the socket takes what is written. -/
def benign (io : Io) : Occurrence → Bool
  | .submit (.send _) => true
  | .submit _ => false
  | .hangUp => false
  | .ended _ => false
  | .uiGone => false
  | .receive _ => true
  | .take => io.write.isNone
  | .poll => io.write.isNone
  | .timeout => io.write.isNone

def sends : List (Io × Occurrence) → List OvpnCommand
  | [] => []
  | (_, .submit (.send cmd)) :: more => cmd :: sends more
  | _ :: more => sends more

def arrived : List (Io × Occurrence) → Bytes
  | [] => []
  | (_, .receive chunk) :: more => chunk ++ arrived more
  | _ :: more => arrived more

def connecting (host port : Text) (startup queued : List OvpnCommand) : Actor :=
  ⟨.idle, .connect host port startup :: queued.map .send, false, true⟩

/- Of what has arrived at any time, no answer has a line before its command is written. -/
def Asked (engine : Bytes → Text) (a : Actor) (script : List Text)
    (steps : List (Io × Occurrence)) : Prop :=
  ∀ earlier, earlier <+: steps →
    responsesBegun false (replies (script.take ((arrived earlier).count newline))) ≤
      (writes (run engine a earlier).2).length

instance (engine : Bytes → Text) (a : Actor) (script : List Text)
    (steps : List (Io × Occurrence)) : Decidable (Asked engine a script steps) :=
  decidable_of_iff (∀ earlier ∈ steps.inits,
      responsesBegun false (replies (script.take ((arrived earlier).count newline))) ≤
        (writes (run engine a earlier).2).length)
    (by simp only [List.mem_inits, Asked])

/-! The endpoint inside the actor -/

def nextCommand (left : List OvpnCommand) : List Step := (left.head?.map Step.encode).toList

def linkSteps (a : Actor) : Occurrence → List Step
  | .receive chunk => [.receive chunk]
  | .poll =>
    match a.phase with
    | .startup link left _ =>
      match (link.codec.decode link.buffer).2.2 with
      | .ok (some msg) => if isAsync msg then [.poll] else .poll :: nextCommand left
      | _ => [.poll]
    | _ => [.poll]
  | .timeout =>
    match a.phase with
    | .startup _ left _ => nextCommand left
    | _ => []
  | .take =>
    match a.phase, a.channel with
    | .running _, .send cmd :: _ => [.encode cmd]
    | _, _ => []
  | _ => []

def linkRun (engine : Bytes → Text) : Actor → List (Io × Occurrence) → List Step
  | _, [] => []
  | a, (io, o) :: more => linkSteps a o ++ linkRun engine (step engine a io o).1 more

/-- The link is open, and these commands are still to be written, in this order. -/
inductive Attached (addr : Text) : Actor → Link → List OvpnCommand → Prop
  | startup {link : Link} {left waiting : List OvpnCommand} {saw : Bool} (same : link.addr = addr)
    (sanitize : link.codec.encoderMode = .sanitize) :
    Attached addr ⟨.startup link left saw, waiting.map .send, false, true⟩ link (left ++ waiting)
  | running {link : Link} {waiting : List OvpnCommand} (same : link.addr = addr)
    (sanitize : link.codec.encoderMode = .sanitize) :
    Attached addr ⟨.running link, waiting.map .send, false, true⟩ link waiting

def starting (a : Actor) : Bool :=
  match a.phase with
  | .startup _ _ _ => true
  | _ => false

/-- What the actor does is what the endpoint does with these steps. -/
structure Linked (engine : Bytes → Text) (addr : Text) (a : Actor) (link : Link)
    (pending : List OvpnCommand) (steps : List (Io × Occurrence)) (taken : List Step)
    (next : Actor × List Output) (after : Link) (later : List OvpnCommand) : Prop where
  attached : Attached addr next.1 after later
  order : pending ++ sends steps = commands taken ++ later
  heard : received taken = arrived steps
  written : writes next.2 = (commands taken).map (wireOf engine)
  endpoint : ∀ sent, MgmtMatching.run engine ⟨link.codec, link.buffer, sent⟩ taken =
    (⟨after.codec, after.buffer, sent ++ (writes next.2).flatten⟩, (reported next.2).map .ok)
  inside : ∀ o ∈ next.2, (∃ msg, o = .event (.message msg)) ∨ ∃ bytes, o = .write addr bytes
  -- In the startup sequence a command goes out for every turn and every timeout.
  pace : starting next.1 = true → starting a = true ∧
    (commands taken).length = turns next.2 + timeouts steps

/-! Lists of steps -/

theorem linkRun_snoc (engine : Bytes → Text) (a : Actor) (front : List (Io × Occurrence))
    (s : Io × Occurrence) :
    linkRun engine a (front ++ [s]) =
      linkRun engine a front ++ linkSteps (run engine a front).1 s.2 := by
  induction front generalizing a with
  | nil => simp [linkRun, run]
  | cons first more ih =>
    simp only [List.cons_append, run, linkRun, ih, List.append_assoc]

theorem received_append (front back : List Step) :
    received (front ++ back) = received front ++ received back := by
  induction front with
  | nil => rfl
  | cons s more ih => cases s <;> simp [received, ih]

theorem sends_append (front back : List (Io × Occurrence)) :
    sends (front ++ back) = sends front ++ sends back := by
  induction front with
  | nil => rfl
  | cons s more ih =>
    obtain ⟨io, o⟩ := s
    cases o with
    | submit cmd => cases cmd <;> simp [sends, ih]
    | _ => exact ih

theorem arrived_append (front back : List (Io × Occurrence)) :
    arrived (front ++ back) = arrived front ++ arrived back := by
  induction front with
  | nil => rfl
  | cons s more ih =>
    obtain ⟨io, o⟩ := s
    cases o <;> simp [arrived, ih]

/-! One occurrence -/

def expecting (link : Link) (cmd : OvpnCommand) : Link :=
  { link with codec :=
      { link.codec with expectedQueue := link.codec.expectedQueue ++ [cmd.expectedResponse] } }

section Steps
variable {engine : Bytes → Text} {addr : Text} {a : Actor} {link : Link}
  {pending : List OvpnCommand} {io : Io}

variable (engine) in
theorem send_flushed (sanitize : link.codec.encoderMode = .sanitize) (flushed : io.write = none)
    (cmd : OvpnCommand) :
    link.send engine io cmd = .ok (expecting link cmd, wireOf engine cmd) := by
  have encoded := encode_sanitize engine sanitize cmd []
  simp only [Link.send, encoded, flushed, List.nil_append]
  rfl

theorem endpoint_encode (sanitize : link.codec.encoderMode = .sanitize) (cmd : OvpnCommand)
    (sent : Bytes) :
    MgmtMatching.step engine ⟨link.codec, link.buffer, sent⟩ (.encode cmd) =
      (⟨(expecting link cmd).codec, link.buffer, sent ++ wireOf engine cmd⟩, []) := by
  simp only [MgmtMatching.step, encode_sanitize engine sanitize cmd sent]
  rfl

theorem startup_linked {phase : Phase} {left waiting : List OvpnCommand} {saw : Bool}
    (same : link.addr = addr) (sanitize : link.codec.encoderMode = .sanitize)
    (flushed : io.write = none)
    (begun : starting a = true) :
    ∃ after later, Linked engine addr a link (left ++ waiting) [(io, .timeout)] (nextCommand left)
      (Actor.startup engine ⟨phase, waiting.map .send, false, true⟩ io link saw left)
      after later := by
  cases left with
  | nil =>
    refine ⟨link, waiting, .running same sanitize, by simp [sends, nextCommand, commands], rfl, rfl,
      ?_, by simp [Actor.startup], ?_⟩
    · intro sent
      simp [MgmtMatching.run, nextCommand, Actor.startup, writes, reported]
    · intro still
      simp [starting, Actor.startup] at still
  | cons cmd rest =>
    have sent := send_flushed engine sanitize flushed cmd
    simp only [Actor.startup, sent]
    refine ⟨expecting link cmd, rest ++ waiting, .startup same sanitize,
      by simp [sends, nextCommand, commands], rfl, rfl, ?_, ?_, ?_⟩
    · intro before
      simp [MgmtMatching.run, nextCommand, endpoint_encode sanitize, writes, reported, expecting]
    · intro o member
      subst same
      exact Or.inr ⟨_, List.mem_singleton.mp member⟩
    · intro still
      exact ⟨begun, rfl⟩

theorem stays_linked {o : Occurrence} (attached : Attached addr a link pending)
    (nothing : sends [(io, o)] = [] ∧ arrived [(io, o)] = [])
    (noTimeouts : starting a = true → timeouts [(io, o)] = 0) :
    Linked engine addr a link pending [(io, o)] [] (a, []) link pending := by
  obtain ⟨noSends, noBytes⟩ := nothing
  refine ⟨attached, by simp [noSends, commands], noBytes.symm, rfl, ?_, by simp, ?_⟩
  · intro sent
    simp [MgmtMatching.run, writes, reported]
  · intro still
    exact ⟨still, by rw [noTimeouts still]; rfl⟩

theorem submit_linked (attached : Attached addr a link pending) (cmd : OvpnCommand) :
    Linked engine addr a link pending [(io, .submit (.send cmd))] []
      ({ a with channel := a.channel ++ [.send cmd] }, []) link (pending ++ [cmd]) := by
  refine ⟨?_, rfl, rfl, rfl, ?_, by simp, ?_⟩
  · cases attached with
    | @startup link left waiting saw same sanitize =>
      have next := @Attached.startup addr link left (waiting ++ [cmd]) saw same sanitize
      rw [List.map_append] at next
      rw [List.append_assoc]
      exact next
    | running same sanitize =>
      have next := @Attached.running addr link (pending ++ [cmd]) same sanitize
      rw [List.map_append] at next
      exact next
  · intro sent
    simp [MgmtMatching.run, writes, reported]
  · intro still
    exact ⟨still, rfl⟩

theorem receive_linked (attached : Attached addr a link pending) (chunk : Bytes) :
    ∃ after, Linked engine addr a link pending [(io, .receive chunk)] [.receive chunk]
      (a.receive chunk, []) after pending := by
  refine ⟨{ link with buffer := link.buffer ++ chunk }, ?_, by simp [sends, commands], rfl, rfl, ?_,
    by simp, ?_⟩
  · cases attached with
    | startup same sanitize => exact .startup same sanitize
    | running same sanitize => exact .running same sanitize
  · intro sent
    simp [MgmtMatching.run, MgmtMatching.step, writes, reported]
  · intro still
    cases attached with
    | startup same sanitize => exact ⟨rfl, rfl⟩
    | running same sanitize => cases still

theorem take_linked (attached : Attached addr a link pending) (flushed : io.write = none) :
    ∃ after later, Linked engine addr a link pending [(io, .take)] (linkSteps a .take)
      (a.take engine io) after later := by
  cases attached with
  | @startup link left waiting saw same sanitize =>
    exact ⟨link, left ++ waiting,
      stays_linked (.startup same sanitize) ⟨rfl, rfl⟩ fun _ => rfl⟩
  | running same sanitize =>
    cases pending with
    | nil =>
      exact ⟨link, [], stays_linked (.running same sanitize) ⟨rfl, rfl⟩ fun _ => rfl⟩
    | cons cmd rest =>
      have sent := send_flushed engine sanitize flushed cmd
      simp only [linkSteps, List.map_cons, Actor.take, Actor.command, sent]
      refine ⟨expecting link cmd, rest, .running same sanitize, by simp [sends, commands], rfl, rfl,
        ?_, ?_, ?_⟩
      · intro before
        simp [MgmtMatching.run, endpoint_encode sanitize, writes, reported, expecting]
      · intro o member
        subst same
        exact Or.inr ⟨_, List.mem_singleton.mp member⟩
      · intro still
        cases still

/-! One message of the stream -/

theorem synced_decodes {c : OvpnCodec} {buffer sent : Bytes} {script : List Text}
    {steps : List Step} {blockLeft : Option (List Text)} {kindsLeft : List ResponseKind}
    (synced : Synced ⟨c, buffer, sent⟩ script (.poll :: steps) blockLeft kindsLeft) :
    ∃ codec rest out, c.decode buffer = (codec, rest, .ok out) := by
  obtain ⟨_, messages, outcome, -, -⟩ := MgmtMatching.synced_step (fun _ => []) synced
  rcases decoding : c.decode buffer with ⟨codec, rest, e | out⟩
  · cases messages <;> simp [MgmtMatching.step, decoding, events] at outcome
  · exact ⟨codec, rest, out, rfl⟩

theorem endpoint_poll {c : OvpnCodec} {codec : OvpnCodec} {buffer rest : Bytes}
    {out : Option OvpnMessage} (decoding : c.decode buffer = (codec, rest, .ok out))
    (sent : Bytes) :
    MgmtMatching.step engine ⟨c, buffer, sent⟩ .poll =
      (⟨codec, rest, sent⟩, out.toList.map .ok) := by
  simp only [MgmtMatching.step, decoding]
  cases out <;> rfl

theorem poll_waits {o : List Output} {codec : OvpnCodec} {rest : Bytes} {out : Option OvpnMessage}
    (decoding : link.codec.decode link.buffer = (codec, rest, .ok out)) {next : Actor}
    (attached : Attached addr next { link with codec, buffer := rest } pending)
    (told : o = (out.map fun msg => Output.event (.message msg)).toList)
    (pace : starting next = true → starting a = true ∧ turns o = 0) :
    Linked engine addr a link pending [(io, .poll)] [.poll] (next, o)
      { link with codec, buffer := rest } pending := by
  subst told
  refine ⟨attached, by simp [sends, commands], rfl, ?_, ?_, ?_, ?_⟩
  · cases out <;> rfl
  · intro sent
    simp only [MgmtMatching.run, endpoint_poll decoding]
    cases out <;> simp [writes, reported]
  · intro o member
    cases out with
    | none => simp at member
    | some msg => exact Or.inl ⟨msg, by simpa using member⟩
  · intro still
    obtain ⟨earlier, slow⟩ := pace still
    exact ⟨earlier, slow.symm⟩

theorem poll_turns {codec : OvpnCodec} {rest : Bytes} {msg : OvpnMessage} {out : List Output}
    {taken : List Step} {next : Actor} {after : Link} {later : List OvpnCommand}
    (decoding : link.codec.decode link.buffer = (codec, rest, .ok (some msg)))
    (turn : isAsync msg = false)
    (linked : Linked engine addr a { link with codec, buffer := rest } pending [(io, .timeout)]
      taken (next, out) after later) :
    Linked engine addr a link pending [(io, .poll)] (.poll :: taken)
      (next, .event (.message msg) :: out) after later := by
  refine ⟨linked.attached, linked.order, linked.heard, linked.written, ?_, ?_, ?_⟩
  · intro sent
    simp only [MgmtMatching.run, endpoint_poll decoding, linked.endpoint sent]
    rfl
  · intro o member
    rcases List.mem_cons.mp member with here | there
    · exact Or.inl ⟨msg, here⟩
    · exact linked.inside o there
  · intro still
    obtain ⟨earlier, slow⟩ := linked.pace still
    have one : turns (.event (.message msg) :: out) = turns out + 1 := by
      simp [turns, reported, turn]
    exact ⟨earlier, slow.trans one.symm⟩

variable (engine) in
theorem poll_linked {script : List Text} {sent : Bytes} {steps : List Step}
    {blockLeft : Option (List Text)} {kindsLeft : List ResponseKind}
    (attached : Attached addr a link pending) (flushed : io.write = none)
    (synced : Synced ⟨link.codec, link.buffer, sent⟩ script (.poll :: steps) blockLeft kindsLeft) :
    ∃ after later, Linked engine addr a link pending [(io, .poll)] (linkSteps a .poll)
      (a.poll engine io) after later := by
  obtain ⟨codec, rest, out, decoding⟩ := synced_decodes synced
  cases attached with
  | @startup link left waiting saw same sanitize =>
    have still : codec.encoderMode = .sanitize := by
      have mode := decode_sanitize sanitize link.buffer
      rw [decoding] at mode
      exact mode
    cases out with
    | none =>
      simp only [Actor.poll, linkSteps, decoding]
      exact ⟨_, _, poll_waits decoding (.startup same still) rfl fun _ => ⟨rfl, rfl⟩⟩
    | some msg =>
      cases async : isAsync msg with
      | true =>
        have slow : turns [.event (.message msg)] = 0 := by rw [turns_message, if_pos async]
        simp only [Actor.poll, Actor.startupMessage, linkSteps, decoding, async, if_true]
        exact ⟨_, _, poll_waits decoding (.startup same still) rfl fun _ => ⟨rfl, slow⟩⟩
      | false =>
        simp only [Actor.poll, Actor.startupMessage, linkSteps, decoding, async, if_true,
          Bool.false_eq_true, if_false]
        obtain ⟨after, later, linked⟩ := @startup_linked engine addr
          ⟨.startup link left saw, waiting.map .send, false, true⟩
          { link with codec, buffer := rest } io (.startup link left saw) left waiting
          (saw || decide (msg = .passwordPrompt)) same still flushed rfl
        exact ⟨after, later, poll_turns decoding async linked⟩
  | running same sanitize =>
    have still : codec.encoderMode = .sanitize := by
      have mode := decode_sanitize sanitize link.buffer
      rw [decoding] at mode
      exact mode
    cases out with
    | none =>
      simp only [Actor.poll, linkSteps, decoding]
      exact ⟨_, _, poll_waits decoding (.running same still) rfl fun begun => by cases begun⟩
    | some msg =>
      simp only [Actor.poll, Actor.report, linkSteps, decoding, if_true]
      exact ⟨_, _, poll_waits decoding (.running same still) rfl fun begun => by cases begun⟩

theorem step_linked {o : Occurrence} {script : List Text} {sent : Bytes} {steps : List Step}
    {blockLeft : Option (List Text)} {kindsLeft : List ResponseKind}
    (attached : Attached addr a link pending) (calm : benign io o = true)
    (synced : Synced ⟨link.codec, link.buffer, sent⟩ script (.poll :: steps) blockLeft kindsLeft) :
    ∃ after later, Linked engine addr a link pending [(io, o)] (linkSteps a o) (step engine a io o)
      after later := by
  cases o with
  | submit cmd =>
    cases cmd with
    | send cmd => exact ⟨link, pending ++ [cmd], submit_linked attached cmd⟩
    | connect host port startupCommands => cases calm
    | disconnect => cases calm
  | hangUp => cases calm
  | ended error => cases calm
  | uiGone => cases calm
  | receive chunk =>
    obtain ⟨after, linked⟩ := receive_linked attached chunk
    exact ⟨after, pending, linked⟩
  | take => exact take_linked attached (Option.isNone_iff_eq_none.mp calm)
  | poll => exact poll_linked engine attached (Option.isNone_iff_eq_none.mp calm) synced
  | timeout =>
    have flushed := Option.isNone_iff_eq_none.mp calm
    cases attached with
    | startup same sanitize => exact startup_linked same sanitize flushed rfl
    | running same sanitize =>
      exact ⟨link, pending, stays_linked (.running same sanitize) ⟨rfl, rfl⟩ fun begun => by
        cases begun⟩

/-! Runs -/

theorem Linked.more {b : Actor} {mid after : Link} {between later : List OvpnCommand}
    {front back : List (Io × Occurrence)} {taken further : List Step} {out more : List Output}
    {c : Actor} (first : Linked engine addr a link pending front taken (b, out) mid between)
    (second : Linked engine addr b mid between back further (c, more) after later) :
    Linked engine addr a link pending (front ++ back) (taken ++ further) (c, out ++ more) after
      later := by
  refine ⟨second.attached, ?_, ?_, ?_, ?_, ?_, ?_⟩
  · rw [sends_append, ← List.append_assoc, first.order, List.append_assoc, second.order,
      commands_append, List.append_assoc]
  · rw [received_append, arrived_append, first.heard, second.heard]
  · rw [writes_append, commands_append, List.map_append, first.written, second.written]
  · intro sent
    rw [endpoint_append, first.endpoint, second.endpoint, writes_append, reported_append,
      List.flatten_append, List.map_append, List.append_assoc]
  · intro o member
    rcases List.mem_append.mp member with here | there
    · exact first.inside o here
    · exact second.inside o there
  · intro still
    obtain ⟨middle, fast⟩ := second.pace still
    obtain ⟨earlier, slow⟩ := first.pace middle
    refine ⟨earlier, ?_⟩
    simp only at slow fast ⊢
    rw [commands_append, List.length_append, turns_append, timeouts_append]
    omega

theorem nextCommand_cases (left : List OvpnCommand) :
    nextCommand left = [] ∨ ∃ cmd, nextCommand left = [.encode cmd] := by
  cases left with
  | nil => exact Or.inl rfl
  | cons cmd rest => exact Or.inr ⟨cmd, rfl⟩

theorem linkSteps_poll (a : Actor) :
    linkSteps a .poll = [.poll] ∨ ∃ cmd, linkSteps a .poll = [.poll, .encode cmd] := by
  obtain ⟨phase, channel, hungUp, listening⟩ := a
  cases phase with
  | startup link left saw =>
    simp only [linkSteps]
    split
    · split
      · exact Or.inl rfl
      · obtain nothing | ⟨cmd, one⟩ := nextCommand_cases left
        · exact Or.inl (by rw [nothing])
        · exact Or.inr ⟨cmd, by rw [one]⟩
    · exact Or.inl rfl
  | _ => exact Or.inl rfl

theorem linkSteps_cases (a : Actor) (o : Occurrence) :
    linkSteps a o = [] ∨ (∃ s, linkSteps a o = [s]) ∨
      ∃ cmd, linkSteps a o = [.poll, .encode cmd] := by
  cases o with
  | poll =>
    obtain alone | both := linkSteps_poll a
    · exact Or.inr (Or.inl ⟨_, alone⟩)
    · exact Or.inr (Or.inr both)
  | timeout =>
    simp only [linkSteps]
    split
    · rename_i left _ _
      obtain nothing | ⟨cmd, one⟩ := nextCommand_cases left
      · exact Or.inl nothing
      · exact Or.inr (Or.inl ⟨_, one⟩)
    · exact Or.inl rfl
  | take =>
    simp only [linkSteps]
    split
    · exact Or.inr (Or.inl ⟨_, rfl⟩)
    · exact Or.inl rfl
  | receive chunk => exact Or.inr (Or.inl ⟨_, rfl⟩)
  | submit cmd => exact Or.inl rfl
  | hangUp => exact Or.inl rfl
  | ended error => exact Or.inl rfl
  | uiGone => exact Or.inl rfl

theorem linkSteps_part {o : Occurrence} {part : List Step} (front : part <+: linkSteps a o) :
    (received part = [] ∧ commands part = []) ∨ part = linkSteps a o := by
  obtain empty | ⟨s, one⟩ | ⟨cmd, two⟩ := linkSteps_cases a o
  · rw [empty, List.prefix_nil] at front
    exact Or.inr (front.trans empty.symm)
  · rw [one, List.prefix_cons_iff] at front
    obtain rfl | ⟨rest, rfl, nothing⟩ := front
    · exact Or.inl ⟨rfl, rfl⟩
    · rw [List.prefix_nil] at nothing
      exact Or.inr (by rw [nothing, one])
  · rw [two, List.prefix_cons_iff] at front
    obtain rfl | ⟨rest, rfl, tail⟩ := front
    · exact Or.inl ⟨rfl, rfl⟩
    · rw [List.prefix_cons_iff] at tail
      obtain rfl | ⟨rest, rfl, nothing⟩ := tail
      · exact Or.inl ⟨rfl, rfl⟩
      · rw [List.prefix_nil] at nothing
        exact Or.inr (by rw [nothing, two])

variable (engine) in
/-- An endpoint in step with the server stays so, whatever of its steps has been taken. -/
theorem synced_front {e : Endpoint} {script : List Text} {front back : List Step}
    {blockLeft : Option (List Text)} {kindsLeft : List ResponseKind}
    (synced : Synced e script (front ++ back) blockLeft kindsLeft) :
    ∃ more messages, (MgmtMatching.run engine e front).2 = messages.map .ok ∧
      transcript (MgmtMatching.readerOf e.codec) script = messages ++
        transcript (MgmtMatching.readerOf (MgmtMatching.run engine e front).1.codec) more ∧
      Synced (MgmtMatching.run engine e front).1 more back blockLeft kindsLeft := by
  induction front generalizing e script with
  | nil => exact ⟨script, [], rfl, rfl, synced⟩
  | cons s later ih =>
    obtain ⟨more, messages, outcome, same, next⟩ := MgmtMatching.synced_step engine synced
    obtain ⟨final, others, tail, rest, done⟩ := ih next
    refine ⟨final, messages ++ others, ?_, ?_, done⟩
    · simp only [MgmtMatching.run, outcome, tail, List.map_append]
    · rw [same, rest, List.append_assoc]
      rfl

end Steps

/-! The server -/

theorem begun_block {lines : List Text} (plain : ∀ line ∈ lines, IsBody line) (inBlock : Bool)
    (more : List Text) :
    responsesBegun inBlock (lines ++ endMarker :: more) = responsesBegun false more + 1 := by
  induction lines generalizing inBlock with
  | nil => exact begun_end inBlock more
  | cons line later ih =>
    have body := plain line (by simp)
    rw [List.cons_append, begun_body body.toUnclaimed]
    exact ih (fun l member => plain l (by simp [member])) true

theorem begun_answers {limit : AccumulationLimit} {kinds : List ResponseKind}
    {answers : List Answer} (answered : List.Forall₂ (Answers limit) kinds answers) :
    responsesBegun false (answers.flatMap Answer.lines) = answers.length := by
  induction answered with
  | nil => rfl
  | @cons kind answer kinds answers fits _ ih =>
    rw [List.flatMap_cons, List.length_cons]
    cases answer with
    | success text =>
      rw [Answer.lines, List.singleton_append, begun_single (single_success text), ih]
    | error text =>
      rw [Answer.lines, List.singleton_append, begun_single (single_error text), ih]
    | block lines =>
      cases kind with
      | multiLine =>
        rw [Answer.lines, List.append_assoc, List.singleton_append, begun_block fits.1, ih]
      | _ => cases fits

theorem newlines_wire {script : List Text} (clean : ∀ raw ∈ script, '\n' ∉ raw) :
    (wire script).count newline = script.length := by
  induction script with
  | nil => rfl
  | cons raw more ih =>
    have absent := List.count_eq_zero.mpr (MgmtMatching.newline_not_mem (clean raw (by simp)))
    have rest := ih fun l member => clean l (by simp [member])
    rw [MgmtMatching.wire_cons, List.count_append, List.count_cons, absent, rest]
    simp

/- What an endpoint still has to do: call `decode`, write these commands, and receive the rest. -/
def toCome (cmds : List OvpnCommand) (bytes : Bytes) : List Step :=
  .poll :: (cmds.map .encode ++ [.receive bytes])

theorem commands_toCome (cmds : List OvpnCommand) (bytes : Bytes) :
    commands (toCome cmds bytes) = cmds := by
  simp only [toCome, commands]
  induction cmds with
  | nil => rfl
  | cons cmd more ih => simp [commands, ih]

theorem received_toCome (cmds : List OvpnCommand) (bytes : Bytes) :
    received (toCome cmds bytes) = bytes := by
  simp only [toCome, received]
  induction cmds with
  | nil => exact List.append_nil bytes
  | cons cmd more ih => simp [received, ih]

theorem prefix_cases {part front back : List α} (within : part <+: front ++ back) :
    part <+: front ∨ ∃ rest, part = front ++ rest ∧ rest <+: back := by
  rcases List.prefix_or_prefix_of_prefix within (List.prefix_append front back) with
    inside | ⟨rest, rfl⟩
  · exact Or.inl inside
  · exact Or.inr ⟨rest, rfl, (List.prefix_append_right_inj front).mp within⟩

theorem toCome_part {part : List Step} {cmds : List OvpnCommand} {bytes : Bytes}
    (front : part <+: toCome cmds bytes) : received part = [] ∨ part = toCome cmds bytes := by
  rw [toCome, ← List.cons_append, List.prefix_concat_iff] at front
  rcases front with whole | before
  · exact Or.inr whole
  · obtain ⟨rest, same⟩ := before
    have nothing : received (.poll :: cmds.map Step.encode) = [] := by
      have all := received_toCome cmds []
      rw [toCome, ← List.cons_append, received_append] at all
      exact (List.append_eq_nil_iff.mp all).1
    rw [← same, received_append] at nothing
    exact Or.inl (List.append_eq_nil_iff.mp nothing).1

section Served
variable {engine : Bytes → Text} {addr : Text} {a : Actor} {pending : List OvpnCommand}
  {script : List Text} {answers : List Answer}

/- What the endpoint has done by any of its own steps, the actor had done by one of its. -/
def Paced (engine : Bytes → Text) (a : Actor) (steps : List (Io × Occurrence)) : Prop :=
  ∀ earlier, earlier <+: linkRun engine a steps → ∃ front, front <+: steps ∧
    received earlier = arrived front ∧
    (commands earlier).length = (writes (run engine a front).2).length

theorem paced_snoc {front : List (Io × Occurrence)} {s : Io × Occurrence} {link after last : Link}
    {later left : List OvpnCommand} (paced : Paced engine a front)
    (whole : Linked engine addr a link pending front (linkRun engine a front) (run engine a front)
      after later)
    (wider : Linked engine addr a link pending (front ++ [s])
      (linkRun engine a (front ++ [s])) (run engine a (front ++ [s])) last left) :
    Paced engine a (front ++ [s]) := by
  intro earlier part
  have same := linkRun_snoc engine a front s
  rw [same] at part
  rcases prefix_cases part with inside | ⟨rest, rfl, beyond⟩
  · obtain ⟨f, within, bytes, count⟩ := paced earlier inside
    exact ⟨f, within.trans (List.prefix_append _ _), bytes, count⟩
  · rcases linkSteps_part beyond with ⟨noBytes, noCommands⟩ | rfl
    · refine ⟨front, List.prefix_append _ _, ?_, ?_⟩
      · rw [received_append, noBytes, List.append_nil, whole.heard]
      · rw [commands_append, noCommands, List.append_nil, whole.written, List.length_map]
    · refine ⟨front ++ [s], List.prefix_rfl, ?_, ?_⟩
      · rw [← same, wider.heard]
      · rw [← same, wider.written, List.length_map]

/-- What is left of the server's script fits what the endpoint still has to do. -/
theorem served_synced {front rest : List (Io × Occurrence)} {after : Link}
    {later : List OvpnCommand}
    (answered : List.Forall₂ (Answers (.max 10000))
      ((pending ++ sends (front ++ rest)).map (·.expectedResponse)) answers)
    (clean : ∀ raw ∈ script, '\n' ∉ raw)
    (spoken : replies script = answers.flatMap Answer.lines)
    (stream : arrived (front ++ rest) <+: wire script)
    (asked : Asked engine a script front) (paced : Paced engine a front)
    (whole : Linked engine addr a ⟨addr, .new, []⟩ pending front (linkRun engine a front)
      (run engine a front) after later) :
    ∃ more bytes, arrived front ++ bytes = wire script ∧
      transcript ⟨.new, none⟩ script = reported (run engine a front).2 ++
        transcript (MgmtMatching.readerOf after.codec) more ∧
      Synced ⟨after.codec, after.buffer, (writes (run engine a front).2).flatten⟩ more
        (toCome (later ++ sends rest) bytes) none [] := by
  obtain ⟨bytes, all⟩ : arrived front <+: wire script := by
    rw [arrived_append] at stream
    exact (List.prefix_append _ _).trans stream
  have allCommands : commands (linkRun engine a front ++ toCome (later ++ sends rest) bytes) =
      pending ++ sends (front ++ rest) := by
    rw [commands_append, commands_toCome, sends_append, ← List.append_assoc, ← List.append_assoc,
      whole.order]
  have allBytes : received (linkRun engine a front ++ toCome (later ++ sends rest) bytes) =
      wire script := by
    rw [received_append, received_toCome, whole.heard, all]
  have follows : Follows (.max 10000) none
      (kinds (linkRun engine a front ++ toCome (later ++ sends rest) bytes)) (replies script)
      none [] := by
    rw [kinds, allCommands, spoken]
    exact follows_answers answered
  have inTime : InTime false 0 [] script
      (linkRun engine a front ++ toCome (later ++ sends rest) bytes) := by
    intro earlier part
    rw [List.nil_append, Nat.zero_add]
    rcases prefix_cases part with inside | ⟨tail, rfl, beyond⟩
    · obtain ⟨f, within, same, count⟩ := paced earlier inside
      rw [same, count]
      exact asked f within
    · rcases toCome_part beyond with nothing | rfl
      · have now := asked front List.prefix_rfl
        rw [whole.written, List.length_map] at now
        rw [received_append, nothing, List.append_nil, whole.heard, commands_append,
          List.length_append]
        omega
      · have count := answered.length_eq
        rw [List.length_map] at count
        rw [allBytes, allCommands, newlines_wire clean, List.take_length, spoken,
          begun_answers answered, count]
  have synced : Synced ⟨.new, [], []⟩ script
      (linkRun engine a front ++ toCome (later ++ sends rest) bytes) none [] :=
    ⟨clean, allBytes, follows, inTime, calm_of_unlimited rfl script⟩
  obtain ⟨more, messages, outcome, same, next⟩ := synced_front engine synced
  rw [whole.endpoint []] at outcome same next
  have told : reported (run engine a front).2 = messages :=
    List.map_injective_iff.mpr (fun _ _ => Except.ok.inj) outcome
  subst told
  exact ⟨more, bytes, all, same, next⟩

/-- As long as nobody closes the connection, the actor is the endpoint. -/
theorem run_served (attached : Attached addr a ⟨addr, .new, []⟩ pending)
    {steps : List (Io × Occurrence)} (calm : ∀ s ∈ steps, benign s.1 s.2 = true)
    (answered : List.Forall₂ (Answers (.max 10000))
      ((pending ++ sends steps).map (·.expectedResponse)) answers)
    (clean : ∀ raw ∈ script, '\n' ∉ raw)
    (spoken : replies script = answers.flatMap Answer.lines)
    (stream : arrived steps <+: wire script) (asked : Asked engine a script steps)
    {front rest : List (Io × Occurrence)} (cut : steps = front ++ rest) :
    ∃ after later, Paced engine a front ∧ Linked engine addr a ⟨addr, .new, []⟩ pending front
      (linkRun engine a front) (run engine a front) after later := by
  induction front using List.reverseRecOn generalizing rest with
  | nil =>
    refine ⟨⟨addr, .new, []⟩, pending, ?_, attached, by simp [sends, linkRun, commands], rfl, rfl,
      ?_, by simp [run], fun still => ⟨still, rfl⟩⟩
    · intro earlier part
      rw [linkRun, List.prefix_nil] at part
      exact ⟨[], List.prefix_rfl, by rw [part]; rfl, by rw [part]; rfl⟩
    · intro sent
      simp [linkRun, MgmtMatching.run, run, writes, reported]
  | append_singleton front s ih =>
    rw [List.append_assoc, List.singleton_append] at cut
    obtain ⟨mid, between, paced, whole⟩ := ih cut
    subst cut
    have sofar : Asked engine a script front := fun earlier part =>
      asked earlier (part.trans (List.prefix_append _ _))
    obtain ⟨more, bytes, -, -, synced⟩ :=
      served_synced answered clean spoken stream sofar paced whole
    obtain ⟨after, later, one⟩ := step_linked whole.attached (calm s (by simp)) synced
    have wider := Linked.more whole one
    have shape : run engine a (front ++ [s]) =
        ((step engine (run engine a front).1 s.1 s.2).1,
          (run engine a front).2 ++ (step engine (run engine a front).1 s.1 s.2).2) := by
      rw [run_append]
      simp [run]
    have all : Linked engine addr a ⟨addr, .new, []⟩ pending (front ++ [s])
        (linkRun engine a (front ++ [s])) (run engine a (front ++ [s])) after later := by
      rw [shape, linkRun_snoc]
      exact wider
    exact ⟨after, later, paced_snoc paced whole all, all⟩

end Served

/-! Startup sequences -/

def Answerable (cmds : List OvpnCommand) : Prop :=
  ∀ cmd ∈ cmds, cmd.expectedResponse ≠ .noResponse

theorem Answerable.append {front back : List OvpnCommand} (first : Answerable front)
    (second : Answerable back) : Answerable (front ++ back) := by
  intro cmd member
  rcases List.mem_append.mp member with here | there
  · exact first cmd here
  · exact second cmd there

theorem answerable_ite {p : Prop} [Decidable p] {front back : List OvpnCommand}
    (first : Answerable front) (second : Answerable back) :
    Answerable (if p then front else back) := by
  split
  · exact first
  · exact second

theorem answerable_one {cmd : OvpnCommand} (expects : cmd.expectedResponse ≠ .noResponse) :
    Answerable [cmd] := by
  intro other member
  cases List.mem_singleton.mp member
  exact expects

theorem answerable_nil : Answerable [] := by simp [Answerable]

theorem history_answerable (mode : StreamMode) :
    Answerable [.log mode] ∧ Answerable [.stateStream mode] ∧ Answerable [.echo mode] := by
  refine ⟨answerable_one ?_, answerable_one ?_, answerable_one ?_⟩
  all_goals
    simp only [OvpnCommand.expectedResponse]
    split <;> simp

theorem startup_answerable (ui : Ui) : Answerable ui.buildStartupCommands := by
  have log := history_answerable ui.startup.log.toStreamMode
  have state := history_answerable ui.startup.state.toStreamMode
  have echo := history_answerable ui.startup.echo.toStreamMode
  simp only [Ui.buildStartupCommands]
  repeat' apply Answerable.append
  · exact answerable_ite answerable_nil (answerable_one (by simp [OvpnCommand.expectedResponse]))
  · exact .append (answerable_one (by decide)) (answerable_one (by decide))
  · exact answerable_ite (answerable_one (by simp [OvpnCommand.expectedResponse])) answerable_nil
  · exact answerable_ite (answerable_one (by decide)) answerable_nil
  · exact answerable_ite answerable_nil log.1
  · exact answerable_ite answerable_nil state.2.1
  · exact answerable_ite answerable_nil echo.2.2
  · exact answerable_ite (answerable_one (by decide)) answerable_nil
  · exact answerable_one (by decide)

theorem sequences_answerable (ui : Ui) (interval level : U32) :
    Answerable ui.buildStartupCommands ∧ Answerable ui.verbResetCommands ∧
      Answerable (connectionSequence interval) ∧
      Answerable (serverConnectionSequence interval level) := by
  have start : Answerable [.log .onAll, .stateStream .onAll, .pid] := by
    simp [Answerable, OvpnCommand.expectedResponse]
    decide
  have count : Answerable [.byteCount interval] :=
    answerable_one (by simp [OvpnCommand.expectedResponse])
  have release : Answerable [.holdRelease] := answerable_one (by decide)
  refine ⟨startup_answerable ui, ?_, ?_, ?_⟩
  · simp only [Ui.verbResetCommands]
    repeat' apply Answerable.append
    · exact answerable_ite answerable_nil (answerable_one (by simp [OvpnCommand.expectedResponse]))
    · exact answerable_one (by decide)
    · intro cmd member
      exact startup_answerable ui cmd (List.mem_of_mem_drop member)
  · exact .append (.append start (answerable_ite count answerable_nil)) release
  · have filter : Answerable [.envFilter level] :=
      answerable_one (by simp [OvpnCommand.expectedResponse])
    exact .append (.append (.append start filter) (answerable_ite count answerable_nil)) release

/-! From the Connect on -/

/-- Nobody closes the connection, and the server answers every command in order, none before it is
    written, with notices anywhere. -/
structure Answering (engine : Bytes → Text) (host port : Text) (startup queued : List OvpnCommand)
    (steps : List (Io × Occurrence)) (script : List Text) (answers : List Answer) : Prop where
  calm : ∀ s ∈ steps, benign s.1 s.2 = true
  answered : List.Forall₂ (Answers (.max 10000))
    ((startup ++ queued ++ sends steps).map (·.expectedResponse)) answers
  clean : ∀ raw ∈ script, '\n' ∉ raw
  spoken : replies script = answers.flatMap Answer.lines
  asked : Asked engine (connecting host port startup queued) script ((quiet, .take) :: steps)

def dialled (host port : Text) (startup queued : List OvpnCommand) : Actor :=
  ⟨.startup ⟨socketAddr host port, .new, []⟩ startup false, queued.map .send, false, true⟩

theorem dialled_attached (host port : Text) (startup queued : List OvpnCommand) :
    Attached (socketAddr host port) (dialled host port startup queued)
      ⟨socketAddr host port, .new, []⟩ (startup ++ queued) := .startup rfl rfl

theorem connecting_run (engine : Bytes → Text) (host port : Text)
    (startup queued : List OvpnCommand) (steps : List (Io × Occurrence)) :
    run engine (connecting host port startup queued) ((quiet, .take) :: steps) =
      ((run engine (dialled host port startup queued) ((quiet, .timeout) :: steps)).1,
        .event .connected ::
          (run engine (dialled host port startup queued) ((quiet, .timeout) :: steps)).2) := by
  have same : Actor.startup engine ⟨.idle, queued.map .send, false, true⟩ quiet
      ⟨socketAddr host port, .new, []⟩ false startup =
      Actor.startup engine (dialled host port startup queued) quiet
        ⟨socketAddr host port, .new, []⟩ false startup := by
    cases startup with
    | nil => rfl
    | cons cmd left =>
      simp only [Actor.startup, dialled]
      cases Link.send engine ⟨socketAddr host port, .new, []⟩ quiet cmd <;> rfl
  simp only [run, step, connecting, Actor.take, Actor.connect, quiet, dialled, if_true,
    List.cons_append] at same ⊢
  simp only [same]

section Connections
variable {engine : Bytes → Text} {host port : Text} {startup queued : List OvpnCommand}
  {steps : List (Io × Occurrence)} {script : List Text} {answers : List Answer}

theorem asked_dialled
    (asked : Asked engine (connecting host port startup queued) script ((quiet, .take) :: steps)) :
    Asked engine (dialled host port startup queued) script ((quiet, .timeout) :: steps) := by
  intro earlier part
  cases earlier with
  | nil => simp [arrived, replies, responsesBegun]
  | cons s front =>
    obtain ⟨rfl, within⟩ := List.cons_prefix_cons.mp part
    have now := asked ((quiet, .take) :: front) (List.cons_prefix_cons.mpr ⟨rfl, within⟩)
    rw [connecting_run] at now
    exact now

theorem connection_linked (server : Answering engine host port startup queued steps script answers)
    (stream : arrived steps <+: wire script) :
    ∃ taken after later more bytes,
      Linked engine (socketAddr host port) (dialled host port startup queued)
        ⟨socketAddr host port, .new, []⟩ (startup ++ queued) ((quiet, .timeout) :: steps) taken
        (run engine (dialled host port startup queued) ((quiet, .timeout) :: steps)) after later ∧
      arrived steps ++ bytes = wire script ∧
      transcript ⟨.new, none⟩ script =
        reported (run engine (dialled host port startup queued) ((quiet, .timeout) :: steps)).2 ++
          transcript (MgmtMatching.readerOf after.codec) more ∧
      Synced ⟨after.codec, after.buffer, (writes (run engine (dialled host port startup queued)
        ((quiet, .timeout) :: steps)).2).flatten⟩ more (toCome later bytes) none [] := by
  have all : ∀ s ∈ (quiet, Occurrence.timeout) :: steps, benign s.1 s.2 = true := by
    intro s member
    rcases List.mem_cons.mp member with rfl | there
    · rfl
    · exact server.calm s there
  have dialled := asked_dialled server.asked
  obtain ⟨after, later, paced, whole⟩ := run_served (dialled_attached host port startup queued) all
    server.answered server.clean server.spoken stream dialled (List.append_nil _).symm
  have nothing : (quiet, Occurrence.timeout) :: steps ++ [] = (quiet, .timeout) :: steps :=
    List.append_nil _
  have answered := server.answered
  have heard : arrived ((quiet, Occurrence.timeout) :: steps) <+: wire script := stream
  rw [← nothing] at heard
  obtain ⟨more, bytes, rest, same, synced⟩ :=
    served_synced (by rwa [nothing]) server.clean server.spoken heard dialled paced whole
  rw [sends, List.append_nil] at synced
  exact ⟨_, after, later, more, bytes, whole, rest, same, synced⟩

theorem script_responses {limit : AccumulationLimit} {kinds : List ResponseKind}
    (answered : List.Forall₂ (Answers limit) kinds answers)
    (spoken : replies script = answers.flatMap Answer.lines) :
    (transcript ⟨.new, none⟩ script).filter isResponse = answers.map Answer.message ∧
      ∀ message ∈ transcript ⟨.new, none⟩ script, isResponse message ∨ isNotification message := by
  have follows : Follows limit none kinds (replies script) none [] := by
    rw [spoken]
    exact follows_answers answered
  obtain ⟨responses, others⟩ :=
    transcript_responses (r := ⟨.new, none⟩) follows (calm_of_unlimited rfl script)
  refine ⟨?_, others⟩
  rw [responses, spoken]
  exact answerMessages_answers answered

theorem attached_target {addr : Text} {a : Actor} {link : Link} {pending : List OvpnCommand}
    (attached : Attached addr a link pending) : openTarget a = some addr := by
  cases attached with
  | startup same _ => exact congrArg some same
  | running same _ => exact congrArg some same

/-- A Connect is taken, with its startup sequence and commands behind it, and the server answers
    every command in order, with notices anywhere and the stream cut anywhere: at any time the
    socket is open and nothing but messages has been reported, the startup sequence and then the
    other commands are written in order, and the answers reported so far are the first ones, in
    order, although the startup sequence waits for them and the rest does not. -/
theorem connection_served (server : Answering engine host port startup queued steps script answers)
    (stream : arrived steps <+: wire script) :
    ∃ given left body,
      (run engine (connecting host port startup queued) ((quiet, .take) :: steps)).2 =
        .event .connected :: body ∧
      openTarget (run engine (connecting host port startup queued) ((quiet, .take) :: steps)).1 =
        some (socketAddr host port) ∧
      startup ++ queued ++ sends steps = given ++ left ∧
      writes body = given.map (wireOf engine) ∧
      (∀ o ∈ body, (∃ msg, o = .event (.message msg)) ∨
        ∃ bytes, o = .write (socketAddr host port) bytes) ∧
      (reported body).filter isResponse <+: answers.map Answer.message ∧
      ∀ message ∈ reported body, isResponse message ∨ isNotification message := by
  obtain ⟨taken, after, later, more, bytes, whole, -, same, -⟩ :=
    connection_linked server stream
  obtain ⟨responses, others⟩ := script_responses server.answered server.spoken
  rw [connecting_run]
  refine ⟨commands taken, later, _, rfl, attached_target whole.attached, whole.order, whole.written,
    whole.inside, ?_, ?_⟩
  · rw [← responses, same, List.filter_append]
    exact List.prefix_append _ _
  · intro message member
    exact others message (same ▸ List.mem_append_left _ member)

end Connections

def servedScript : List Text :=
  [lit "SUCCESS: pid=7", lit ">HOLD:0", lit "v", lit "END", lit "SUCCESS: hold"]

def servedSteps : List (Io × Occurrence) :=
  [(quiet, .receive (wire [lit "SUCCESS: pid=7"])), (quiet, .take), (quiet, .poll),
    (quiet, .submit (.send .holdRelease)), (quiet, .receive (wire [lit ">HOLD:0", lit "v"])),
    (quiet, .poll), (quiet, .receive (wire [lit "END"])), (quiet, .poll), (quiet, .take),
    (quiet, .receive (wire [lit "SUCCESS: hold"]))]

theorem servedSteps_answering :
    Answering (fun _ => []) (lit "vpn") (lit "7505") [.pid, .version] [] servedSteps servedScript
      [.success (lit "pid=7"), .block [lit "v"], .success (lit "hold")] := by
  refine ⟨by decide +kernel, ?_, by decide +kernel, by decide +kernel, by decide +kernel⟩
  refine .cons trivial (.cons ⟨by decide +kernel, ?_⟩ (.cons trivial .nil))
  rintro most ⟨⟩
  simp

theorem connection_served_pieces :
    ∃ given left body,
      (run (fun _ => []) (connecting (lit "vpn") (lit "7505") [.pid, .version] [])
          ((quiet, .take) :: servedSteps)).2 = .event .connected :: body ∧
      openTarget (run (fun _ => []) (connecting (lit "vpn") (lit "7505") [.pid, .version] [])
          ((quiet, .take) :: servedSteps)).1 = some (socketAddr (lit "vpn") (lit "7505")) ∧
      [OvpnCommand.pid, .version] ++ [] ++ sends servedSteps = given ++ left ∧
      writes body = given.map (wireOf fun _ => []) ∧
      (∀ o ∈ body, (∃ msg, o = .event (.message msg)) ∨
        ∃ bytes, o = .write (socketAddr (lit "vpn") (lit "7505")) bytes) ∧
      (reported body).filter isResponse <+: [.success (lit "pid=7"), .multiLine [lit "v"],
        .success (lit "hold")] ∧
      ∀ message ∈ reported body, isResponse message ∨ isNotification message :=
  connection_served servedSteps_answering (by decide +kernel)

/-! To the end -/

section Connections
variable {engine : Bytes → Text} {host port : Text} {startup queued : List OvpnCommand}
  {steps : List (Io × Occurrence)} {script : List Text} {answers : List Answer}

def polls (n : Nat) : List (Io × Occurrence) := List.replicate n (quiet, .poll)

theorem polls_nothing (n : Nat) :
    sends (polls n) = [] ∧ arrived (polls n) = [] ∧ timeouts (polls n) = 0 ∧
      ∀ s ∈ polls n, benign s.1 s.2 = true := by
  induction n with
  | zero => exact ⟨rfl, rfl, rfl, by simp [polls]⟩
  | succ n ih =>
    obtain ⟨noSends, noBytes, noTimeouts, calm⟩ := ih
    refine ⟨noSends, noBytes, noTimeouts, ?_⟩
    intro s member
    rcases List.mem_cons.mp member with rfl | there
    · rfl
    · exact calm s there

theorem writes_grow (engine : Bytes → Text) (a : Actor) (front back : List (Io × Occurrence)) :
    (writes (run engine a front).2).length ≤ (writes (run engine a (front ++ back)).2).length := by
  rw [run_append, writes_append, List.length_append]
  omega

theorem asked_polls {a : Actor} {n : Nat} (asked : Asked engine a script steps) :
    Asked engine a script (steps ++ polls n) := by
  intro earlier part
  rcases prefix_cases part with inside | ⟨rest, rfl, beyond⟩
  · exact asked earlier inside
  · obtain ⟨more, same⟩ := beyond
    have nothing : arrived rest = [] := by
      have all := (polls_nothing n).2.1
      rw [← same, arrived_append] at all
      exact (List.append_eq_nil_iff.mp all).1
    have now := asked steps List.prefix_rfl
    rw [arrived_append, nothing, List.append_nil]
    exact Nat.le_trans now (writes_grow engine a steps rest)

theorem responses_turn (out : List Output) :
    ((reported out).filter isResponse).length ≤ turns out := by
  rw [turns, ← List.countP_eq_length_filter]
  apply List.countP_mono_left
  intro msg _ response
  cases msg <;> first | rfl | cases response

def unread (a : Actor) : Bytes :=
  match a.phase with
  | .startup link _ _ => link.buffer
  | .running link => link.buffer
  | _ => []

theorem attached_unread {addr : Text} {a : Actor} {link : Link} {pending : List OvpnCommand}
    (attached : Attached addr a link pending) : unread a = link.buffer := by
  cases attached <;> rfl

theorem unread_suffix (c : OvpnCodec) (src : Bytes) : (c.decode src).2.1 <:+ src :=
  MgmtProgress.codecRounds_suffix (MgmtProgress.codec_rounds c src)

variable (engine) in
theorem buffer_received (e : Endpoint) (taken : List Step) :
    (MgmtMatching.run engine e taken).1.buffer.length ≤
      e.buffer.length + (received taken).length := by
  induction taken generalizing e with
  | nil => exact Nat.le_refl _
  | cons s more ih =>
    have later := ih (MgmtMatching.step engine e s).1
    cases s with
    | encode cmd => exact later
    | receive chunk =>
      simp only [MgmtMatching.run, MgmtMatching.step, received, List.length_append] at later ⊢
      omega
    | poll =>
      have shorter := (unread_suffix e.codec e.buffer).length_le
      exact Nat.le_trans later (Nat.add_le_add_right shorter _)

theorem poll_unread {addr : Text} {a : Actor} {io : Io} {link after : Link}
    {pending later : List OvpnCommand} {next : Actor × List Output}
    (linked : Linked engine addr a link pending [(io, .poll)] (linkSteps a .poll) next after
      later) :
    after.buffer = (link.codec.decode link.buffer).2.1 := by
  have same := congrArg (fun r => r.1.buffer) (linked.endpoint [])
  obtain alone | ⟨cmd, both⟩ := linkSteps_poll a
  · rw [alone] at same
    exact same.symm
  · rw [both] at same
    exact same.symm

theorem poll_shrinks {c codec : OvpnCodec} {buffer sent rest : Bytes} {out : Option OvpnMessage}
    {later : List Step} {blockLeft : Option (List Text)} {kindsLeft : List ResponseKind}
    (synced : Synced ⟨c, buffer, sent⟩ script (.poll :: later) blockLeft kindsLeft)
    (all : received later = []) (decoding : c.decode buffer = (codec, rest, .ok out)) :
    rest = [] ∨ rest.length < buffer.length := by
  cases out with
  | some msg => exact Or.inr (decode_shrinks decoding (by simp))
  | none =>
    obtain ⟨more, _, -, -, next⟩ := MgmtMatching.synced_step (fun _ => []) synced
    have stream : rest = wire more := by
      have stream := next.stream
      rw [endpoint_poll decoding, all, List.append_nil] at stream
      exact stream
    have open_ : newline ∉ rest := by
      have waits : (c.decode buffer).2.2 = .ok none := by rw [decoding]
      have quiet := MgmtProgress.decode_quiet waits
      rw [decoding] at quiet
      exact quiet.1
    cases more with
    | nil => exact Or.inl stream
    | cons raw tail =>
      rw [stream, MgmtMatching.wire_cons] at open_
      simp at open_

theorem Answering.polls (server : Answering engine host port startup queued steps script answers)
    (n : Nat) : Answering engine host port startup queued (steps ++ polls n) script answers := by
  obtain ⟨noSends, -, -, more⟩ := polls_nothing n
  refine ⟨?_, ?_, server.clean, server.spoken, asked_polls server.asked⟩
  · intro s member
    rcases List.mem_append.mp member with here | there
    · exact server.calm s here
    · exact more s there
  · rw [sends_append, noSends, List.append_nil]
    exact server.answered

theorem arrived_polls (steps : List (Io × Occurrence)) (n : Nat) :
    arrived (steps ++ polls n) = arrived steps := by
  rw [arrived_append, (polls_nothing n).2.1, List.append_nil]

theorem polls_unread (server : Answering engine host port startup queued steps script answers)
    (stream : arrived steps = wire script) (n : Nat) :
    unread (run engine (dialled host port startup queued) ((quiet, .timeout) :: steps ++ polls n)).1
        = [] ∨
      (unread (run engine (dialled host port startup queued)
        ((quiet, .timeout) :: steps ++ polls n)).1).length + n ≤ (wire script).length := by
  have heard (n : Nat) : arrived (steps ++ polls n) = wire script :=
    (arrived_polls steps n).trans stream
  induction n with
  | zero =>
    obtain ⟨taken, after, later, -, -, whole, -⟩ :=
      connection_linked (server.polls 0) ((heard 0) ▸ List.prefix_rfl)
    have bound := buffer_received engine ⟨.new, [], []⟩ taken
    rw [whole.endpoint, whole.heard] at bound
    have all : arrived ((quiet, Occurrence.timeout) :: (steps ++ polls 0)) = wire script := heard 0
    rw [all] at bound
    rw [List.cons_append, attached_unread whole.attached]
    simp only [List.length_nil] at bound
    exact Or.inr (by omega)
  | succ n ih =>
    obtain ⟨taken, after, later, more, bytes, whole, rest, -, synced⟩ :=
      connection_linked (server.polls n) ((heard n) ▸ List.prefix_rfl)
    obtain rfl : bytes = [] := by simpa [heard n] using rest
    rw [List.cons_append, attached_unread whole.attached] at ih
    obtain ⟨codec, left, out, decoding⟩ := synced_decodes synced
    have flushed : quiet.write = none := rfl
    obtain ⟨last, _, linked⟩ := poll_linked engine whole.attached flushed synced
    have split : (quiet, Occurrence.timeout) :: steps ++ polls (n + 1) =
        (quiet, .timeout) :: (steps ++ polls n) ++ [(quiet, .poll)] := by
      rw [polls, List.replicate_succ', ← polls]
      simp
    have one : (run engine (dialled host port startup queued)
        ((quiet, .timeout) :: steps ++ polls (n + 1))).1 =
        ((run engine (dialled host port startup queued)
          ((quiet, .timeout) :: (steps ++ polls n))).1.poll engine quiet).1 := by
      rw [split, run_append]
      rfl
    have read : last.buffer = left := by rw [poll_unread linked, decoding]
    rw [one, attached_unread linked.attached, read]
    have noBytes : received (later.map Step.encode ++ [.receive []]) = [] :=
      received_toCome later []
    rcases poll_shrinks synced noBytes decoding with nothing | less
    · exact Or.inl nothing
    · rcases ih with empty | short
      · rw [empty] at less
        simp at less
      · exact Or.inr (by omega)

/-- Once everything the server says has arrived, the connection comes to rest: as many calls of
    `decode` as there are bytes are enough for the startup sequence to be over, every command to be
    written and every answer to be reported, in order. -/
theorem connection_completes
    (server : Answering engine host port startup queued steps script answers)
    (stream : arrived steps = wire script) {n : Nat} (enough : (wire script).length ≤ n) :
    ∃ link body,
      run engine (connecting host port startup queued) ((quiet, .take) :: steps ++ polls n) =
        (⟨.running link, [], false, true⟩, .event .connected :: body) ∧
      link.buffer = [] ∧ link.codec.expectedQueue = [] ∧ link.codec.multiLineBuf = none ∧
      writes body = (startup ++ queued ++ sends steps).map (wireOf engine) ∧
      (reported body).filter isResponse = answers.map Answer.message := by
  have sameSends : sends (steps ++ polls n) = sends steps := by
    rw [sends_append, (polls_nothing n).1, List.append_nil]
  have heard : arrived (steps ++ polls n) = wire script := (arrived_polls steps n).trans stream
  obtain ⟨taken, after, later, left, bytes, whole, rest, same, synced⟩ :=
    connection_linked (server.polls n) (heard ▸ List.prefix_rfl)
  have empty : after.buffer = [] := by
    have read := polls_unread server stream n
    rw [List.cons_append, attached_unread whole.attached] at read
    rcases read with nothing | short
    · exact nothing
    · exact List.eq_nil_of_length_eq_zero (by omega)
  obtain rfl : bytes = [] := by simpa [heard] using rest
  obtain rfl : left = [] := by
    have read := synced.stream
    rw [empty, received_toCome] at read
    cases left with
    | nil => rfl
    | cons raw tail => simp [MgmtMatching.wire_cons] at read
  obtain ⟨block, queue⟩ := follows_nil synced.follows
  obtain ⟨noQueue, noKinds⟩ := List.append_eq_nil_iff.mp queue
  obtain rfl : later = [] := by
    rw [kinds, commands_toCome] at noKinds
    exact List.map_eq_nil_iff.mp noKinds
  have order : startup ++ queued ++ sends (steps ++ polls n) = commands taken ++ [] := whole.order
  rw [List.append_nil, sameSends] at order
  obtain ⟨responses, -⟩ := script_responses server.answered server.spoken
  have final : transcript (MgmtMatching.readerOf after.codec) [] = [] := rfl
  rw [final, List.append_nil] at same
  rw [same] at responses
  rw [List.cons_append, connecting_run]
  generalize result : run engine (dialled host port startup queued)
    ((quiet, .timeout) :: (steps ++ polls n)) = next at whole responses
  obtain ⟨a, body⟩ := next
  have settled : ¬ starting a = true := by
    intro still
    -- Every command has had its turn, and the first of them went out before any.
    obtain ⟨-, count⟩ := whole.pace still
    have turned := responses_turn body
    have pairs := server.answered.length_eq
    rw [responses, List.length_map] at turned
    rw [List.length_map, order] at pairs
    rw [timeouts_cons] at count
    simp only [timeouts] at count
    omega
  have attached := whole.attached
  generalize noneLeft : ([] : List OvpnCommand) = waiting at attached
  cases attached with
  | startup same sanitize => exact absurd rfl settled
  | running same sanitize =>
    subst noneLeft
    exact ⟨after, body, rfl, empty, noQueue, block, order ▸ whole.written, responses⟩

end Connections

theorem connection_completes_pieces :
    ∃ link body,
      run (fun _ => []) (connecting (lit "vpn") (lit "7505") [.pid, .version] [])
          ((quiet, .take) :: servedSteps ++ polls 43) =
        (⟨.running link, [], false, true⟩, .event .connected :: body) ∧
      link.buffer = [] ∧ link.codec.expectedQueue = [] ∧ link.codec.multiLineBuf = none ∧
      writes body = [wireOf (fun _ => []) .pid, wireOf (fun _ => []) .version,
        wireOf (fun _ => []) .holdRelease] ∧
      (reported body).filter isResponse = [.success (lit "pid=7"), .multiLine [lit "v"],
        .success (lit "hold")] :=
  connection_completes servedSteps_answering (by decide +kernel) (by decide +kernel)

end MgmtServing
