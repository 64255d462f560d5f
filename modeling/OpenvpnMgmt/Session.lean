import OpenvpnMgmt.EncodeSafety
import OpenvpnMgmt.EventStream
import OpenvpnMgmt.Pipelining
import Mathlib.Data.List.Forall2

/-!
Send-and-receive sessions. A call sends its command and takes the next message that is no
notification for the answer, so the calls read the non-notifications of the stream one by one;
they get their own answers exactly when nothing else of that sort comes before the last answer.
-/
namespace MgmtSession
open TextOps Utf8Text LineFraming MgmtEncoder MgmtValues MgmtCommand MgmtMessage MgmtFrame
  MgmtNotifications MgmtCodec MgmtDraining MgmtServerStream MgmtMatching MgmtPipelining
  MgmtEncodeSafety MgmtEventStream

structure ManagementSession (σ : Type) where
  events : EventStream σ

/-- The helper that a method of the session hands its command to. -/
inductive Helper where
  | expectSuccess
  | expectMultiLine
  | expectOk
  deriving DecidableEq, Repr

/- `send_stream_command`. -/
def streamHelper (mode : StreamMode) : Helper :=
  if mode.returnsHistory then .expectMultiLine else .expectOk

/- Which helper the method for a command uses; `none` where no method waits for a response. -/
def helperOf : OvpnCommand → Option Helper
  | .status _ | .state | .version | .help | .net | .remoteEntryCount | .remoteEntryGet _ =>
    some .expectMultiLine
  | .stateStream mode | .log mode | .echo mode => some (streamHelper mode)
  | .pid | .verb _ | .mute _ | .holdQuery | .pkcs11IdCount | .pkcs11IdGet _ | .loadStats | .raw _ =>
    some .expectSuccess
  | .setVersion n => if n.toNat < 4 then none else some .expectOk
  | .byteCount _ | .signal _ | .kill _ | .holdOn | .holdOff | .holdRelease | .username _ _
  | .password _ _ | .authRetry _ | .forgetPasswords | .challengeResponse _ _
  | .staticChallengeResponse _ _ | .crResponse _ | .needOk _ _ | .needStr _ _ | .rsaSig _
  | .pkSig _ | .certificate _ | .clientAuth _ _ _ | .clientAuthNt _ _ | .clientDeny _
  | .clientKill _ _ | .clientPendingAuth _ _ _ _ | .remote _ | .proxy _ | .envFilter _
  | .pushUpdateBroad _ | .pushUpdateCid _ _ | .managementPassword _ => some .expectOk
  | .exit | .quit | .rawMultiLine _ => none

structure Call where
  cmd : OvpnCommand
  helper : Helper
  offered : helperOf cmd = some helper
  deriving DecidableEq

/-- What a call returns before its method parses it. -/
inductive Content where
  | payload (text : Text)
  | lines (lines : List Text)
  | done
  deriving DecidableEq, Repr

abbrev Result := Except SessionError Content

section Calling
variable {σ : Type} (framed : Framed σ)

def ManagementSession.sendCommand (s : ManagementSession σ) (cmd : OvpnCommand) :
    ManagementSession σ × Except SessionError Unit :=
  let (inner, result) := framed.send s.events.inner cmd
  (⟨⟨inner, s.events.stash⟩⟩, result.mapError fun e => .io (.encode e))

/- Nothing is received for a command that could not be sent. -/
def ManagementSession.sendThen {α : Type} (s : ManagementSession σ) (cmd : OvpnCommand)
    (recv : EventStream σ → EventStream σ × Except SessionError α) :
    ManagementSession σ × Except SessionError α :=
  match s.sendCommand framed cmd with
  | (s, .error e) => (s, .error e)
  | (s, .ok ()) =>
    let (events, result) := recv s.events
    (⟨events⟩, result)

def ManagementSession.sendExpectSuccess (s : ManagementSession σ) (cmd : OvpnCommand) :
    ManagementSession σ × Except SessionError Text :=
  s.sendThen framed cmd (·.recvSuccess framed)

def ManagementSession.sendExpectMultiLine (s : ManagementSession σ) (cmd : OvpnCommand) :
    ManagementSession σ × Except SessionError (List Text) :=
  s.sendThen framed cmd (·.recvMultiLine framed)

def ManagementSession.sendExpectOk (s : ManagementSession σ) (cmd : OvpnCommand) :
    ManagementSession σ × Except SessionError Unit :=
  s.sendThen framed cmd (·.recvOk framed)

def ManagementSession.call (s : ManagementSession σ) (c : Call) : ManagementSession σ × Result :=
  match c.helper with
  | .expectSuccess => (s.sendExpectSuccess framed c.cmd).map id (·.map .payload)
  | .expectMultiLine => (s.sendExpectMultiLine framed c.cmd).map id (·.map .lines)
  | .expectOk => (s.sendExpectOk framed c.cmd).map id (·.map fun _ => .done)

def ManagementSession.calls (s : ManagementSession σ) :
    List Call → ManagementSession σ × List Result
  | [] => (s, [])
  | c :: more =>
    let (s, result) := s.call framed c
    let (s, results) := s.calls more
    (s, result :: results)

end Calling

def Call.read (c : Call) (message : OvpnMessage) : Result :=
  match c.helper with
  | .expectSuccess => (asSuccess message).map .payload
  | .expectMultiLine => (asMultiLine message).map .lines
  | .expectOk => (asSuccess message).map fun _ => .done

/- What a call owes its caller when the server gives this answer. -/
def Call.owed (c : Call) : Answer → Result
  | .error text => .error (.serverError text)
  | .success text => .ok (if c.helper = .expectOk then .done else .payload text)
  | .block lines => .ok (.lines lines)

def Call.kind (c : Call) : ResponseKind := c.cmd.expectedResponse

theorem call_kind (c : Call) :
    c.kind = if c.helper = .expectMultiLine then .multiLine else .successOrError := by
  obtain ⟨cmd, helper, offered⟩ := c
  simp only [Call.kind]
  cases cmd with
  | stateStream mode | log mode | echo mode =>
    simp only [helperOf, Option.some.injEq, streamHelper] at offered
    subst offered
    simp only [OvpnCommand.expectedResponse]
    split <;> rfl
  | setVersion n =>
    simp only [helperOf] at offered
    split at offered
    · cases offered
    · rename_i answered
      cases offered
      simp [OvpnCommand.expectedResponse, answered]
  | exit | quit | rawMultiLine _ => cases offered
  | _ =>
    cases offered
    rfl

theorem read_answer {c : Call} {limit : AccumulationLimit} {answer : Answer}
    (fits : Answers limit c.kind answer) : c.read answer.message = c.owed answer := by
  rw [call_kind] at fits
  obtain ⟨cmd, helper, offered⟩ := c
  cases helper <;> cases answer <;> first | rfl | exact absurd fits id

theorem read_owed {c : Call} {message : OvpnMessage} {answer : Answer}
    (same : c.read message = c.owed answer) : isResponse message = true := by
  obtain ⟨cmd, helper, offered⟩ := c
  cases message with
  | success _ | error _ | multiLine _ => rfl
  | _ => cases helper <;> cases answer <;> cases same

/-! In step with the server -/

/- The bytes at hand begin with the lines of the front and with the prompt behind them, if there is
   one. The prompt may lack its line end where a read ends behind it. -/
def Carries (front : List Text) (prompt : Option Text) (buffer : Bytes) (incoming : List Bytes) :
    Prop :=
  wire (front ++ prompt.toList) <+: buffer ++ incoming.flatten ∨
    prompt = some pwPrompt ∧ ∃ reads later, incoming = reads ++ later ∧
      buffer ++ reads.flatten = wire front ++ toUtf8 pwPrompt

/-- The connection agrees with the rest of the server's script up to its first prompt, if it has
    one, whatever bytes stand behind it; `future` belongs to the commands still to be sent. -/
structure Served (conn : Connection) (front : List Text) (prompt : Option Text)
    (future : List ResponseKind) : Prop where
  clean : ∀ raw ∈ front ++ prompt.toList, '\n' ∉ raw
  stream : Carries front prompt conn.buffer conn.incoming
  reads : ∀ chunk ∈ conn.incoming, chunk ≠ []
  follows : ∃ blockLeft kindsLeft, Follows conn.codec.maxMultiLineLines conn.codec.multiLineBuf
    (conn.codec.expectedQueue ++ future) (replies front) blockLeft kindsLeft ∧
      (prompt = none → kindsLeft = [])
  asks : ∀ raw ∈ prompt, trimLineEnd raw = pwPrompt
  calm : Calm conn.codec.frameDecoder front
  mode : conn.codec.encoderMode = .sanitize

def said (conn : Connection) (script : List Text) : List OvpnMessage :=
  (transcript (readerOf conn.codec) script).filter heard

/- Behind a prompt nothing is known. Behind anything else the connection still agrees with the
   script, and a command is pending unless an answer came. -/
def Reaches (prompt : Option Text) (future : List ResponseKind) (conn : Connection)
    (script : List Text) (messages : List OvpnMessage) : Prop :=
  messages = [.passwordPrompt] ∧ script = [] ∨
    ∃ front, script = front ++ prompt.toList ∧ Served conn front prompt future ∧
      ((∀ message ∈ messages, isResponse message = false) → 0 < conn.codec.expectedQueue.length)

theorem response_heard {message : OvpnMessage} (response : isResponse message = true) :
    heard message = true := by
  cases message <;> first | rfl | cases response

theorem answer_isResponse (answer : Answer) : isResponse answer.message = true := by
  cases answer <;> rfl

section Bytes
variable {front : List Text} {prompt : Option Text} {raw : Text} {buffer : Bytes}
  {incoming : List Bytes}

theorem carries_cons (carries : Carries (raw :: front) prompt buffer incoming)
    (clean : '\n' ∉ raw) :
    (∃ later rest, buffer ++ later = toUtf8 raw ++ newline :: rest) ∧
      (newline ∈ buffer →
        ∃ rest, buffer = toUtf8 raw ++ newline :: rest ∧ Carries front prompt rest incoming) := by
  rcases carries with ⟨behind, stream⟩ | ⟨bare, reads, later, rfl, stream⟩
  · have line : buffer ++ incoming.flatten =
        toUtf8 raw ++ newline :: (wire (front ++ prompt.toList) ++ behind) := by
      rw [← stream, List.cons_append, wire_cons, List.append_assoc, List.cons_append]
    refine ⟨⟨_, _, line⟩, fun whole => ?_⟩
    obtain ⟨rest, shape, tail⟩ := wire_front clean line whole
    exact ⟨rest, shape, Or.inl ⟨behind, tail.symm⟩⟩
  · have line : buffer ++ reads.flatten =
        toUtf8 raw ++ newline :: (wire front ++ toUtf8 pwPrompt) := by
      rw [stream, wire_cons, List.append_assoc, List.cons_append]
    refine ⟨⟨_, _, line⟩, fun whole => ?_⟩
    obtain ⟨rest, shape, tail⟩ := wire_front clean line whole
    exact ⟨rest, shape, Or.inr ⟨bare, reads, later, rfl, tail⟩⟩

theorem carries_prompt (carries : Carries [] (some raw) buffer incoming) (clean : '\n' ∉ raw)
    (whole : newline ∈ buffer) : ∃ rest, buffer = toUtf8 raw ++ newline :: rest := by
  rcases carries with ⟨behind, stream⟩ | ⟨-, reads, later, rfl, stream⟩
  · have line : buffer ++ incoming.flatten = toUtf8 raw ++ newline :: behind := by
      rw [← stream]
      simp [wire]
    obtain ⟨rest, shape, -⟩ := wire_front clean line whole
    exact ⟨rest, shape⟩
  · have inside : newline ∈ wire [] ++ toUtf8 pwPrompt := stream ▸ List.mem_append_left _ whole
    exact absurd inside (by simpa [wire] using newline_not_mem_prompt)

/-- In front of an unfinished line that is no prompt yet, a read is still to come. -/
theorem carries_read (carries : Carries front prompt buffer incoming)
    (unfinished : newline ∉ buffer) (early : ¬ toUtf8 pwPrompt <+: buffer)
    (more : front ++ prompt.toList ≠ []) :
    ∃ chunk later, incoming = chunk :: later ∧ Carries front prompt (buffer ++ chunk) later := by
  rcases carries with stream | ⟨bare, reads, later, rfl, stream⟩
  · cases incoming with
    | nil =>
      rw [List.flatten_nil, List.append_nil] at stream
      obtain ⟨raw, rest, shape⟩ := List.exists_cons_of_ne_nil more
      exact absurd (stream.subset (by simp [shape, wire_cons])) unfinished
    | cons chunk later =>
      rw [List.flatten_cons, ← List.append_assoc] at stream
      exact ⟨chunk, later, rfl, Or.inl stream⟩
  · cases reads with
    | nil =>
      rw [List.flatten_nil, List.append_nil] at stream
      subst stream
      cases front with
      | nil => exact absurd List.prefix_rfl early
      | cons raw rest => exact absurd (by simp [wire_cons]) unfinished
    | cons chunk reads =>
      rw [List.flatten_cons, ← List.append_assoc] at stream
      exact ⟨chunk, reads ++ later, rfl, Or.inr ⟨bare, reads, later, rfl, stream⟩⟩

end Bytes

theorem transcript_append (r : Reader) (front more : List Text) :
    transcript r (front ++ more) =
      transcript r front ++ transcript (feed Reader.take r front).1 more := by
  simp only [transcript, feed_append]

theorem take_prompt (r : Reader) {raw : Text} (asks : trimLineEnd raw = pwPrompt) :
    r.take raw = (r, [.passwordPrompt]) := by
  rw [Reader.take, asks, takeLine_prompt]
  rfl

theorem takeBytes_prompt (c : OvpnCodec) {raw : Text} (asks : trimLineEnd raw = pwPrompt) :
    c.takeBytes (toUtf8 raw ++ [newline]) = (c, some (.ok .passwordPrompt)) := by
  rw [takeBytes_raw, asks, takeLine_prompt]
  rfl

theorem transcript_prompt (r : Reader) {raw : Text} (asks : trimLineEnd raw = pwPrompt) :
    transcript r [raw] = [.passwordPrompt] := by
  rw [transcript_cons, take_prompt r asks]
  rfl

theorem served_forget {a b : OvpnCodec} (same : forget a = forget b) {buffer : Bytes}
    {incoming : List Bytes} {front : List Text} {prompt : Option Text} {future : List ResponseKind}
    (served : Served ⟨a, buffer, incoming⟩ front prompt future) :
    Served ⟨b, buffer, incoming⟩ front prompt future := by
  have mode : (forget a).encoderMode = (forget b).encoderMode := by rw [same]
  obtain ⟨queue, block, limit, frames⟩ := forget_fields same
  obtain ⟨clean, stream, reads, follows, asks, calm, sanitize⟩ := served
  simp only [queue, block, limit, frames] at follows calm
  exact ⟨clean, stream, reads, follows, asks, calm, mode.symm.trans sanitize⟩

theorem reaches_forget {a b : OvpnCodec} (same : forget a = forget b) {buffer : Bytes}
    {incoming : List Bytes} {script : List Text} {prompt : Option Text}
    {future : List ResponseKind} {messages : List OvpnMessage}
    (reaches : Reaches prompt future ⟨a, buffer, incoming⟩ script messages) :
    Reaches prompt future ⟨b, buffer, incoming⟩ script messages := by
  obtain ⟨queue, -⟩ := forget_fields same
  rcases reaches with done | ⟨front, shape, served, waits⟩
  · exact Or.inl done
  · exact Or.inr ⟨front, shape, served_forget same served, fun silent => queue ▸ waits silent⟩

section Decoding
variable {c : OvpnCodec} {buffer : Bytes} {incoming : List Bytes} {front : List Text}
  {prompt : Option Text} {future : List ResponseKind}

theorem served_pending (served : Served ⟨c, buffer, incoming⟩ front prompt future)
    (pending : 0 < c.expectedQueue.length) : front ≠ [] ∨ ∃ raw, prompt = some raw := by
  cases front with
  | cons raw more => exact Or.inl (by simp)
  | nil =>
    cases prompt with
    | some raw => exact Or.inr ⟨raw, rfl⟩
    | none =>
      obtain ⟨_, _, follows, ends⟩ := served.follows
      obtain ⟨-, nothing⟩ := follows_nil follows
      rw [ends rfl] at nothing
      rw [(List.append_eq_nil_iff.mp nothing).1] at pending
      simp at pending

theorem served_line (served : Served ⟨c, buffer, incoming⟩ front prompt future)
    (pending : 0 < c.expectedQueue.length) (whole : newline ∈ buffer) :
    ∃ body rest after out more messages, newline ∉ body ∧ buffer = body ++ newline :: rest ∧
      c.takeBytes (body ++ [newline]) = (after, out) ∧ out.toList = messages.map .ok ∧
      transcript (readerOf c) (front ++ prompt.toList) =
        messages ++ transcript (readerOf after) more ∧
      Reaches prompt future ⟨after, rest, incoming⟩ more messages := by
  obtain ⟨clean, stream, reads, ⟨blockLeft, kindsLeft, follows, ends⟩, asks, calm, mode⟩ := served
  cases front with
  | nil =>
    obtain ⟨raw, rfl⟩ := (served_pending ⟨clean, stream, reads, ⟨_, _, follows, ends⟩, asks, calm,
      mode⟩ pending).resolve_left (by simp)
    have clean := clean raw (by simp)
    have isPrompt := asks raw rfl
    obtain ⟨rest, rfl⟩ := carries_prompt stream clean whole
    refine ⟨toUtf8 raw, rest, c, _, [], _, newline_not_mem clean, rfl, takeBytes_prompt c isPrompt,
      rfl, ?_, Or.inl ⟨rfl, rfl⟩⟩
    exact transcript_prompt _ isPrompt
  | cons raw more =>
    have here := clean raw (by simp)
    obtain ⟨rest, rfl, behind⟩ := (carries_cons stream here).2 whole
    obtain ⟨after, out, taken, takes⟩ := takes_line follows calm (fun _ => pending)
    obtain ⟨messages, reader, reported⟩ := takes.reader
    refine ⟨toUtf8 raw, rest, after, out, more ++ prompt.toList, messages, newline_not_mem here,
      rfl, taken, reported, ?_, Or.inr ⟨more, rfl, ?_, ?_⟩⟩
    · rw [List.cons_append, transcript_cons, reader]
    · exact ⟨fun later member => clean later (List.mem_cons_of_mem _ member), behind, reads,
        ⟨_, _, takes.follows, ends⟩, asks, takes.calm, takes.mode.trans mode⟩
    · intro silent
      rcases takes.queue with same | ⟨answer, given⟩
      · rw [same]
        exact pending
      · obtain rfl : messages = [answer.message] := by
          rw [given] at reported
          rcases messages with _ | ⟨m, _ | _⟩ <;> simp at reported ⊢
          exact reported.symm
        have quiet := silent answer.message (by simp)
        rw [answer_isResponse] at quiet
        cases quiet

theorem served_decoded (served : Served ⟨c, buffer, incoming⟩ front prompt future)
    (pending : 0 < c.expectedQueue.length) :
    ∃ after rest out more messages, decoded c buffer = (after, rest, out) ∧
      events out = messages.map .ok ∧
      transcript (readerOf c) (front ++ prompt.toList) =
        messages ++ transcript (readerOf after) more ∧
      rest.length ≤ buffer.length ∧
      Reaches prompt future ⟨after, rest, incoming⟩ more messages := by
  refine decoded_rule
    (fun c buffer script => ∃ front, script = front ++ prompt.toList ∧
      Served ⟨c, buffer, incoming⟩ front prompt future ∧ 0 < c.expectedQueue.length)
    (fun c buffer script messages => Reaches prompt future ⟨c, buffer, incoming⟩ script messages)
    ?_ ?_ ?_ ⟨front, rfl, served, pending⟩
  · exact fun c _ _ _ reaches => reaches_forget (forget_forget c).symm reaches
  · rintro c buffer script ⟨front, rfl, served, pending⟩ whole
    obtain ⟨body, rest, after, out, more, messages, clean, shape, taken, reported, same, next⟩ :=
      served_line served pending whole
    refine ⟨body, rest, after, out, more, messages, clean, shape, taken, reported, same, next, ?_⟩
    rintro rfl
    obtain rfl : messages = [] := by simpa using reported.symm
    rcases next with ⟨prompted, -⟩ | ⟨front, shape, served, waits⟩
    · cases prompted
    · exact ⟨front, shape, served, waits (by simp)⟩
  · rintro c buffer script ⟨front, rfl, served, pending⟩ whole
    by_cases early : toUtf8 pwPrompt <+: buffer
    · refine Or.inr ⟨early, [], ?_, fun _ => Or.inl ⟨rfl, rfl⟩⟩
      cases front with
      | nil =>
        obtain ⟨raw, rfl⟩ := (served_pending served pending).resolve_left (by simp)
        exact transcript_prompt _ (served.asks raw rfl)
      | cons raw more =>
        obtain ⟨_, _, follows, -⟩ := served.follows
        obtain ⟨_, _, line⟩ := (carries_cons served.stream (served.clean raw (by simp))).1
        exact absurd early (unfinished_not_prompt follows line whole)
    · exact Or.inl ⟨early, Or.inr ⟨front, rfl, served, fun _ => pending⟩⟩

theorem served_decode {conn : Connection} (served : Served conn front prompt future)
    (pending : 0 < conn.codec.expectedQueue.length) :
    ∃ codec rest more,
      (∃ message, conn.codec.decode conn.buffer = (codec, rest, .ok (some message)) ∧
          transcript (readerOf conn.codec) (front ++ prompt.toList) =
            message :: transcript (readerOf codec) more ∧
          rest.length < conn.buffer.length ∧
          Reaches prompt future ⟨codec, rest, conn.incoming⟩ more [message]) ∨
        conn.codec.decode conn.buffer = (codec, rest, .ok none) ∧
          transcript (readerOf conn.codec) (front ++ prompt.toList) =
            transcript (readerOf codec) (more ++ prompt.toList) ∧
          rest.length ≤ conn.buffer.length ∧ 0 < codec.expectedQueue.length ∧
          Served ⟨codec, rest, conn.incoming⟩ more prompt future ∧
          newline ∉ rest ∧ ¬ toUtf8 pwPrompt <+: rest := by
  obtain ⟨c, buffer, incoming⟩ := conn
  obtain ⟨after, rest, out, more, messages, decoding, outcome, same, shorter, reaches⟩ :=
    served_decoded served pending
  rcases step : c.decode buffer with ⟨codec, left, result⟩
  have normal : (after, rest, out) = (forget codec, left, result) := by
    rw [← decoding, decoded, step]
  cases normal
  have kept := reaches_forget (forget_forget codec) reaches
  rcases out with e | _ | message
  · cases messages <;> simp [events] at outcome
  · obtain rfl : messages = [] := by simpa [events] using outcome.symm
    rcases kept with ⟨prompted, -⟩ | ⟨next, rfl, served, waits⟩
    · cases prompted
    · exact ⟨codec, rest, next, Or.inr ⟨rfl, same, shorter, waits (by simp), served,
        decoded_quiet decoding⟩⟩
  · obtain rfl : messages = [message] := by
      rcases messages with _ | ⟨m, _ | _⟩ <;> simp [events] at outcome ⊢
      exact outcome.symm
    exact ⟨codec, rest, more, Or.inl ⟨message, rfl, same, decode_shrinks step (by simp), kept⟩⟩

end Decoding

section Waiting
variable {σ : Type} {engine : Bytes → Text} {framed : Framed σ} {front : List Text}
  {prompt : Option Text} {future : List ResponseKind}

theorem served_next (lawful : Lawful engine framed) {s : σ}
    (served : Served (framed.view s) front prompt future)
    (pending : 0 < (framed.view s).codec.expectedQueue.length)
    (speaks : transcript (readerOf (framed.view s).codec) (front ++ prompt.toList) ≠ []) :
    ∃ after message more, framed.next s = (after, some (.ok message)) ∧
      transcript (readerOf (framed.view s).codec) (front ++ prompt.toList) =
        message :: transcript (readerOf (framed.view after).codec) more ∧
      (framed.view after).left < (framed.view s).left ∧
      Reaches prompt future (framed.view after) more [message] := by
  induction reads : (framed.view s).incoming.length using Nat.strongRecOn generalizing s front with
  | ind n ih =>
    obtain ⟨codec, rest, more, ⟨message, decoding, same, shorter, reaches⟩ |
      ⟨decoding, same, shorter, waits, next, unfinished, early⟩⟩ := served_decode served pending
    · obtain ⟨after, given, view⟩ := lawful.decodes s codec rest message decoding
      refine ⟨after, message, more, given, by rw [view, same], ?_, by rw [view]; exact reaches⟩
      simp only [view, Connection.left]
      omega
    · have open_ : more ++ prompt.toList ≠ [] := by
        intro nothing
        rw [same, nothing] at speaks
        exact speaks rfl
      obtain ⟨chunk, later, reading, stream⟩ := carries_read next.stream unfinished early open_
      simp only at reading
      have full : chunk ≠ [] := served.reads chunk (by simp [reading])
      obtain ⟨mid, given, view⟩ := lawful.reads s codec rest chunk later decoding reading full
      have read : Served (framed.view mid) more prompt future := by
        rw [view]
        exact ⟨next.clean, stream, fun c member => served.reads c (by simp [reading, member]),
          next.follows, next.asks, next.calm, next.mode⟩
      obtain ⟨after, message, final, out, tail, less, reaches⟩ :=
        ih later.length (by simp [reading] at reads; omega) read (by rw [view]; exact waits)
          (by rw [view, ← same]; exact speaks) (by rw [view])
      refine ⟨after, message, final, given.trans out, ?_, ?_, reaches⟩
      · rw [same, ← tail, view]
      · have smaller : (framed.view mid).left ≤ (framed.view s).left := by
          simp only [view, Connection.left, reading, List.flatten_cons, List.length_append]
          omega
        omega

/-- The transport delivers notifications and then the first message that is none. -/
theorem served_hears (lawful : Lawful engine framed) {s : σ}
    (served : Served (framed.view s) front prompt future)
    (pending : 0 < (framed.view s).codec.expectedQueue.length)
    (speaks : said (framed.view s) (front ++ prompt.toList) ≠ []) :
    ∃ (notes : List Notification) (message : OvpnMessage) (after : σ) (more : List Text),
      Delivers framed.next s (notes.map (.ok ∘ .notification) ++ [.ok message]) after ∧
      heard message = true ∧
      said (framed.view s) (front ++ prompt.toList) = message :: said (framed.view after) more ∧
      Reaches prompt future (framed.view after) more [message] ∧
      notes.length < (framed.view s).left := by
  induction size : (framed.view s).left using Nat.strongRecOn generalizing s front with
  | ind n ih =>
    have nonempty : transcript (readerOf (framed.view s).codec) (front ++ prompt.toList) ≠ [] := by
      intro nothing
      simp [said, nothing] at speaks
    obtain ⟨mid, message, more, given, same, less, reaches⟩ :=
      served_next lawful served pending nonempty
    by_cases response : heard message = true
    · refine ⟨[], message, mid, more, .step given (.done mid), response, ?_, reaches, ?_⟩
      · rw [said, same, List.filter_cons_of_pos response]
        rfl
      · simp only [List.length_nil]
        omega
    · obtain ⟨note, rfl⟩ : ∃ note, message = .notification note := by
        cases message <;> simp [heard] at response ⊢
      obtain ⟨next, rfl, still, waits⟩ := reaches.resolve_left (by simp)
      have skipped : said (framed.view s) (front ++ prompt.toList) =
          said (framed.view mid) (next ++ prompt.toList) := by
        rw [said, same, List.filter_cons_of_neg response]
        rfl
      rw [skipped] at speaks
      obtain ⟨notes, found, after, final, delivers, isHeard, tail, done, short⟩ :=
        ih _ (by omega) still (waits (by simp [isResponse])) speaks rfl
      refine ⟨note :: notes, found, after, final, .step given delivers, isHeard, ?_, done, ?_⟩
      · rw [skipped, tail]
      · simp only [List.length_cons]
        omega

theorem follows_counts {limit : AccumulationLimit} {block blockLeft : Option (List Text)}
    {kinds kindsLeft : List ResponseKind} {lines : List Text}
    (follows : Follows limit block kinds lines blockLeft kindsLeft) :
    (answerMessages block lines).length + kindsLeft.length = kinds.length := by
  induction follows with
  | done block kinds => simp [answerMessages]
  | @single kind kinds kindsLeft line more blockLeft answer rest ih =>
    rw [answerMessages, if_neg answer.notEnd, if_pos answer, List.length_append]
    obtain ⟨text, frame⟩ | ⟨text, frame⟩ := (takeLine_single FrameDecoder.new answer).2
    all_goals
      rw [frame]
      simp only [frameMessage, Option.toList_some, List.length_cons, List.length_nil]
      omega
  | blockEnd rest ih =>
    rw [answerMessages, if_pos rfl]
    simp only [List.length_cons]
    omega
  | body plain room rest ih =>
    rw [answerMessages, if_neg plain.notEnd, if_neg plain.isNotSingle]
    exact ih

theorem served_speaks {conn : Connection} (served : Served conn front prompt future)
    (pending : 0 < conn.codec.expectedQueue.length) :
    said conn (front ++ prompt.toList) ≠ [] := by
  obtain ⟨_, kindsLeft, follows, ends⟩ := served.follows
  cases prompt with
  | some raw =>
    rw [said, transcript_append, List.filter_append, Option.toList_some,
      transcript_prompt _ (served.asks raw rfl)]
    simp [heard]
  | none =>
    have counted := follows_counts follows
    obtain ⟨responses, -⟩ := transcript_responses (r := readerOf conn.codec) follows served.calm
    intro nothing
    have silent : (transcript (readerOf conn.codec) front).filter isResponse = [] := by
      rw [List.filter_eq_nil_iff]
      intro message member response
      have inside : message ∈ said conn (front ++ Option.toList none) :=
        List.mem_filter.mpr ⟨by simpa using member, response_heard response⟩
      rw [nothing] at inside
      cases inside
    rw [silent] at responses
    have unanswered : answerMessages conn.codec.multiLineBuf (replies front) = [] := responses.symm
    rw [unanswered, ends rfl] at counted
    simp only [List.length_nil, List.length_append] at counted
    omega

theorem call_received {inner mid after : σ} {stash stashed : List Notification} {c : Call}
    {message : OvpnMessage} (sent : framed.send inner c.cmd = (mid, .ok ()))
    (received : EventStream.recvResponse framed ⟨mid, stash⟩ = (⟨after, stashed⟩, .ok message)) :
    ManagementSession.call framed ⟨⟨inner, stash⟩⟩ c = (⟨⟨after, stashed⟩⟩, c.read message) := by
  have out (α : Type) (recv : EventStream σ → EventStream σ × Except SessionError α) :
      ManagementSession.sendThen framed ⟨⟨inner, stash⟩⟩ c.cmd recv =
        (⟨(recv ⟨mid, stash⟩).1⟩, (recv ⟨mid, stash⟩).2) := by
    simp only [ManagementSession.sendThen, ManagementSession.sendCommand, sent, Except.mapError]
  cases helper : c.helper with
  | expectSuccess =>
    simp only [ManagementSession.call, helper, ManagementSession.sendExpectSuccess, out,
      EventStream.recvSuccess, received, Call.read]
    rfl
  | expectMultiLine =>
    simp only [ManagementSession.call, helper, ManagementSession.sendExpectMultiLine, out,
      EventStream.recvMultiLine, received, Call.read]
    rfl
  | expectOk =>
    simp only [ManagementSession.call, helper, ManagementSession.sendExpectOk, out,
      EventStream.recvOk, EventStream.recvSuccess, received, Call.read]
    cases message <;> rfl

/-- A call returns what its helper makes of the next message heard. -/
theorem served_call (lawful : Lawful engine framed) {s : ManagementSession σ} {c : Call}
    (served : Served (framed.view s.events.inner) front prompt (c.kind :: future)) :
    ∃ after message more, s.call framed c = (after, c.read message) ∧
      said (framed.view s.events.inner) (front ++ prompt.toList) =
        message :: said (framed.view after.events.inner) more ∧
      Reaches prompt future (framed.view after.events.inner) more [message] := by
  obtain ⟨⟨inner, stash⟩⟩ := s
  have accepted : Accepted (framed.view inner).codec.encoderMode c.cmd := Or.inl served.mode
  obtain ⟨w, -, -, encoded⟩ := encode_accepted engine accepted []
  obtain ⟨mid, sent, view⟩ := lawful.sends inner c.cmd _ _ encoded
  have waiting : Served (framed.view mid) front prompt future := by
    obtain ⟨clean, stream, reads, follows, asks, calm, mode⟩ := served
    rw [view]
    exact ⟨clean, stream, reads, by simpa [Call.kind] using follows, asks, calm, mode⟩
  have pending : 0 < (framed.view mid).codec.expectedQueue.length := by
    rw [view]
    simp
  obtain ⟨notes, message, after, more, delivers, response, same, reaches, short⟩ :=
    served_hears lawful waiting pending (served_speaks waiting pending)
  have received := recvResponse_delivers response (Nat.lt_succ_of_lt short) delivers stash
  refine ⟨⟨⟨after, stash ++ notes⟩⟩, message, more, call_received sent received, ?_, reaches⟩
  rw [← same, view]
  rfl

theorem calls_length (s : ManagementSession σ) (calls : List Call) :
    (s.calls framed calls).2.length = calls.length := by
  induction calls generalizing s with
  | nil => rfl
  | cons c later ih => simp [ManagementSession.calls, ih]

/-- The calls read the messages heard one by one, up to a prompt at least. -/
theorem served_calls (lawful : Lawful engine framed) {s : ManagementSession σ} {calls : List Call}
    (served : Served (framed.view s.events.inner) front prompt (calls.map Call.kind)) :
    List.zipWith Call.read calls (said (framed.view s.events.inner) (front ++ prompt.toList)) <+:
      (s.calls framed calls).2 := by
  induction calls generalizing s front with
  | nil => exact List.nil_prefix
  | cons c later ih =>
    obtain ⟨after, message, more, called, same, reaches⟩ := served_call lawful served
    rw [same, List.zipWith_cons_cons, ManagementSession.calls, called, List.cons_prefix_cons]
    refine ⟨rfl, ?_⟩
    rcases reaches with ⟨-, rfl⟩ | ⟨next, rfl, still, -⟩
    · simp [said, transcript, feed]
    · exact ih still

end Waiting

/-! What stands in the way of an answer -/

/- A line that is no part of an answer and yet becomes a message other than a notification, given
   that no `>INFO:` line came before it. -/
def disturbs (line : Text) : Bool :=
  line = pwPrompt ||
  match (stripPrefix line ['>']).bind (splitOnce (· == ':')) with
  | some (kind, payload) =>
    kind = lit "INFO" ||
      (kind = lit "PKCS11ID-ENTRY" && (parsePkcs11idEntryNotif payload).isSome)
  | none => false

def IsReply (line : Text) : Prop := ¬ IsNotice line ∧ line ≠ pwPrompt

instance (line : Text) : Decidable (IsReply line) := inferInstanceAs (Decidable (_ ∧ _))

/- Behind a line that disturbs there is no line of an answer. -/
def Undisturbed (script : List Text) : Prop :=
  script.Pairwise fun earlier later =>
    disturbs (trimLineEnd earlier) = true → ¬ IsReply (trimLineEnd later)

instance (script : List Text) : Decidable (Undisturbed script) :=
  inferInstanceAs (Decidable (List.Pairwise _ _))

theorem undisturbed_cons (raw : Text) (more : List Text) :
    Undisturbed (raw :: more) ↔
      (disturbs (trimLineEnd raw) = true → ∀ later ∈ more, ¬ IsReply (trimLineEnd later)) ∧
        Undisturbed more := by
  rw [Undisturbed, List.pairwise_cons, ← Undisturbed]
  exact and_congr_left' ⟨fun all yes later member => all later member yes,
    fun all later member yes => all yes later member⟩

def AnswersFirst (messages : List OvpnMessage) : Prop :=
  messages.Pairwise fun earlier later => isResponse earlier = false → isResponse later = false

theorem answersFirst_cons (message : OvpnMessage) (more : List OvpnMessage) :
    AnswersFirst (message :: more) ↔
      (isResponse message = false → ∀ later ∈ more, isResponse later = false) ∧
        AnswersFirst more := by
  rw [AnswersFirst, List.pairwise_cons, ← AnswersFirst]
  exact and_congr_left' ⟨fun all yes later member => all later member yes,
    fun all later member yes => all yes later member⟩

theorem undisturbed_of_silent {script : List Text}
    (silent : ∀ raw ∈ script, ¬ IsReply (trimLineEnd raw)) : Undisturbed script :=
  List.pairwise_of_forall_mem_list fun _ _ later member _ => silent later member

theorem answersFirst_of_silent {messages : List OvpnMessage}
    (silent : ∀ message ∈ messages, isResponse message = false) : AnswersFirst messages :=
  List.pairwise_of_forall_mem_list fun _ _ later member _ => silent later member

theorem answersFirst_append {answers more : List OvpnMessage}
    (responses : ∀ message ∈ answers, isResponse message = true) :
    AnswersFirst (answers ++ more) ↔ AnswersFirst more := by
  induction answers with
  | nil => rfl
  | cons message later ih =>
    have first := responses message (by simp)
    have rest := ih fun m member => responses m (by simp [member])
    rw [List.cons_append, answersFirst_cons, rest]
    simp [first]

theorem disturbs_notice {kind : Text} (clean : ':' ∉ kind) (payload : Text) :
    disturbs (noticeLine kind payload) =
      (kind = lit "INFO" ||
        (kind = lit "PKCS11ID-ENTRY" && (parsePkcs11idEntryNotif payload).isSome)) := by
  have inner : stripPrefix (noticeLine kind payload) ['>'] = some (kind ++ ':' :: payload) :=
    stripPrefix_append ['>'] _
  have prompt : noticeLine kind payload ≠ pwPrompt := by simp [noticeLine, pwPrompt, lit_eq]
  simp only [disturbs, prompt, decide_false, Bool.false_or, inner, Option.bind_some,
    splitOnce_colon clean]

theorem disturbs_not_reply {line : Text} (disturbing : disturbs line = true) : ¬ IsReply line := by
  rintro ⟨other, notPrompt⟩
  refine other ?_
  simp only [disturbs, notPrompt, decide_false, Bool.false_or] at disturbing
  split at disturbing
  · rename_i kind payload found
    obtain ⟨inner, stripped, cutting⟩ := Option.bind_eq_some_iff.mp found
    obtain ⟨colon, sep, rfl, -⟩ := splitOnce_eq_some cutting
    obtain rfl : colon = ':' := by simpa using sep
    rw [stripPrefix_eq_some.mp stripped]
    exact ⟨rfl, by simp⟩
  · cases disturbing

theorem take_disturbing {r : Reader} {raw : Text} (disturbing : disturbs (trimLineEnd raw) = true)
    (banner : r.frames.seenInfo = false) :
    ∃ d message, r.take raw = (⟨d, r.block⟩, [message]) ∧ heard message = true ∧
      isResponse message = false := by
  by_cases prompt : trimLineEnd raw = pwPrompt
  · exact ⟨r.frames, .passwordPrompt, take_prompt r prompt, rfl, rfl⟩
  have notice : IsNotice (trimLineEnd raw) :=
    not_not.mp fun other => disturbs_not_reply disturbing ⟨other, prompt⟩
  obtain ⟨kind, payload, clean, line⟩ := isNotice_iff.mp notice
  rw [line, disturbs_notice clean] at disturbing
  simp only [Bool.or_eq_true, Bool.and_eq_true, decide_eq_true_eq,
    Option.isSome_iff_exists] at disturbing
  rcases disturbing with rfl | ⟨rfl, entry, parsed⟩
  · have taken := takeLine_takeNotice r.frames clean payload (Or.inr (by simp [lit_eq]))
    refine ⟨{ r.frames with seenInfo := true }, .info payload, ?_, rfl, rfl⟩
    simp [Reader.take, line, taken, FrameDecoder.takeNotice, banner, frameMessage]
  · have taken := takeLine_takeNotice r.frames clean payload (Or.inr (by simp [lit_eq]))
    obtain ⟨index, id, blob, rfl⟩ := pkcs11_entry parsed
    have frame : r.frames.takeNotice (lit "PKCS11ID-ENTRY") payload =
        (r.frames, some (.ok (.notification (lit "PKCS11ID-ENTRY") payload))) := by
      simp [FrameDecoder.takeNotice, lit_eq]
    have message : parseNotificationFromFrame (lit "PKCS11ID-ENTRY") payload =
        .pkcs11IdEntry index id blob := by
      simp [parseNotificationFromFrame, parsed, lit_eq]
    refine ⟨r.frames, .pkcs11IdEntry index id blob, ?_, rfl, rfl⟩
    rw [Reader.take, line, taken, frame]
    simp only [frameMessage, message, Option.toList_some]

theorem takeEnv_quiet (d : FrameDecoder) (accum : ClientEnvAccumulator) (rest : Text) :
    (d.takeEnv accum rest).1.seenInfo = d.seenInfo ∧
      ∀ frame, (d.takeEnv accum rest).2 = some (.ok frame) →
        ∃ n, frameMessage frame = some (.notification n) := by
  unfold FrameDecoder.takeEnv
  split
  · refine ⟨rfl, ?_⟩
    rintro frame ⟨⟩
    exact ⟨_, rfl⟩
  · simp only
    split <;> exact ⟨rfl, by simp⟩

theorem takeNotice_quiet (d : FrameDecoder) {kind payload : Text} (clean : ':' ∉ kind)
    (quiet : disturbs (noticeLine kind payload) = false) :
    (d.takeNotice kind payload).1.seenInfo = d.seenInfo ∧
      ∀ frame, (d.takeNotice kind payload).2 = some (.ok frame) →
        ∃ n, frameMessage frame = some (.notification n) := by
  simp only [disturbs_notice clean, Bool.or_eq_false_iff, decide_eq_false_iff_not,
    Bool.and_eq_false_iff, Option.isSome_eq_false_iff, Option.isNone_iff_eq_none] at quiet
  obtain ⟨notInfo, entry⟩ := quiet
  have typed : ∃ n, parseNotificationFromFrame kind payload = .notification n := by
    rw [parseNotificationFromFrame, if_neg notInfo]
    repeat' split
    · exact ⟨_, rfl⟩
    · rename_i same
      rw [entry.resolve_left (not_not_intro same)]
      exact ⟨_, rfl⟩
    · exact ⟨_, rfl⟩
  obtain ⟨n, known⟩ := typed
  rw [FrameDecoder.takeNotice, if_neg notInfo]
  split
  · rename_i client
    subst client
    simp only
    split
    · refine ⟨rfl, ?_⟩
      rintro frame ⟨⟩
      exact ⟨n, congrArg some known⟩
    · exact ⟨rfl, by simp⟩
  · refine ⟨rfl, ?_⟩
    rintro frame ⟨⟩
    exact ⟨n, congrArg some known⟩

theorem take_quiet {r : Reader} {raw : Text} (notice : IsNotice (trimLineEnd raw))
    (quiet : disturbs (trimLineEnd raw) = false) :
    (r.take raw).1.frames.seenInfo = r.frames.seenInfo ∧ (r.take raw).2.filter heard = [] := by
  have line : (r.frames.takeLine (trimLineEnd raw)).1.seenInfo = r.frames.seenInfo ∧
      ∀ frame, (r.frames.takeLine (trimLineEnd raw)).2 = some (.ok frame) →
        ∃ n, frameMessage frame = some (.notification n) := by
    obtain ⟨kind, payload, clean, shape⟩ := isNotice_iff.mp notice
    rw [shape] at quiet ⊢
    have nonempty : noticeLine kind payload ≠ [] := by simp [noticeLine]
    rw [FrameDecoder.takeLine, if_neg (by simp [nonempty])]
    split
    · exact takeEnv_quiet _ _ _
    · rw [classify_notice _ clean]
      exact takeNotice_quiet _ clean quiet
  generalize taken : r.frames.takeLine (trimLineEnd raw) = outcome at line
  obtain ⟨d, _ | e | frame⟩ := outcome
  · simp only [Reader.take, taken]
    exact ⟨line.1, rfl⟩
  · simp only [Reader.take, taken]
    exact ⟨line.1, rfl⟩
  · obtain ⟨n, known⟩ := line.2 frame rfl
    cases frame with
    | endMarker | line _ => cases known
    | _ =>
      simp only [Reader.take, taken, known]
      exact ⟨line.1, rfl⟩

/- A script without its prompts. -/
def unasked (script : List Text) : List Text :=
  script.filter fun raw => trimLineEnd raw ≠ pwPrompt

theorem unasked_cons (raw : Text) (more : List Text) :
    unasked (raw :: more) =
      if trimLineEnd raw = pwPrompt then unasked more else raw :: unasked more := by
  by_cases prompt : trimLineEnd raw = pwPrompt <;> simp [unasked, prompt]

theorem unasked_append (front more : List Text) :
    unasked (front ++ more) = unasked front ++ unasked more :=
  List.filter_append _ _

theorem unasked_eq {script : List Text} (plain : ∀ raw ∈ script, trimLineEnd raw ≠ pwPrompt) :
    unasked script = script :=
  List.filter_eq_self.mpr (by simpa using plain)

theorem responses_unasked (r : Reader) (script : List Text) :
    (transcript r script).filter isResponse =
      (transcript r (unasked script)).filter isResponse := by
  induction script generalizing r with
  | nil => rfl
  | cons raw more ih =>
    rw [transcript_cons, unasked_cons, List.filter_append, ih]
    split
    · rename_i prompt
      rw [take_prompt r prompt]
      rfl
    · rw [transcript_cons, List.filter_append]

theorem silent_iff {limit : AccumulationLimit} {kinds : List ResponseKind} {script : List Text}
    {r : Reader} (follows : Follows limit r.block kinds (replies (unasked script)) none [])
    (calm : Calm r.frames (unasked script)) :
    (∀ raw ∈ script, ¬ IsReply (trimLineEnd raw)) ↔
      ∀ message ∈ (transcript r script).filter heard, isResponse message = false := by
  have silent : (∀ raw ∈ script, ¬ IsReply (trimLineEnd raw)) ↔ replies (unasked script) = [] := by
    simp only [replies, unasked, IsReply, List.filter_eq_nil_iff, List.mem_map, List.mem_filter,
      forall_exists_index, and_imp, decide_eq_true_eq]
    grind
  have responses : (∀ message ∈ (transcript r script).filter heard, isResponse message = false) ↔
      (transcript r script).filter isResponse = [] := by
    rw [List.filter_eq_nil_iff]
    constructor
    · intro silent message member response
      have quiet := silent message (List.mem_filter.mpr ⟨member, response_heard response⟩)
      rw [response] at quiet
      cases quiet
    · intro nothing message member
      simpa using nothing message (List.mem_filter.mp member).1
  rw [silent, responses, responses_unasked, (transcript_responses follows calm).1]
  constructor
  · intro nothing
    rw [nothing]
    rfl
  · intro nothing
    have counted := follows_counts follows
    rw [nothing] at counted
    obtain rfl : kinds = [] := List.length_eq_zero_iff.mp counted.symm
    exact follows_no_kinds follows

/-- A script is undisturbed when, among the messages heard, no response stands behind anything
    but responses. -/
theorem undisturbed_iff {limit : AccumulationLimit} {kinds : List ResponseKind} {script : List Text}
    {r : Reader} (follows : Follows limit r.block kinds (replies (unasked script)) none [])
    (calm : Calm r.frames (unasked script)) (banner : r.frames.seenInfo = false) :
    Undisturbed script ↔ AnswersFirst ((transcript r script).filter heard) := by
  induction script generalizing r kinds with
  | nil => exact iff_of_true .nil .nil
  | cons raw more ih =>
    rw [undisturbed_cons, transcript_cons, List.filter_append]
    rw [unasked_cons] at follows calm
    cases disturbing : disturbs (trimLineEnd raw) with
    | true =>
      obtain ⟨d, message, found, response, other⟩ := take_disturbing disturbing banner
      have rest : Follows limit r.block kinds (replies (unasked more)) none [] ∧
          Calm d (unasked more) := by
        split at follows
        · rename_i prompt
          rw [take_prompt r prompt] at found
          obtain rfl : r.frames = d := congrArg (·.1.frames) found
          rw [if_pos prompt] at calm
          exact ⟨follows, calm⟩
        · rename_i notPrompt
          rw [if_neg notPrompt] at calm
          have notice : IsNotice (trimLineEnd raw) :=
            not_not.mp fun other => disturbs_not_reply disturbing ⟨other, notPrompt⟩
          rw [replies_cons, if_pos notice] at follows
          obtain ⟨_, _, taken, still, -⟩ := take_notice notice calm
          rw [found] at taken
          obtain rfl := congrArg (·.1.frames) taken
          exact ⟨follows, still⟩
      -- Both sides say that no answer is left.
      have silent := silent_iff (r := ⟨d, r.block⟩) rest.1 rest.2
      rw [found, List.filter_cons_of_pos response, List.filter_nil, List.singleton_append,
        answersFirst_cons, ← silent]
      constructor
      · rintro ⟨quiet, -⟩
        have only := quiet rfl
        exact ⟨fun _ => only, answersFirst_of_silent (silent.mp only)⟩
      · rintro ⟨quiet, -⟩
        have only := quiet other
        exact ⟨fun _ => only, undisturbed_of_silent only⟩
    | false =>
      have notPrompt : trimLineEnd raw ≠ pwPrompt := by
        intro prompt
        simp [disturbs, prompt] at disturbing
      rw [if_neg notPrompt] at follows calm
      by_cases notice : IsNotice (trimLineEnd raw)
      · rw [replies_cons, if_pos notice] at follows
        obtain ⟨d, messages, taken, still, -⟩ := take_notice notice calm
        have quiet := take_quiet (r := r) notice disturbing
        rw [taken] at quiet ⊢
        rw [quiet.2, List.nil_append]
        have tail := ih (r := ⟨d, r.block⟩) follows still (quiet.1.trans banner)
        simpa using tail
      · obtain ⟨block, messages, later, taken, rest, still, answers, -⟩ :=
          take_reply notice follows calm
        have tail := ih (r := ⟨r.frames, block⟩) rest still banner
        have all : messages.filter heard = messages :=
          List.filter_eq_self.mpr fun message member => response_heard (answers message member)
        rw [taken, all, answersFirst_append answers, ← tail]
        simp

theorem answersFirst_iff (messages : List OvpnMessage) :
    AnswersFirst messages ↔ messages.filter isResponse <+: messages := by
  induction messages with
  | nil => exact iff_of_true .nil List.nil_prefix
  | cons message more ih =>
    rw [answersFirst_cons]
    cases response : isResponse message with
    | true =>
      rw [List.filter_cons_of_pos response, List.cons_prefix_cons, ih]
      simp
    | false =>
      rw [List.filter_cons_of_neg (by simp [response])]
      have nothing : (∀ later ∈ more, isResponse later = false) ↔ more.filter isResponse = [] := by
        simp [List.filter_eq_nil_iff]
      rw [nothing]
      constructor
      · rintro ⟨silent, -⟩
        rw [silent rfl]
        exact List.nil_prefix
      · intro front
        have silent : more.filter isResponse = [] := by
          cases found : more.filter isResponse with
          | nil => rfl
          | cons first _ =>
            rw [found, List.cons_prefix_cons] at front
            have member : first ∈ more.filter isResponse := by simp [found]
            rw [front.1, List.mem_filter, response] at member
            cases member.2
        exact ⟨fun _ => silent, answersFirst_of_silent (nothing.mpr silent)⟩

/-! Whole sessions -/

/-- The reads carry the lines of the script and then any bytes, cut anywhere. The line end of a
    prompt may be missing where a read ends behind the prompt. -/
inductive Arrives : List Text → List Bytes → Prop where
  | lines {script : List Text} {incoming : List Bytes} (front : wire script <+: incoming.flatten) :
    Arrives script incoming
  | bare {front more : List Text} {reads later : List Bytes}
    (here : reads.flatten = wire front ++ toUtf8 pwPrompt) (rest : Arrives more later) :
    Arrives (front ++ pwPrompt :: more) (reads ++ later)

/-- A server's side of a session up to its last answer at least: one fitting answer for each call in
    order, notices and prompts anywhere, the bytes cut anywhere. Behind the script any bytes may
    follow. -/
structure Serves (limit : AccumulationLimit) (calls : List Call) (answers : List Answer)
    (script : List Text) (incoming : List Bytes) : Prop where
  answered : List.Forall₂ (Answers limit) (calls.map Call.kind) answers
  clean : ∀ raw ∈ script, '\n' ∉ raw
  spoken : replies (unasked script) = answers.flatMap Answer.lines
  stream : Arrives script incoming
  reads : ∀ chunk ∈ incoming, chunk ≠ []

theorem trimLineEnd_pwPrompt : trimLineEnd pwPrompt = pwPrompt := by
  simpa [trimLineEnd] using trimLineEnd_prompt []

theorem arrives_plain {script : List Text} {incoming : List Bytes}
    (arrives : Arrives script incoming) (plain : ∀ raw ∈ script, trimLineEnd raw ≠ pwPrompt) :
    wire script <+: incoming.flatten := by
  cases arrives with
  | lines front => exact front
  | bare here rest => exact absurd trimLineEnd_pwPrompt (plain pwPrompt (by simp))

theorem wire_append (front more : List Text) : wire (front ++ more) = wire front ++ wire more :=
  List.flatMap_append

theorem arrives_prompt {front tail : List Text} {raw : Text} {incoming : List Bytes}
    (arrives : Arrives (front ++ raw :: tail) incoming)
    (plain : ∀ earlier ∈ front, trimLineEnd earlier ≠ pwPrompt) :
    Carries front (some raw) [] incoming := by
  generalize shape : front ++ raw :: tail = script at arrives
  cases arrives with
  | lines whole =>
    subst shape
    have split : front ++ raw :: tail = (front ++ [raw]) ++ tail := by simp
    rw [split, wire_append] at whole
    exact Or.inl ((List.prefix_append _ _).trans whole)
  | @bare start more reads later here rest =>
    rcases List.append_eq_append_iff.mp shape with ⟨between, rfl, behind⟩ | ⟨between, rfl, behind⟩
    · cases between with
      | nil =>
        obtain ⟨rfl, -⟩ := List.cons_eq_cons.mp behind
        exact Or.inr ⟨rfl, reads, later, rfl, by simpa using here⟩
      | cons first others =>
        -- This prompt has its line end: a later one is the bare one.
        obtain ⟨rfl, -⟩ := List.cons_eq_cons.mp behind
        have split : front ++ raw :: others = (front ++ [raw]) ++ others := by simp
        rw [split, wire_append] at here
        refine Or.inl ⟨wire others ++ toUtf8 pwPrompt ++ later.flatten, ?_⟩
        rw [List.flatten_append, here]
        simp
    · cases between with
      | nil =>
        obtain ⟨rfl, -⟩ := List.cons_eq_cons.mp behind
        exact Or.inr ⟨rfl, reads, later, rfl, by simpa using here⟩
      | cons first others =>
        obtain ⟨rfl, -⟩ := List.cons_eq_cons.mp behind
        exact absurd trimLineEnd_pwPrompt (plain pwPrompt (by simp))

theorem first_prompt (script : List Text) :
    (∀ raw ∈ script, trimLineEnd raw ≠ pwPrompt) ∨
      ∃ front raw tail, script = front ++ raw :: tail ∧ trimLineEnd raw = pwPrompt ∧
        ∀ earlier ∈ front, trimLineEnd earlier ≠ pwPrompt := by
  by_cases member : pwPrompt ∈ script.map trimLineEnd
  · obtain ⟨before, behind, shape, first⟩ := List.eq_append_cons_of_mem member
    obtain ⟨front, later, rfl, rfl, same⟩ := List.map_eq_append_iff.mp shape
    obtain ⟨raw, tail, rfl, asks, -⟩ := List.map_eq_cons_iff.mp same
    exact Or.inr ⟨front, raw, tail, rfl, asks, fun earlier inside same =>
      first (same ▸ List.mem_map_of_mem inside)⟩
  · exact Or.inl fun raw inside same => member (same ▸ List.mem_map_of_mem inside)

theorem follows_front {limit : AccumulationLimit} {block blockLeft : Option (List Text)}
    {kinds kindsLeft : List ResponseKind} {lines more : List Text}
    (follows : Follows limit block kinds (lines ++ more) blockLeft kindsLeft) :
    ∃ blockThere kindsThere, Follows limit block kinds lines blockThere kindsThere := by
  induction lines generalizing block kinds with
  | nil => exact ⟨block, kinds, .done block kinds⟩
  | cons line later ih =>
    cases follows with
    | single answer rest =>
      obtain ⟨_, _, front⟩ := ih rest
      exact ⟨_, _, .single answer front⟩
    | blockEnd rest =>
      obtain ⟨_, _, front⟩ := ih rest
      exact ⟨_, _, .blockEnd front⟩
    | body plain room rest =>
      obtain ⟨_, _, front⟩ := ih rest
      exact ⟨_, _, .body plain room front⟩

theorem read_answers {limit : AccumulationLimit} {calls : List Call} {answers : List Answer}
    (answered : List.Forall₂ (Answers limit) (calls.map Call.kind) answers)
    (rest : List OvpnMessage) :
    List.zipWith Call.read calls (answers.map Answer.message ++ rest) =
      List.zipWith Call.owed calls answers := by
  induction calls generalizing answers with
  | nil => rfl
  | cons c later ih =>
    cases answered with
    | cons fits others =>
      rw [List.map_cons, List.cons_append, List.zipWith_cons_cons, List.zipWith_cons_cons,
        read_answer fits, ih others]

theorem owed_responses {calls : List Call} {answers : List Answer} {messages : List OvpnMessage}
    (same : List.zipWith Call.read calls messages <+: List.zipWith Call.owed calls answers) :
    ∀ message ∈ messages.take calls.length, isResponse message = true := by
  induction calls generalizing answers messages with
  | nil => simp
  | cons c later ih =>
    cases messages with
    | nil => simp
    | cons message more =>
      cases answers with
      | nil => simp at same
      | cons answer answers =>
        rw [List.zipWith_cons_cons, List.zipWith_cons_cons, List.cons_prefix_cons] at same
        intro m member
        rw [List.length_cons, List.take_succ_cons, List.mem_cons] at member
        rcases member with rfl | inside
        · exact read_owed same.1
        · exact ih same.2 m inside

section Sessions
variable {σ : Type} {engine : Bytes → Text} {framed : Framed σ} {limit : AccumulationLimit}
  {calls : List Call} {answers : List Answer} {script : List Text} {incoming : List Bytes}
  {s : ManagementSession σ}

def heardOf (script : List Text) : List OvpnMessage :=
  (transcript ⟨FrameDecoder.new, none⟩ script).filter heard

theorem serves_follows (serves : Serves limit calls answers script incoming) :
    Follows limit none (calls.map Call.kind) (replies (unasked script)) none [] := by
  rw [serves.spoken]
  exact follows_answers serves.answered

theorem serves_count (serves : Serves limit calls answers script incoming) :
    calls.length = answers.length := by
  rw [← List.length_map Call.kind, serves.answered.length_eq]

theorem heardOf_responses (serves : Serves limit calls answers script incoming) :
    (heardOf script).filter isResponse = answers.map Answer.message := by
  have follows := serves_follows serves
  obtain ⟨spelt, -⟩ := transcript_responses (r := ⟨FrameDecoder.new, none⟩) follows
    (calm_of_unlimited rfl _)
  rw [← answerMessages_answers serves.answered, ← serves.spoken, ← spelt, ← responses_unasked,
    heardOf, List.filter_filter]
  apply List.filter_congr
  intro message _
  cases response : isResponse message with
  | true => simp [response_heard response]
  | false => rfl

theorem undisturbed_heard (serves : Serves limit calls answers script incoming) :
    Undisturbed script ↔ answers.map Answer.message <+: heardOf script := by
  rw [undisturbed_iff (r := ⟨FrameDecoder.new, none⟩) (serves_follows serves)
    (calm_of_unlimited rfl _) rfl, answersFirst_iff, ← heardOf, heardOf_responses serves]

/-- The calls read what is heard up to the first prompt. -/
theorem calls_hear (lawful : Lawful engine framed)
    (start : framed.view s.events.inner = ⟨(fresh limit).codec, [], incoming⟩)
    (serves : Serves limit calls answers script incoming) :
    ∃ messages rest, List.zipWith Call.read calls messages <+: (s.calls framed calls).2 ∧
      heardOf script = messages ++ rest ∧
      (rest = [] ∨ ∃ earlier, messages = earlier ++ [.passwordPrompt]) := by
  have follows := serves_follows serves
  rcases first_prompt script with plain | ⟨front, raw, tail, rfl, asks, plain⟩
  · rw [unasked_eq plain] at follows
    have served : Served (framed.view s.events.inner) script none (calls.map Call.kind) := by
      rw [start]
      exact ⟨by simpa using serves.clean, Or.inl (by simpa using arrives_plain serves.stream plain),
        serves.reads, ⟨_, _, follows, fun _ => rfl⟩, by simp, calm_of_unlimited rfl _, rfl⟩
    have read := served_calls lawful served
    rw [start, Option.toList_none, List.append_nil] at read
    exact ⟨heardOf script, [], read, by simp, Or.inl rfl⟩
  · have unanswered : unasked (raw :: tail) = unasked tail := by rw [unasked_cons, if_pos asks]
    rw [unasked_append, unasked_eq plain, unanswered, replies, List.map_append,
      List.filter_append] at follows
    obtain ⟨_, _, followed⟩ := follows_front follows
    have served : Served (framed.view s.events.inner) front (some raw) (calls.map Call.kind) := by
      rw [start]
      refine ⟨fun line member => serves.clean line ?_, arrives_prompt serves.stream plain,
        serves.reads, ⟨_, _, followed, by simp⟩, by simpa using asks, calm_of_unlimited rfl _, rfl⟩
      rw [Option.toList_some, List.mem_append, List.mem_singleton] at member
      rw [List.mem_append, List.mem_cons]
      exact member.imp_right Or.inl
    have read := served_calls lawful served
    rw [start, Option.toList_some] at read
    have heardFront : heardOf (front ++ [raw]) = heardOf front ++ [.passwordPrompt] := by
      rw [heardOf, transcript_append, transcript_prompt _ asks, List.filter_append]
      rfl
    refine ⟨heardOf (front ++ [raw]),
      (transcript (feed Reader.take ⟨FrameDecoder.new, none⟩ (front ++ [raw])).1 tail).filter heard,
      read, ?_, Or.inr ⟨_, heardFront⟩⟩
    have split : front ++ raw :: tail = (front ++ [raw]) ++ tail := by simp
    rw [split, heardOf, transcript_append, List.filter_append]
    rfl

theorem answer_not_prompt (answers : List Answer) :
    OvpnMessage.passwordPrompt ∉ answers.map Answer.message := by
  intro member
  obtain ⟨answer, -, same⟩ := List.mem_map.mp member
  cases answer <;> cases same

theorem calls_undisturbed (lawful : Lawful engine framed)
    (start : framed.view s.events.inner = ⟨(fresh limit).codec, [], incoming⟩)
    (serves : Serves limit calls answers script incoming) (undisturbed : Undisturbed script) :
    (s.calls framed calls).2 = List.zipWith Call.owed calls answers := by
  obtain ⟨messages, rest, read, split, ends⟩ := calls_hear lawful start serves
  have front := (undisturbed_heard serves).mp undisturbed
  have count := serves_count serves
  obtain ⟨others, rfl⟩ : answers.map Answer.message <+: messages := by
    rw [split] at front
    rcases ends with rfl | ⟨earlier, rfl⟩
    · simpa using front
    · rcases List.prefix_or_prefix_of_prefix front (List.prefix_append _ _) with inside | beyond
      · exact inside
      · exact absurd (beyond.subset (by simp)) (answer_not_prompt answers)
  rw [read_answers serves.answered] at read
  refine (read.eq_of_length ?_).symm
  rw [calls_length, List.length_zipWith, count, Nat.min_self]

end Sessions

/-- Every call gets the answer to its own command, as content or as the server's error, exactly
    when no line of an answer stands behind a prompt, an `>INFO:` line or a well-formed
    `>PKCS11ID-ENTRY:`. Otherwise some call is given such a line or an answer not its own. -/
theorem calls_get_own_answers_iff {σ : Type} {engine : Bytes → Text} {framed : Framed σ}
    (lawful : Lawful engine framed) {limit : AccumulationLimit} {calls : List Call}
    {answers : List Answer} {script : List Text} {incoming : List Bytes} {s : ManagementSession σ}
    (start : framed.view s.events.inner = ⟨(fresh limit).codec, [], incoming⟩)
    (serves : Serves limit calls answers script incoming) :
    (s.calls framed calls).2 = List.zipWith Call.owed calls answers ↔ Undisturbed script := by
  refine ⟨fun own => ?_, calls_undisturbed lawful start serves⟩
  obtain ⟨messages, rest, read, split, ends⟩ := calls_hear lawful start serves
  have responses := heardOf_responses serves
  have count := serves_count serves
  rw [own] at read
  have first := owed_responses read
  have longer : calls.length ≤ messages.length := by
    rcases ends with rfl | ⟨earlier, rfl⟩
    · have fewer := List.length_filter_le isResponse (heardOf script)
      rwa [responses, List.length_map, ← count, split, List.append_nil] at fewer
    · -- A call that reached the prompt would have got it.
      by_contra short
      rw [List.take_of_length_le (by omega)] at first
      cases first .passwordPrompt (by simp)
  rw [undisturbed_heard serves]
  -- The first messages are all responses, and there are no more responses than calls.
  have front : messages.take calls.length <+: answers.map Answer.message := by
    rw [← responses, split, ← List.filter_eq_self.mpr first]
    exact ((List.take_prefix _ _).trans (List.prefix_append _ _)).filter isResponse
  have same := front.eq_of_length (by
    rw [List.length_take, List.length_map, ← count, Nat.min_eq_left longer])
  rw [← same, split]
  exact (List.take_prefix _ _).trans (List.prefix_append _ _)

/-- Whichever call reads a prompt at the start of a line returns it as unexpected. -/
theorem prompt_is_unexpected {σ : Type} {engine : Bytes → Text} {framed : Framed σ}
    (lawful : Lawful engine framed) {s : ManagementSession σ} {codec : OvpnCodec}
    {more : List Bytes} (mode : codec.encoderMode = .sanitize)
    (start : framed.view s.events.inner = ⟨codec, [], toUtf8 pwPrompt :: more⟩) (c : Call) :
    ∃ after, s.call framed c = (after, .error (.unexpectedResponse .passwordPrompt)) := by
  obtain ⟨⟨inner, stash⟩⟩ := s
  simp only at start
  have accepted : Accepted codec.encoderMode c.cmd := Or.inl mode
  obtain ⟨w, -, -, encoded⟩ := encode_accepted engine accepted []
  obtain ⟨mid, sent, view⟩ := lawful.sends inner c.cmd _ _ (by rw [start]; exact encoded)
  simp only [start] at view
  have prompt : toUtf8 pwPrompt ≠ [] := List.ne_nil_of_length_pos (by simp [pwPrompt_length])
  -- The empty buffer asks for the read, and the read is the prompt.
  have empty := decoded_open (framed.view mid).codec (show newline ∉ [] by simp)
    (by simpa using prompt)
  rcases first : (framed.view mid).codec.decode [] with ⟨codec₁, rest₁, out₁⟩
  simp only [decoded, first, Prod.mk.injEq] at empty
  obtain ⟨-, rfl, rfl⟩ := empty
  obtain ⟨read, same, viewRead⟩ := lawful.reads mid codec₁ [] (toUtf8 pwPrompt) more
    (by rw [view] at first ⊢; exact first) (by rw [view]) prompt
  have found := decoded_prompt codec₁ (show newline ∉ toUtf8 pwPrompt ++ [] by
    simpa using newline_not_mem_prompt)
  rcases second : codec₁.decode (toUtf8 pwPrompt) with ⟨codec₂, rest₂, out₂⟩
  simp only [List.append_nil, decoded, second, Prod.mk.injEq] at found
  obtain ⟨-, rfl, rfl⟩ := found
  obtain ⟨after, given, -⟩ := lawful.decodes read codec₂ _ _ (by rw [viewRead]; exact second)
  have delivers : Delivers framed.next mid
      ([].map (.ok ∘ .notification) ++ [.ok .passwordPrompt]) after :=
    .step (same.trans given) (.done after)
  have received := recvResponse_delivers rfl (Nat.succ_pos (framed.view mid).left) delivers stash
  have read : c.read .passwordPrompt = .error (.unexpectedResponse .passwordPrompt) := by
    rw [Call.read]
    cases c.helper <;> rfl
  exact ⟨⟨⟨after, stash ++ []⟩⟩, by rw [call_received sent received, read]⟩

/- A prompt between the answers, without its line end. -/
example :
    (ManagementSession.calls (scripted fun _ => [])
      ⟨⟨(fresh (.max 10000)).codec, [], [wire [lit "Management Version: 5", lit "END"],
        toUtf8 pwPrompt, wire [lit "SUCCESS: pid=42"]]⟩, []⟩
      [⟨.version, .expectMultiLine, rfl⟩, ⟨.pid, .expectSuccess, rfl⟩]).2 =
    [.ok (.lines [lit "Management Version: 5"]), .error (.unexpectedResponse .passwordPrompt)] := by
  decide +kernel

def versionThenPid (script : List Text) : Prop :=
  Serves (.max 10000) [⟨.version, .expectMultiLine, rfl⟩, ⟨.pid, .expectSuccess, rfl⟩]
    [.block [lit "Management Version: 5"], .success (lit "pid=42")] script [wire script]

theorem serves_versionThenPid (script : List Text) (clean : ∀ raw ∈ script, '\n' ∉ raw)
    (spoken : replies (unasked script) =
      [lit "Management Version: 5", endMarker, lit "SUCCESS: pid=42"])
    (nonempty : wire script ≠ []) : versionThenPid script := by
  refine ⟨.cons ⟨by decide +kernel, ?_⟩ (.cons trivial .nil), clean, spoken.trans (by decide +kernel),
    .lines (by simp), by simpa using nonempty⟩
  rintro most ⟨⟩
  decide

def versionThenPidResults (script : List Text) : List Result :=
  (ManagementSession.calls (scripted fun _ => [])
    ⟨⟨(fresh (.max 10000)).codec, [], [wire script]⟩, []⟩
    [⟨.version, .expectMultiLine, rfl⟩, ⟨.pid, .expectSuccess, rfl⟩]).2

def bannerLast : List Text :=
  [lit "Management Version: 5", lit ">HOLD:Waiting", lit "END", lit "SUCCESS: pid=42",
    lit ">INFO:late"]

theorem bannerLast_answers : versionThenPidResults bannerLast =
    [.ok (.lines [lit "Management Version: 5"]), .ok (.payload (lit "pid=42"))] :=
  (calls_get_own_answers_iff (scripted_lawful fun _ => []) rfl
    (serves_versionThenPid bannerLast (by decide +kernel) (by decide +kernel)
      (by decide +kernel))).mpr (by decide +kernel)

def bannerFirst : List Text :=
  [lit ">INFO:OpenVPN Management Interface Version 5", lit "Management Version: 5", lit "END",
    lit "SUCCESS: pid=42"]

/-- `version` is given the banner and `pid` the answer to `version`. -/
theorem bannerFirst_shifts_answers :
    versionThenPid bannerFirst ∧
      versionThenPidResults bannerFirst =
        [.error (.unexpectedResponse (.info (lit "OpenVPN Management Interface Version 5"))),
          .error (.unexpectedResponse (.multiLine [lit "Management Version: 5"]))] :=
  ⟨serves_versionThenPid bannerFirst (by decide +kernel) (by decide +kernel) (by decide +kernel),
    by decide +kernel⟩

end MgmtSession
