import OpenvpnMgmt.Draining

/-!
The read half of a split connection. The framed transport below it is a parameter: its laws say
in which order it decodes, reads and encodes. `recvResponse` is the loop that looks for a
response and stashes the notifications in front of it.
-/
namespace MgmtEventStream
open TextOps Utf8Text MgmtEncoder MgmtCommand MgmtMessage MgmtFrame MgmtCodec MgmtDraining

/-- What a transport stands for: its codec, the bytes read and not yet decoded, and the reads that
    are still to come. -/
structure Connection where
  codec : OvpnCodec
  buffer : Bytes
  incoming : List Bytes

def Connection.left (c : Connection) : Nat := c.buffer.length + c.incoming.flatten.length

structure Framed (σ : Type) where
  view : σ → Connection
  next : σ → σ × Option Event
  send : σ → OvpnCommand → σ × Except EncodeError Unit

/-- What `tokio_util` promises of a framed stream and sink, as far as responses need it: what is
    in the buffer is decoded before more is read, and a command that is sent has passed the
    encoder. Errors and the end of the stream (an empty read) are left open. -/
structure Lawful {σ : Type} (engine : Bytes → Text) (framed : Framed σ) : Prop where
  decodes : ∀ s codec rest message,
    (framed.view s).codec.decode (framed.view s).buffer = (codec, rest, .ok (some message)) →
    ∃ after, framed.next s = (after, some (.ok message)) ∧
      framed.view after = ⟨codec, rest, (framed.view s).incoming⟩
  reads : ∀ s codec rest chunk more,
    (framed.view s).codec.decode (framed.view s).buffer = (codec, rest, .ok none) →
    (framed.view s).incoming = chunk :: more → chunk ≠ [] →
    ∃ later, framed.next s = framed.next later ∧ framed.view later = ⟨codec, rest ++ chunk, more⟩
  sends : ∀ s cmd codec out,
    (framed.view s).codec.encode engine cmd [] = (codec, out, .ok ()) →
    ∃ after, framed.send s cmd = (after, .ok ()) ∧
      framed.view after = { framed.view s with codec := codec }

/-! A transport whose reads are known beforehand -/

def Connection.decodeReads : List Bytes → OvpnCodec → Bytes → Connection × Option Event
  | incoming, codec, buffer =>
    match codec.decode buffer with
    | (codec, rest, .ok (some message)) => (⟨codec, rest, incoming⟩, some (.ok message))
    | (codec, rest, .error e) => (⟨codec, rest, incoming⟩, some (.error e))
    | (codec, rest, .ok none) =>
      match incoming with
      | [] => (⟨codec, rest, []⟩, none)
      | chunk :: more => decodeReads more codec (rest ++ chunk)

def scripted (engine : Bytes → Text) : Framed Connection where
  view := id
  next c := Connection.decodeReads c.incoming c.codec c.buffer
  send c cmd :=
    let (codec, _, result) := c.codec.encode engine cmd []
    ({ c with codec := codec }, result)

theorem scripted_lawful (engine : Bytes → Text) : Lawful engine (scripted engine) := by
  refine ⟨?_, ?_, ?_⟩
  · rintro ⟨codec, buffer, incoming⟩ after rest message decoding
    refine ⟨⟨after, rest, incoming⟩, ?_, rfl⟩
    simp only [scripted, id_eq] at decoding ⊢
    rw [Connection.decodeReads.eq_def]
    simp only [decoding]
  · rintro ⟨codec, buffer, incoming⟩ after rest chunk more decoding reading -
    refine ⟨⟨after, rest ++ chunk, more⟩, ?_, rfl⟩
    simp only [scripted, id_eq] at decoding reading ⊢
    subst reading
    rw [Connection.decodeReads.eq_def]
    simp only [decoding]
  · rintro ⟨codec, buffer, incoming⟩ cmd after out encoding
    simp only [scripted, id_eq] at encoding ⊢
    exact ⟨⟨after, buffer, incoming⟩, by rw [encoding], rfl⟩

/-! The event stream -/

inductive TransportError where
  | decode (e : IoError)
  | encode (e : EncodeError)
  deriving DecidableEq, Repr

inductive SessionError where
  | io (e : TransportError)
  | connectionClosed
  | serverError (message : Text)
  | unexpectedResponse (message : OvpnMessage)
  deriving DecidableEq

inductive ManagementEvent where
  | response (message : OvpnMessage)
  | notification (n : Notification)
  deriving DecidableEq

def ManagementEvent.ofMessage : OvpnMessage → ManagementEvent
  | .notification n => .notification n
  | other => .response other

def ManagementEvent.message : ManagementEvent → OvpnMessage
  | .response message => message
  | .notification n => .notification n

theorem ofMessage_message (message : OvpnMessage) :
    (ManagementEvent.ofMessage message).message = message := by
  cases message <;> rfl

structure EventStream (σ : Type) where
  inner : σ
  stash : List Notification

section Receiving
variable {σ : Type}

/- Every round but the last stashes a notification. -/
def recvResponseFuel (next : σ → σ × Option Event) :
    Nat → EventStream σ → EventStream σ × Except SessionError OvpnMessage
  | 0, s => (s, .error .connectionClosed)
  | fuel + 1, s =>
    match next s.inner with
    | (inner, none) => (⟨inner, s.stash⟩, .error .connectionClosed)
    | (inner, some (.error e)) => (⟨inner, s.stash⟩, .error (.io (.decode e)))
    | (inner, some (.ok (.notification n))) => recvResponseFuel next fuel ⟨inner, s.stash ++ [n]⟩
    | (inner, some (.ok other)) => (⟨inner, s.stash⟩, .ok other)

/- A notification costs at least a byte, so more rounds than bytes are never run. -/
def EventStream.recvResponse (framed : Framed σ) (s : EventStream σ) :
    EventStream σ × Except SessionError OvpnMessage :=
  recvResponseFuel framed.next ((framed.view s.inner).left + 1) s

def asSuccess : OvpnMessage → Except SessionError Text
  | .success payload => .ok payload
  | .error message => .error (.serverError message)
  | other => .error (.unexpectedResponse other)

def asMultiLine : OvpnMessage → Except SessionError (List Text)
  | .multiLine lines => .ok lines
  | .error message => .error (.serverError message)
  | other => .error (.unexpectedResponse other)

def EventStream.recvSuccess (framed : Framed σ) (s : EventStream σ) :
    EventStream σ × Except SessionError Text :=
  let (s, response) := s.recvResponse framed
  (s, response >>= asSuccess)

def EventStream.recvMultiLine (framed : Framed σ) (s : EventStream σ) :
    EventStream σ × Except SessionError (List Text) :=
  let (s, response) := s.recvResponse framed
  (s, response >>= asMultiLine)

def EventStream.recvOk (framed : Framed σ) (s : EventStream σ) :
    EventStream σ × Except SessionError Unit :=
  let (s, payload) := s.recvSuccess framed
  (s, payload.map fun _ => ())

def EventStream.pollNext (next : σ → σ × Option Event) (s : EventStream σ) :
    EventStream σ × Option (Except IoError ManagementEvent) :=
  match s.stash with
  | n :: rest => (⟨s.inner, rest⟩, some (.ok (.notification n)))
  | [] =>
    let (inner, out) := next s.inner
    (⟨inner, []⟩, out.map fun event => event.map ManagementEvent.ofMessage)

def EventStream.drainNotifications (s : EventStream σ) : EventStream σ × List Notification :=
  (⟨s.inner, []⟩, s.stash)

/-! What the loop finds -/

def heard : OvpnMessage → Bool
  | .notification _ => false
  | _ => true

inductive Delivers (next : σ → σ × Option Event) : σ → List Event → σ → Prop where
  | done (s : σ) : Delivers next s [] s
  | step {s mid after : σ} {e : Event} {later : List Event} (first : next s = (mid, some e))
    (rest : Delivers next mid later after) : Delivers next s (e :: later) after

/-- The loop returns the first message that is no notification and stashes those before it. -/
theorem recvResponse_delivers {next : σ → σ × Option Event} {notes : List Notification}
    {message : OvpnMessage} (response : heard message) {fuel : Nat} (enough : notes.length < fuel)
    {start after : σ}
    (delivers : Delivers next start (notes.map (.ok ∘ .notification) ++ [.ok message]) after)
    (stash : List Notification) :
    recvResponseFuel next fuel ⟨start, stash⟩ = (⟨after, stash ++ notes⟩, .ok message) := by
  induction notes generalizing start fuel stash with
  | nil =>
    obtain ⟨fuel, rfl⟩ : ∃ n, fuel = n + 1 := ⟨fuel - 1, by simp at enough; omega⟩
    cases delivers with
    | step first rest =>
      cases rest
      rw [recvResponseFuel, first, List.append_nil]
      cases message with
      | notification n => cases response
      | _ => rfl
  | cons n later ih =>
    obtain ⟨fuel, rfl⟩ : ∃ m, fuel = m + 1 := ⟨fuel - 1, by simp at enough; omega⟩
    cases delivers with
    | step first rest =>
      have tail := ih (by simpa using enough) rest (stash ++ [n])
      simp only [recvResponseFuel, first, tail, List.append_assoc, List.singleton_append,
        Function.comp_apply]

end Receiving

end MgmtEventStream
