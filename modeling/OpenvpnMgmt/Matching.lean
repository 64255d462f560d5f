import OpenvpnMgmt.ServerStream

/-!
Runs of an endpoint: commands are encoded, bytes arrive and `decode` is called, in any order.
`Synced` ties the queue of expected kinds, the open block and the bytes to the rest of the
server's script; every step keeps it, and what is decoded is the transcript of the script.
-/
namespace MgmtMatching
open TextOps Utf8Text LineFraming MgmtEncoder MgmtCommand MgmtMessage MgmtFrame MgmtNotifications
  MgmtCodec MgmtDraining MgmtServerStream

structure Endpoint where
  codec : OvpnCodec
  buffer : Bytes
  sent : Bytes

inductive Step where
  | encode (cmd : OvpnCommand)
  | receive (chunk : Bytes)
  | poll

section Running
variable (engine : Bytes → Text)

def step (e : Endpoint) : Step → Endpoint × List Event
  | .encode cmd =>
    let (codec, sent, _) := e.codec.encode engine cmd e.sent
    (⟨codec, e.buffer, sent⟩, [])
  | .receive chunk => (⟨e.codec, e.buffer ++ chunk, e.sent⟩, [])
  | .poll =>
    let (codec, rest, out) := e.codec.decode e.buffer
    (⟨codec, rest, e.sent⟩, events out)

def run : Endpoint → List Step → Endpoint × List Event
  | e, [] => (e, [])
  | e, s :: more =>
    let (next, out) := step engine e s
    let (last, later) := run next more
    (last, out ++ later)

def runDrained (e : Endpoint) (steps : List Step) : OvpnCodec × Bytes × List Event :=
  report (run engine e steps).2 (drain (run engine e steps).1.codec (run engine e steps).1.buffer)

end Running

def commands : List Step → List OvpnCommand
  | [] => []
  | .encode cmd :: more => cmd :: commands more
  | _ :: more => commands more

def received : List Step → Bytes
  | [] => []
  | .receive chunk :: more => chunk ++ received more
  | _ :: more => received more

def kinds (steps : List Step) : List ResponseKind := (commands steps).map (·.expectedResponse)

/- Whenever bytes have arrived, every answer with a whole line among them has its command: the
   open block and `pending` entries of the queue, or one encoded by then. -/
def InTime (inBlock : Bool) (pending : Nat) (buffer : Bytes) (script : List Text)
    (steps : List Step) : Prop :=
  ∀ earlier, earlier <+: steps →
    responsesBegun inBlock (replies (script.take ((buffer ++ received earlier).count newline))) ≤
      pending + (commands earlier).length

instance (inBlock : Bool) (pending : Nat) (buffer : Bytes) (script : List Text)
    (steps : List Step) : Decidable (InTime inBlock pending buffer script steps) :=
  decidable_of_iff (∀ earlier ∈ steps.inits,
      responsesBegun inBlock (replies (script.take ((buffer ++ received earlier).count newline))) ≤
        pending + (commands earlier).length)
    (by simp only [List.mem_inits, InTime])

def readerOf (c : OvpnCodec) : Reader := ⟨c.frameDecoder, c.multiLineBuf⟩

/-- The queue, the block and the bytes agree with the rest of the script. -/
structure Synced (e : Endpoint) (script : List Text) (steps : List Step)
    (blockLeft : Option (List Text)) (kindsLeft : List ResponseKind) : Prop where
  clean : ∀ raw ∈ script, '\n' ∉ raw
  stream : e.buffer ++ received steps = wire script
  follows : Follows e.codec.maxMultiLineLines e.codec.multiLineBuf
    (e.codec.expectedQueue ++ kinds steps) (replies script) blockLeft kindsLeft
  inTime : InTime e.codec.multiLineBuf.isSome e.codec.expectedQueue.length e.buffer script steps
  calm : Calm e.codec.frameDecoder script

/-! One line -/

/-- What taking one line does, seen from the script: the codec is where the reader is, nothing
    but messages comes out, and the answers begun and the queue shrink together. -/
structure Takes (c after : OvpnCodec) (raw : Text) (more : List Text)
    (future : List ResponseKind) (blockLeft : Option (List Text)) (kindsLeft : List ResponseKind)
    (out : Option Event) : Prop where
  follows : Follows after.maxMultiLineLines after.multiLineBuf (after.expectedQueue ++ future)
    (replies more) blockLeft kindsLeft
  calm : Calm after.frameDecoder more
  reader : ∃ messages, Reader.take (readerOf c) raw = (readerOf after, messages) ∧
    out.toList = messages.map .ok
  begun : ∀ later, responsesBegun c.multiLineBuf.isSome (replies (raw :: later)) +
      after.expectedQueue.length =
    responsesBegun after.multiLineBuf.isSome (replies later) + c.expectedQueue.length
  mode : after.encoderMode = c.encoderMode
  queue : after.expectedQueue = c.expectedQueue ∨ ∃ answer : Answer, out = some (.ok answer.message)

theorem replies_cons (raw : Text) (more : List Text) :
    replies (raw :: more) =
      if IsNotice (trimLineEnd raw) then replies more else trimLineEnd raw :: replies more := by
  by_cases notice : IsNotice (trimLineEnd raw) <;> simp [replies, notice]

theorem takeBytes_raw (c : OvpnCodec) (raw : Text) :
    c.takeBytes (toUtf8 raw ++ [newline]) =
      match c.frameDecoder.takeLine (trimLineEnd raw) with
      | (d, none) => (c.withFrames d, none)
      | (d, some (.error e)) => ((c.withFrames d).reset, some (.error e))
      | (d, some (.ok frame)) => (c.withFrames d).takeFrame frame := by
  rw [← takeBytes_text]
  rfl

theorem takeFrame_notice (c : OvpnCodec) {frame : Frame} (kind : IsNoticeFrame frame) :
    ∃ after message, c.takeFrame frame = (after, some (.ok message)) ∧
      frameMessage frame = some message ∧ forget after = forget c := by
  cases frame with
  | notification _ _ => exact ⟨_, _, rfl, rfl, rfl⟩
  | clientEnv _ _ _ => exact ⟨_, _, rfl, rfl, rfl⟩
  | info _ => exact ⟨_, _, rfl, rfl, rfl⟩
  | _ => cases kind

theorem reader_notice {r : Reader} {raw : Text} {d : FrameDecoder} {frame : Frame}
    (line : r.frames.takeLine (trimLineEnd raw) = (d, some (.ok frame)))
    (kind : IsNoticeFrame frame) : r.take raw = (⟨d, r.block⟩, (frameMessage frame).toList) := by
  rw [Reader.take, line]
  cases frame with
  | endMarker | line _ => cases kind
  | _ => rfl

/-- What a notice does depends on the frame decoder alone, and it does nothing to queue and block. -/
theorem takeBytes_notice {d : FrameDecoder} {raw : Text} {more : List Text}
    (notice : IsNotice (trimLineEnd raw)) (calm : Calm d (raw :: more)) :
    ∃ later out messages, Calm later more ∧ out.toList = messages.map Except.ok ∧
      ∀ c : OvpnCodec, c.frameDecoder = d →
        (∃ after, c.takeBytes (toUtf8 raw ++ [newline]) = (after, out) ∧
          forget after = forget (c.withFrames later)) ∧
        (readerOf c).take raw = (⟨later, c.multiLineBuf⟩, messages) := by
  obtain ⟨quiet, still⟩ := calm
  have cases := takeLine_notice d notice
  generalize line : d.takeLine (trimLineEnd raw) = taken at quiet still cases
  obtain ⟨later, out⟩ := taken
  obtain rfl | ⟨e, rfl⟩ | ⟨frame, rfl, kind⟩ := cases
  · refine ⟨later, none, [], still, rfl, ?_⟩
    rintro c rfl
    exact ⟨⟨_, by rw [takeBytes_raw, line], rfl⟩, by simp only [Reader.take, readerOf, line]⟩
  · exact absurd rfl (quiet e)
  · obtain ⟨_, message, -, known, -⟩ := takeFrame_notice OvpnCodec.new kind
    refine ⟨later, some (.ok message), [message], still, rfl, ?_⟩
    rintro c rfl
    obtain ⟨after, same, taken, also, untouched⟩ := takeFrame_notice (c.withFrames later) kind
    obtain rfl : message = same := Option.some.inj (known.symm.trans also)
    refine ⟨⟨after, by simp only [takeBytes_raw, line, taken], untouched⟩, ?_⟩
    rw [reader_notice line kind, known]
    rfl

theorem takes_notice {c : OvpnCodec} {raw : Text} {more : List Text} {future : List ResponseKind}
    {blockLeft : Option (List Text)} {kindsLeft : List ResponseKind}
    (notice : IsNotice (trimLineEnd raw))
    (calm : Calm c.frameDecoder (raw :: more))
    (follows : Follows c.maxMultiLineLines c.multiLineBuf (c.expectedQueue ++ future)
      (replies (raw :: more)) blockLeft kindsLeft) :
    ∃ after out, c.takeBytes (toUtf8 raw ++ [newline]) = (after, out) ∧
      Takes c after raw more future blockLeft kindsLeft out := by
  rw [replies_cons, if_pos notice] at follows
  obtain ⟨later, out, messages, still, reported, taking⟩ := takeBytes_notice notice calm
  obtain ⟨⟨after, taken, untouched⟩, reader⟩ := taking c rfl
  obtain ⟨queue, block, limit, frames⟩ := forget_fields untouched
  have mode : (forget after).encoderMode = (forget (c.withFrames later)).encoderMode := by
    rw [untouched]
  refine ⟨after, out, taken, ?_, ?_, ⟨messages, ?_, reported⟩, ?_, mode, Or.inl queue⟩
  · rw [queue, block, limit]
    exact follows
  · rw [frames]
    exact still
  · rw [reader, readerOf, frames, block]
    rfl
  · intro later
    rw [replies_cons, if_pos notice, queue, block]
    rfl

/-! Replies. Each of them needs a queued command: the first line of an answer its own, a later
    line that of the open block. -/

theorem takeBytes_single {raw : Text} (single : IsSingle (trimLineEnd raw)) :
    ∃ answer : Answer, ∀ c : OvpnCodec,
      c.takeBytes (toUtf8 raw ++ [newline]) = (c.consumeExpected, some (.ok answer.message)) ∧
        (readerOf c).take raw = (readerOf c, [answer.message]) := by
  obtain ⟨-, ⟨text, frame⟩ | ⟨text, frame⟩⟩ := takeLine_single FrameDecoder.new single
  · refine ⟨.success text, fun c => ?_⟩
    have taken := (takeLine_single c.frameDecoder single).1
    rw [frame] at taken
    simp only [takeBytes_raw, Reader.take, readerOf, taken]
    exact ⟨rfl, rfl⟩
  · refine ⟨.error text, fun c => ?_⟩
    have taken := (takeLine_single c.frameDecoder single).1
    rw [frame] at taken
    simp only [takeBytes_raw, Reader.take, readerOf, taken]
    exact ⟨rfl, rfl⟩

/- The codec takes an unclassified line for one of a block, and END for its end. -/
def Gathers (c : OvpnCodec) : Prop := c.multiLineBuf.isSome ∨ c.expectedFront = .multiLine

theorem takeBytes_body {c : OvpnCodec} {raw : Text} (plain : Unclaimed (trimLineEnd raw))
    (gathers : Gathers c) (room : HasRoom c.maxMultiLineLines c.multiLineBuf) :
    c.takeBytes (toUtf8 raw ++ [newline]) =
      ({ c with multiLineBuf := some (c.multiLineBuf.getD [] ++ [trimLineEnd raw]) }, none) := by
  have kept : c.withFrames c.frameDecoder = c := rfl
  simp only [takeBytes_raw, takeLine_body _ plain, kept, OvpnCodec.takeFrame, OvpnCodec.takeLine]
  cases block : c.multiLineBuf with
  | none =>
    have front := gathers.resolve_left (by simp [block])
    simp [front, plain.notNotice]
  | some buf =>
    rw [if_neg (by simp), if_neg (by simp [plain.notNotice])]
    cases limit : c.maxMultiLineLines with
    | unlimited => rfl
    | max most =>
      have fits := room buf most block limit
      simp only [if_neg (by omega : ¬ most ≤ buf.length)]
      rfl

theorem takeBytes_end {c : OvpnCodec} {raw : Text} (last : trimLineEnd raw = endMarker)
    (gathers : Gathers c) :
    c.takeBytes (toUtf8 raw ++ [newline]) =
      ({ c with multiLineBuf := none }.consumeExpected,
        some (.ok (.multiLine (c.multiLineBuf.getD [])))) := by
  have kept : c.withFrames c.frameDecoder = c := rfl
  simp only [takeBytes_raw, last, takeLine_end, kept, OvpnCodec.takeFrame]
  obtain ⟨queue, block, limit, mode, frames, flag⟩ := c
  cases block with
  | none =>
    have front := gathers.resolve_left (by simp)
    simp only [OvpnCodec.takeEnd, front, if_true, Option.getD_none]
  | some lines => rfl

theorem takes_reply {c : OvpnCodec} {raw : Text} {more : List Text} {future : List ResponseKind}
    {blockLeft : Option (List Text)} {kindsLeft : List ResponseKind}
    (reply : ¬ IsNotice (trimLineEnd raw))
    (calm : Calm c.frameDecoder (raw :: more))
    (follows : Follows c.maxMultiLineLines c.multiLineBuf (c.expectedQueue ++ future)
      (replies (raw :: more)) blockLeft kindsLeft)
    (queued : 0 < c.expectedQueue.length) :
    ∃ after out, c.takeBytes (toUtf8 raw ++ [newline]) = (after, out) ∧
      Takes c after raw more future blockLeft kindsLeft out := by
  have split : ∀ later, replies (raw :: later) = trimLineEnd raw :: replies later := by
    intro later
    rw [replies_cons, if_neg reply]
  obtain ⟨kind, queue, shape⟩ := List.exists_cons_of_length_pos queued
  rw [split, shape, List.cons_append] at follows
  generalize line_eq : trimLineEnd raw = line at follows reply split
  generalize block_eq : c.multiLineBuf = block at follows
  have front : c.expectedFront = kind := by simp [OvpnCodec.expectedFront, shape]
  cases follows with
  | single single later =>
    rw [← line_eq] at single
    obtain ⟨answer, taking⟩ := takeBytes_single single
    obtain ⟨-, still⟩ := calm
    rw [(takeLine_single c.frameDecoder single).1] at still
    refine ⟨c.consumeExpected, some (.ok answer.message), (taking c).1, ?_, still,
      ⟨[answer.message], (taking c).2, rfl⟩, ?_, rfl, Or.inr ⟨answer, rfl⟩⟩
    · simp only [OvpnCodec.consumeExpected, shape, List.tail_cons]
      rw [block_eq]
      exact later
    · intro later
      rw [split, block_eq, ← line_eq]
      simp only [OvpnCodec.consumeExpected, shape, List.tail_cons, List.length_cons, block_eq,
        Option.isSome_none, begun_single single]
      omega
  | blockEnd later =>
    have taken := takeLine_end c.frameDecoder
    obtain ⟨-, still⟩ := calm
    rw [line_eq, taken] at still
    refine ⟨{ c with multiLineBuf := none }.consumeExpected,
      some (.ok (.multiLine (c.multiLineBuf.getD []))), takeBytes_end line_eq (Or.inr front), ?_,
      still, ⟨[_], ?_, rfl⟩, ?_, rfl, Or.inr ⟨.block (c.multiLineBuf.getD []), rfl⟩⟩
    · simp only [OvpnCodec.consumeExpected, shape, List.tail_cons]
      exact later
    · simp only [Reader.take, readerOf, line_eq, taken]
      rfl
    · intro later
      rw [split, begun_end]
      simp only [OvpnCodec.consumeExpected, shape, List.tail_cons, List.length_cons,
        Option.isSome_none]
      omega
  | body plain room later =>
    have taken := takeLine_body c.frameDecoder plain.toUnclaimed
    obtain ⟨-, still⟩ := calm
    rw [line_eq, taken] at still
    rw [← block_eq] at room later
    subst line_eq
    refine ⟨{ c with multiLineBuf := some (c.multiLineBuf.getD [] ++ [trimLineEnd raw]) }, none,
      takeBytes_body plain.toUnclaimed (Or.inr front) room, ?_, still, ⟨[], ?_, rfl⟩, ?_, rfl,
      Or.inl rfl⟩
    · simp only [shape]
      exact later
    · simp only [Reader.take, readerOf, taken]
    · intro later
      rw [split, begun_body plain.toUnclaimed, Option.isSome_some]

/-! Bytes and script -/

theorem newline_not_mem {raw : Text} (clean : '\n' ∉ raw) : newline ∉ toUtf8 raw := by
  have ascii := ascii_mem_toUtf8 (show ('\n').toNat < 128 by decide) raw
  exact fun member => clean (ascii.mp member)

theorem newline_not_mem_prompt : newline ∉ toUtf8 pwPrompt :=
  newline_not_mem (by simp [pwPrompt, lit_eq])

theorem wire_cons (raw : Text) (more : List Text) :
    wire (raw :: more) = toUtf8 raw ++ newline :: wire more := by
  simp [wire]

theorem drained_nil (c : OvpnCodec) : drained c (wire []) = (forget c, [], []) :=
  drained_open c (by simp [wire]) (by simp [wire, pwPrompt, lit_eq])

theorem drained_raw (c : OvpnCodec) {raw : Text} (clean : '\n' ∉ raw) (more : List Text) :
    drained c (wire (raw :: more)) =
      report (c.takeBytes (toUtf8 raw ++ [newline])).2.toList
        (drained (c.takeBytes (toUtf8 raw ++ [newline])).1 (wire more)) := by
  rw [wire_cons, drained_line c (newline_not_mem clean)]

theorem wire_front {buffer later rest : Bytes} {raw : Text} (clean : '\n' ∉ raw)
    (stream : buffer ++ later = toUtf8 raw ++ newline :: rest) (whole : newline ∈ buffer) :
    ∃ left, buffer = toUtf8 raw ++ newline :: left ∧ left ++ later = rest := by
  obtain unfinished | ⟨body, left, first, rfl⟩ := open_or_line newline buffer
  · contradiction
  · rw [List.append_assoc, List.cons_append] at stream
    have front := splitLine_line first (left ++ later)
    rw [stream, splitLine_line (newline_not_mem clean)] at front
    simp only [Option.some.injEq, Prod.mk.injEq, List.append_cancel_right_eq] at front
    exact ⟨left, by rw [front.1], front.2.symm⟩

theorem wire_some {buffer later : Bytes} {script : List Text}
    (stream : buffer ++ later = wire script) (whole : newline ∈ buffer) : ∃ raw more, script = raw :: more := by
  cases script with
  | cons raw more => exact ⟨raw, more, rfl⟩
  | nil =>
    obtain ⟨rfl, -⟩ := List.append_eq_nil_iff.mp stream
    simp at whole

theorem arrived_cons {raw : Text} {rest more : Bytes} {script : List Text}
    (clean : newline ∉ toUtf8 raw) :
    (raw :: script).take ((toUtf8 raw ++ newline :: rest ++ more).count newline) =
      raw :: script.take ((rest ++ more).count newline) := by
  have count : (toUtf8 raw ++ newline :: rest ++ more).count newline =
      (rest ++ more).count newline + 1 := by
    simp [List.count_append, List.count_eq_zero.mpr clean]
  rw [count, List.take_succ_cons]

theorem wire_tail {buffer later rest : Bytes} {raw : Text}
    (stream : buffer ++ later = toUtf8 raw ++ newline :: rest) (unfinished : newline ∉ buffer) :
    buffer <+: toUtf8 raw := by
  have left : buffer <+: toUtf8 raw ++ newline :: rest := ⟨later, stream⟩
  rcases List.prefix_or_prefix_of_prefix left (List.prefix_append _ _) with inside | beyond
  · exact inside
  · obtain ⟨extra, rfl⟩ := beyond
    rw [List.append_assoc, List.append_cancel_left_eq] at stream
    cases extra with
    | nil => simp
    | cons x xs =>
      simp only [List.cons_append, List.cons.injEq] at stream
      simp [stream.1] at unfinished

theorem follows_not_prompt {limit : AccumulationLimit} {block blockLeft : Option (List Text)}
    {kinds kindsLeft : List ResponseKind} {raw : Text} {more : List Text}
    (follows : Follows limit block kinds (replies (raw :: more)) blockLeft kindsLeft) :
    ¬ pwPrompt <+: raw := by
  rintro ⟨rest, rfl⟩
  have reply : ¬ IsNotice (pwPrompt ++ trimLineEnd rest) := by
    simp [IsNotice, pwPrompt, lit_eq]
  rw [replies_cons, trimLineEnd_prompt, if_neg reply] at follows
  generalize line_eq : pwPrompt ++ trimLineEnd rest = line at follows
  cases follows with
  | single answer _ =>
    subst line_eq
    simp [IsSingle, pwPrompt, lit_eq] at answer
  | blockEnd _ => simp [pwPrompt, lit_eq, endMarker] at line_eq
  | body plain _ _ => exact plain.notPromptStart ⟨_, line_eq⟩

theorem unfinished_not_prompt {limit : AccumulationLimit} {block blockLeft : Option (List Text)}
    {kinds kindsLeft : List ResponseKind} {raw : Text} {more : List Text} {buffer later rest : Bytes}
    (follows : Follows limit block kinds (replies (raw :: more)) blockLeft kindsLeft)
    (stream : buffer ++ later = toUtf8 raw ++ newline :: rest) (unfinished : newline ∉ buffer) :
    ¬ toUtf8 pwPrompt <+: buffer := fun start =>
  follows_not_prompt follows
    (prefix_of_toUtf8 (by simp [pwPrompt, lit_eq]) (start.trans (wire_tail stream unfinished)))

/-! Whole runs -/

section Synced
variable {script : List Text} {steps : List Step} {blockLeft : Option (List Text)}
  {kindsLeft : List ResponseKind}

theorem synced_forget {a b : OvpnCodec} (same : forget a = forget b) {buffer sent : Bytes}
    (synced : Synced ⟨a, buffer, sent⟩ script steps blockLeft kindsLeft) (other : Bytes) :
    Synced ⟨b, buffer, other⟩ script steps blockLeft kindsLeft := by
  obtain ⟨queue, block, limit, frames⟩ := forget_fields same
  obtain ⟨clean, stream, follows, inTime, calm⟩ := synced
  simp only [queue, block, limit, frames] at follows inTime calm
  exact ⟨clean, stream, follows, inTime, calm⟩

theorem takes_line {c : OvpnCodec} {raw : Text} {more : List Text} {future : List ResponseKind}
    (follows : Follows c.maxMultiLineLines c.multiLineBuf (c.expectedQueue ++ future)
      (replies (raw :: more)) blockLeft kindsLeft)
    (calm : Calm c.frameDecoder (raw :: more))
    (queued : ¬ IsNotice (trimLineEnd raw) → 0 < c.expectedQueue.length) :
    ∃ after out, c.takeBytes (toUtf8 raw ++ [newline]) = (after, out) ∧
      Takes c after raw more future blockLeft kindsLeft out := by
  by_cases notice : IsNotice (trimLineEnd raw)
  · exact takes_notice notice calm follows
  · exact takes_reply notice calm follows (queued notice)

theorem synced_queued {c : OvpnCodec} {buffer sent : Bytes} {raw : Text} {more : List Text}
    (synced : Synced ⟨c, buffer, sent⟩ (raw :: more) steps blockLeft kindsLeft)
    (whole : newline ∈ buffer) (reply : ¬ IsNotice (trimLineEnd raw)) :
    0 < c.expectedQueue.length := by
  have clean := synced.clean raw (by simp)
  have stream : buffer ++ received steps = _ := synced.stream.trans (wire_cons raw more)
  obtain ⟨left, rfl, -⟩ := wire_front clean stream whole
  have arrived := synced.inTime [] List.nil_prefix
  rw [arrived_cons (newline_not_mem clean), replies_cons, if_neg reply] at arrived
  exact Nat.lt_of_lt_of_le (begun_pos _ _ _) arrived

theorem synced_line {c : OvpnCodec} {buffer sent : Bytes}
    (synced : Synced ⟨c, buffer, sent⟩ script steps blockLeft kindsLeft) (whole : newline ∈ buffer) :
    ∃ raw more rest after out messages, script = raw :: more ∧
      buffer = toUtf8 raw ++ newline :: rest ∧ newline ∉ toUtf8 raw ∧
      c.takeBytes (toUtf8 raw ++ [newline]) = (after, out) ∧ out.toList = messages.map .ok ∧
      transcript (readerOf c) script = messages ++ transcript (readerOf after) more ∧
      Synced ⟨after, rest, sent⟩ more steps blockLeft kindsLeft := by
  obtain ⟨raw, more, rfl⟩ := wire_some synced.stream whole
  have clean := newline_not_mem (synced.clean raw (by simp))
  obtain ⟨after, out, taken, takes⟩ :=
    takes_line synced.follows synced.calm (synced_queued synced whole)
  obtain ⟨rest, rfl, stream⟩ :=
    wire_front (synced.clean raw (by simp)) (synced.stream.trans (wire_cons raw more)) whole
  obtain ⟨messages, reader, reported⟩ := takes.reader
  refine ⟨raw, more, rest, after, out, messages, rfl, rfl, clean, taken, reported, ?_, ?_⟩
  · rw [transcript, feed_cons, reader]
    rfl
  · refine ⟨fun later member => synced.clean later (by simp [member]), stream, takes.follows, ?_,
      takes.calm⟩
    intro earlier front
    have arrived := synced.inTime earlier front
    have begun := takes.begun (more.take ((rest ++ received earlier).count newline))
    rw [arrived_cons clean] at arrived
    simp only at arrived begun ⊢
    omega

theorem synced_not_prompt {c : OvpnCodec} {buffer sent : Bytes}
    (synced : Synced ⟨c, buffer, sent⟩ script steps blockLeft kindsLeft)
    (unfinished : newline ∉ buffer) : ¬ toUtf8 pwPrompt <+: buffer := by
  cases script with
  | cons raw more =>
    exact unfinished_not_prompt synced.follows (synced.stream.trans (wire_cons raw more)) unfinished
  | nil =>
    obtain ⟨rfl, -⟩ := List.append_eq_nil_iff.mp synced.stream
    simp [pwPrompt, lit_eq]

/-- The rule for one call of `decode`: `inv` holds in front of every line it takes, and `post` where
    it stops: behind a line, in front of an unfinished one or behind a prompt. -/
theorem decoded_rule (inv : OvpnCodec → Bytes → List Text → Prop)
    (post : OvpnCodec → Bytes → List Text → List OvpnMessage → Prop)
    (forgets : ∀ c buffer script messages,
      post c buffer script messages → post (forget c) buffer script messages)
    (line : ∀ c buffer script, inv c buffer script → newline ∈ buffer →
      ∃ body rest after out more messages, newline ∉ body ∧ buffer = body ++ newline :: rest ∧
        c.takeBytes (body ++ [newline]) = (after, out) ∧ out.toList = messages.map .ok ∧
        transcript (readerOf c) script = messages ++ transcript (readerOf after) more ∧
        post after rest more messages ∧ (out = none → inv after rest more))
    (stop : ∀ c buffer script, inv c buffer script → newline ∉ buffer →
      ¬ toUtf8 pwPrompt <+: buffer ∧ post c buffer script [] ∨
        toUtf8 pwPrompt <+: buffer ∧ ∃ more,
          transcript (readerOf c) script = .passwordPrompt :: transcript (readerOf c) more ∧
          ∀ rest, post c rest more [.passwordPrompt])
    {c : OvpnCodec} {buffer : Bytes} {script : List Text} (start : inv c buffer script) :
    ∃ after rest out more messages, decoded c buffer = (after, rest, out) ∧
      events out = messages.map .ok ∧
      transcript (readerOf c) script = messages ++ transcript (readerOf after) more ∧
      rest.length ≤ buffer.length ∧ post after rest more messages := by
  induction h : buffer.length using Nat.strongRecOn generalizing c buffer script with
  | ind n ih =>
    by_cases whole : newline ∈ buffer
    · obtain ⟨body, rest, after, out, more, messages, clean, rfl, taken, reported, same, done,
        next⟩ := line c buffer script start whole
      simp only [List.length_append, List.length_cons] at h
      rw [decoded_line c clean, taken]
      cases out with
      | none =>
        obtain rfl : messages = [] := by simpa using reported.symm
        obtain ⟨last, left, result, final, others, run, outcome, tail, shorter, ends⟩ :=
          ih rest.length (by omega) (next rfl) rfl
        exact ⟨last, left, result, final, others, run, outcome, same.trans tail, by omega, ends⟩
      | some result =>
        refine ⟨forget after, rest, _, more, messages, rfl, ?_, same, by omega,
          forgets after rest more messages done⟩
        rw [← reported]
        cases result <;> rfl
    · rcases stop c buffer script start whole with ⟨other, done⟩ | ⟨⟨tail, rfl⟩, more, same, done⟩
      · exact ⟨forget c, buffer, _, script, [], decoded_open c whole other, rfl, rfl, by omega,
          forgets c buffer script [] done⟩
      · have prompt := decoded_prompt c whole
        have shorter := decoded_shrinks prompt (by simp)
        exact ⟨forget c, _, _, more, [.passwordPrompt], prompt, rfl, same, shorter.le.trans h.le,
          forgets c _ more _ (done _)⟩

theorem synced_decoded {c : OvpnCodec} {buffer sent : Bytes}
    (synced : Synced ⟨c, buffer, sent⟩ script steps blockLeft kindsLeft) :
    ∃ after rest out more messages, decoded c buffer = (after, rest, out) ∧
      events out = messages.map .ok ∧
      transcript (readerOf c) script = messages ++ transcript (readerOf after) more ∧
      rest.length ≤ buffer.length ∧ Synced ⟨after, rest, sent⟩ more steps blockLeft kindsLeft := by
  refine decoded_rule
    (fun c buffer script => Synced ⟨c, buffer, sent⟩ script steps blockLeft kindsLeft)
    (fun c buffer script _ => Synced ⟨c, buffer, sent⟩ script steps blockLeft kindsLeft)
    ?_ ?_ ?_ synced
  · exact fun c _ _ _ same => synced_forget (forget_forget c).symm same sent
  · intro c buffer script synced whole
    obtain ⟨raw, more, rest, after, out, messages, -, shape, clean, taken, reported, same, next⟩ :=
      synced_line synced whole
    exact ⟨toUtf8 raw, rest, after, out, more, messages, clean, shape, taken, reported, same, next,
      fun _ => next⟩
  · exact fun c buffer script synced whole => Or.inl ⟨synced_not_prompt synced whole, synced⟩

theorem synced_encode (engine : Bytes → Text) {e : Endpoint} {cmd : OvpnCommand}
    (synced : Synced e script (.encode cmd :: steps) blockLeft kindsLeft) :
    Synced (step engine e (.encode cmd)).1 script steps blockLeft kindsLeft := by
  simp only [step, encode_codec]
  refine ⟨synced.clean, synced.stream, ?_, ?_, synced.calm⟩
  · have follows := synced.follows
    simp only [kinds, commands, List.map_cons] at follows ⊢
    rwa [List.append_assoc]
  · intro earlier front
    have arrived := synced.inTime (.encode cmd :: earlier) (by simpa using front)
    simp only [received, commands, List.length_cons, List.length_append] at arrived ⊢
    simp only [List.length_nil] at arrived ⊢
    omega

theorem synced_receive (engine : Bytes → Text) {e : Endpoint} {chunk : Bytes}
    (synced : Synced e script (.receive chunk :: steps) blockLeft kindsLeft) :
    Synced (step engine e (.receive chunk)).1 script steps blockLeft kindsLeft := by
  refine ⟨synced.clean, ?_, synced.follows, ?_, synced.calm⟩
  · have stream := synced.stream
    simp only [received, step] at stream ⊢
    rwa [List.append_assoc]
  · intro earlier front
    have arrived := synced.inTime (.receive chunk :: earlier) (by simpa using front)
    simp only [received, commands, step] at arrived ⊢
    rwa [List.append_assoc]

theorem synced_poll {e : Endpoint} (synced : Synced e script (.poll :: steps) blockLeft kindsLeft) :
    Synced e script steps blockLeft kindsLeft :=
  ⟨synced.clean, synced.stream, synced.follows,
    fun earlier front => synced.inTime (.poll :: earlier) (by simpa using front), synced.calm⟩

theorem synced_step (engine : Bytes → Text) {e : Endpoint} {s : Step}
    (synced : Synced e script (s :: steps) blockLeft kindsLeft) :
    ∃ more messages, (step engine e s).2 = messages.map .ok ∧
      transcript (readerOf e.codec) script =
        messages ++ transcript (readerOf (step engine e s).1.codec) more ∧
      Synced (step engine e s).1 more steps blockLeft kindsLeft := by
  cases s with
  | encode cmd =>
    refine ⟨script, [], rfl, ?_, synced_encode engine synced⟩
    simp only [step, encode_codec, readerOf, List.nil_append]
  | receive chunk => exact ⟨script, [], rfl, rfl, synced_receive engine synced⟩
  | poll =>
    obtain ⟨c, buffer, sent⟩ := e
    obtain ⟨after, rest, out, more, messages, decoding, outcome, same, -, next⟩ :=
      synced_decoded (synced_poll synced)
    rw [decoded, Prod.mk.injEq] at decoding
    obtain ⟨rfl, decoding⟩ := decoding
    refine ⟨more, messages, ?_, ?_, ?_⟩
    · simp only [step, decoding, outcome]
    · rw [same]
      rfl
    · simp only [step, decoding]
      exact synced_forget (forget_forget _) next sent

theorem synced_run (engine : Bytes → Text) {e : Endpoint}
    (synced : Synced e script steps blockLeft kindsLeft) :
    ∃ more messages, (run engine e steps).2 = messages.map .ok ∧
      transcript (readerOf e.codec) script =
        messages ++ transcript (readerOf (run engine e steps).1.codec) more ∧
      Synced (run engine e steps).1 more [] blockLeft kindsLeft := by
  induction steps generalizing e script with
  | nil => exact ⟨script, [], rfl, rfl, synced⟩
  | cons s later ih =>
    obtain ⟨more, messages, outcome, same, next⟩ := synced_step engine synced
    obtain ⟨final, others, tail, rest, done⟩ := ih next
    refine ⟨final, messages ++ others, ?_, ?_, done⟩
    · simp only [run, outcome, tail, List.map_append]
    · rw [same, rest, List.append_assoc]
      rfl

theorem synced_received {e : Endpoint} (synced : Synced e script [] blockLeft kindsLeft) :
    e.buffer = wire script ∧
      Synced ⟨e.codec, wire script, e.sent⟩ script [] blockLeft kindsLeft := by
  have stream : e.buffer = wire script := by simpa [received] using synced.stream
  exact ⟨stream, stream ▸ synced⟩

theorem synced_drained {c : OvpnCodec} {sent : Bytes}
    (synced : Synced ⟨c, wire script, sent⟩ script [] blockLeft kindsLeft) :
    (drained c (wire script)).2 = ([], (transcript (readerOf c) script).map .ok) ∧
      (drained c (wire script)).1.expectedQueue = kindsLeft ∧
      (drained c (wire script)).1.multiLineBuf = blockLeft := by
  induction script generalizing c with
  | nil =>
    have follows := synced.follows
    simp only [replies, List.map_nil, List.filter_nil, kinds, commands, List.append_nil] at follows
    obtain ⟨rfl, rfl⟩ := follows_nil follows
    rw [drained_nil]
    exact ⟨rfl, rfl, rfl⟩
  | cons raw more ih =>
    have whole : newline ∈ wire (raw :: more) := by simp [wire_cons]
    obtain ⟨_, _, rest, after, out, messages, ⟨⟩, shape, -, taken, reported, same, later⟩ :=
      synced_line synced whole
    obtain rfl : wire more = rest := by
      rw [wire_cons] at shape
      simpa using shape
    obtain ⟨tail, queue, block⟩ := ih later
    rw [drained_raw c (synced.clean raw (by simp)), taken]
    refine ⟨?_, queue, block⟩
    simp only [report, tail, reported, same, List.map_append]

/-- A run in step with the script decodes the transcript of the script, whatever the order of the
    steps and the cuts of the stream. -/
theorem synced_runDrained (engine : Bytes → Text) {e : Endpoint}
    (synced : Synced e script steps blockLeft kindsLeft) :
    (runDrained engine e steps).2 = ([], (transcript (readerOf e.codec) script).map .ok) ∧
      (runDrained engine e steps).1.expectedQueue = kindsLeft ∧
      (runDrained engine e steps).1.multiLineBuf = blockLeft := by
  obtain ⟨more, messages, outcome, same, done⟩ := synced_run engine synced
  obtain ⟨stream, ended⟩ := synced_received done
  obtain ⟨tail, queue, block⟩ := synced_drained ended
  rw [← stream] at tail queue block
  refine ⟨?_, queue, block⟩
  have left : (drain (run engine e steps).1.codec (run engine e steps).1.buffer).2 = ([], _) := tail
  simp only [runDrained, report, left, outcome, same, List.map_append]

end Synced

end MgmtMatching
