import OpenvpnMgmt.Pipelining

/-!
A command answered by silence. Nothing is popped for it, so its entry stays in front of the entries
of later commands. The run with the command is the shadow of the run without: both decode the
same until a line of a block meets an entry that expects no block.
-/
namespace MgmtSilence
open TextOps Utf8Text LineFraming MgmtEncoder MgmtValues MgmtCommand MgmtMessage MgmtFrame
  MgmtNotifications MgmtCodec MgmtDraining MgmtServerStream MgmtMatching MgmtPipelining

/- Where the kinds expect no block, the lines of a block are blank at most, and its END does not
   come: blank lines are passed over in silence, any other line is reported. -/
def BlocksExpected : Bool → List ResponseKind → List Text → Prop
  | _, _, [] => True
  | inBlock, kinds, line :: more =>
    if IsSingle line then BlocksExpected false kinds.tail more
    else if inBlock = false ∧ kinds.head? ≠ some .multiLine then
      line = [] ∧ BlocksExpected false kinds more
    else if line = endMarker then BlocksExpected false kinds.tail more
    else BlocksExpected true kinds more

instance decidableBlocksExpected (inBlock : Bool) (kinds : List ResponseKind) (lines : List Text) :
    Decidable (BlocksExpected inBlock kinds lines) :=
  match lines with
  | [] => isTrue trivial
  | line :: more =>
    have _later (inBlock : Bool) (kinds : List ResponseKind) :=
      decidableBlocksExpected inBlock kinds more
    inferInstanceAs (Decidable (if IsSingle line then BlocksExpected false kinds.tail more
      else if inBlock = false ∧ kinds.head? ≠ some .multiLine then
        line = [] ∧ BlocksExpected false kinds more
      else if line = endMarker then BlocksExpected false kinds.tail more
      else BlocksExpected true kinds more))

def Expects (c : OvpnCodec) (future : List ResponseKind) (script : List Text) : Prop :=
  BlocksExpected c.multiLineBuf.isSome (c.expectedQueue ++ future) (replies script)

/-! Two codecs side by side -/

/-- `shadow` is `c` with more in its queue. It has the same block open, or none because it passed
    over the blank lines of a block it does not expect. -/
structure Shadows (c shadow : OvpnCodec) : Prop where
  frames : shadow.frameDecoder = c.frameDecoder
  limit : shadow.maxMultiLineLines = c.maxMultiLineLines
  longer : c.expectedQueue.length < shadow.expectedQueue.length
  block : shadow.multiLineBuf = c.multiLineBuf ∨ c.multiLineBuf.isSome ∧ ¬ Gathers shadow

theorem shadows_forget {a b a' b' : OvpnCodec} (left : forget a = forget a')
    (right : forget b = forget b') (shadows : Shadows a b) : Shadows a' b' := by
  obtain ⟨queue, block, limit, frames⟩ := forget_fields left
  obtain ⟨queue', block', limit', frames'⟩ := forget_fields right
  obtain ⟨sameFrames, sameLimit, longer, sameBlock⟩ := shadows
  refine ⟨by rw [← frames, ← frames', sameFrames], by rw [← limit, ← limit', sameLimit],
    by rw [← queue, ← queue']; exact longer, ?_⟩
  rw [Gathers, OvpnCodec.expectedFront, ← block, ← block', ← queue']
  exact sameBlock

theorem expects_forget {a b : OvpnCodec} (same : forget a = forget b) (future : List ResponseKind)
    (script : List Text) : Expects a future script ↔ Expects b future script := by
  obtain ⟨queue, block, -, -⟩ := forget_fields same
  rw [Expects, Expects, queue, block]

theorem gathers_iff {c : OvpnCodec} (queued : 0 < c.expectedQueue.length)
    (future : List ResponseKind) :
    ¬ Gathers c ↔
      c.multiLineBuf.isSome = false ∧ (c.expectedQueue ++ future).head? ≠ some .multiLine := by
  obtain ⟨kind, more, shape⟩ := List.exists_cons_of_length_pos queued
  simp [Gathers, OvpnCodec.expectedFront, shape]

/-! A codec that does not gather -/

theorem takeBytes_blank {c : OvpnCodec} {raw : Text} (blank : trimLineEnd raw = [])
    (astray : ¬ Gathers c) : c.takeBytes (toUtf8 raw ++ [newline]) = (c, none) := by
  have kept : c.withFrames c.frameDecoder = c := rfl
  obtain ⟨closed, front⟩ := not_or.mp astray
  simp only [takeBytes_raw, blank, takeLine_body _ unclaimed_nil, kept, OvpnCodec.takeFrame,
    OvpnCodec.takeLine]
  rw [if_pos ⟨trivial, by simpa using closed, front⟩]

theorem takeBytes_unexpected {c : OvpnCodec} {raw : Text}
    (block : Unclaimed (trimLineEnd raw) ∨ trimLineEnd raw = endMarker)
    (notBlank : trimLineEnd raw ≠ []) (astray : ¬ Gathers c) :
    (c.takeBytes (toUtf8 raw ++ [newline])).2 =
      some (.ok (.unrecognized (trimLineEnd raw) .unexpectedLine)) := by
  have kept : c.withFrames c.frameDecoder = c := rfl
  obtain ⟨closed, front⟩ := not_or.mp astray
  have shut : c.multiLineBuf = none := by simpa using closed
  rcases block with plain | last
  · simp only [takeBytes_raw, takeLine_body _ plain, kept, OvpnCodec.takeFrame,
      OvpnCodec.takeLine, shut]
    rw [if_neg (by simp [notBlank]), if_neg (by simp [plain.notNotice])]
    cases kind : c.expectedFront with
    | multiLine => exact absurd kind front
    | _ => rfl
  · simp only [takeBytes_raw, last, takeLine_end, kept, OvpnCodec.takeFrame, OvpnCodec.takeEnd,
      shut, if_neg front]

/-! One line -/

section Line
variable {c shadow : OvpnCodec} {raw : Text} {more : List Text} {future : List ResponseKind}

theorem expects_notice (notice : IsNotice (trimLineEnd raw)) :
    Expects c future (raw :: more) ↔ Expects c future more := by
  rw [Expects, Expects, replies_cons, if_pos notice]

theorem expects_single (single : IsSingle (trimLineEnd raw)) (reply : ¬ IsNotice (trimLineEnd raw))
    (queued : 0 < c.expectedQueue.length) (closed : c.multiLineBuf = none) :
    Expects c future (raw :: more) ↔ Expects c.consumeExpected future more := by
  obtain ⟨kind, later, shape⟩ := List.exists_cons_of_length_pos queued
  rw [Expects, Expects, replies_cons, if_neg reply, BlocksExpected, if_pos single]
  simp only [OvpnCodec.consumeExpected, shape, closed, List.cons_append, List.tail_cons,
    Option.isSome_none]

theorem expects_end (last : trimLineEnd raw = endMarker) (queued : 0 < c.expectedQueue.length)
    (gathers : Gathers c) : Expects c future (raw :: more) ↔
      Expects { c with multiLineBuf := none }.consumeExpected future more := by
  have reply : ¬ IsNotice endMarker := by decide
  have notSingle : ¬ IsSingle endMarker := fun single => single.notEnd rfl
  rw [Expects, Expects, replies_cons, last, if_neg reply, BlocksExpected, if_neg notSingle,
    if_neg (by rwa [← gathers_iff queued, not_not]), if_pos rfl]
  obtain ⟨kind, later, shape⟩ := List.exists_cons_of_length_pos queued
  simp only [OvpnCodec.consumeExpected, shape, List.cons_append, List.tail_cons,
    Option.isSome_none]

theorem expects_body (plain : Unclaimed (trimLineEnd raw)) (reply : ¬ IsNotice (trimLineEnd raw))
    (queued : 0 < c.expectedQueue.length) (gathers : Gathers c) (lines : List Text) :
    Expects c future (raw :: more) ↔
      Expects { c with multiLineBuf := some lines } future more := by
  rw [Expects, Expects, replies_cons, if_neg reply, BlocksExpected, if_neg plain.isNotSingle,
    if_neg (by rwa [← gathers_iff queued, not_not]), if_neg plain.notEnd]
  rfl

theorem expects_astray (notSingle : ¬ IsSingle (trimLineEnd raw))
    (reply : ¬ IsNotice (trimLineEnd raw)) (queued : 0 < c.expectedQueue.length)
    (astray : ¬ Gathers c) :
    Expects c future (raw :: more) ↔ trimLineEnd raw = [] ∧ Expects c future more := by
  have first := (gathers_iff queued future).mp astray
  rw [Expects, Expects, replies_cons, if_neg reply, BlocksExpected, if_neg notSingle, if_pos first,
    first.1]

theorem shadows_block (shadows : Shadows c shadow) (gathers : Gathers shadow) :
    shadow.multiLineBuf = c.multiLineBuf :=
  shadows.block.resolve_right fun ⟨_, astray⟩ => astray gathers

/- What a line leads to on both sides: the two stay together, or the shadow reports a line it did
   not expect. -/
def Meets (c shadow : OvpnCodec) (raw : Text) (more : List Text) (future : List ResponseKind) :
    Prop :=
  let left := c.takeBytes (toUtf8 raw ++ [newline])
  let right := shadow.takeBytes (toUtf8 raw ++ [newline])
  (right.2 = left.2 ∧ Shadows left.1 right.1 ∧
    (Expects shadow future (raw :: more) ↔ Expects right.1 future more)) ∨
  (∃ text, right.2 = some (.ok (.unrecognized text .unexpectedLine))) ∧
    ¬ Expects shadow future (raw :: more)

theorem meets_notice (shadows : Shadows c shadow) (calm : Calm c.frameDecoder (raw :: more))
    (notice : IsNotice (trimLineEnd raw)) : Meets c shadow raw more future := by
  obtain ⟨later, out, messages, -, -, taking⟩ := takeBytes_notice notice calm
  obtain ⟨⟨after, taken, untouched⟩, -⟩ := taking c rfl
  obtain ⟨⟨next, shadowTaken, shadowUntouched⟩, -⟩ := taking shadow shadows.frames
  rw [Meets, taken, shadowTaken]
  refine Or.inl ⟨rfl, ?_, ?_⟩
  · refine shadows_forget untouched.symm shadowUntouched.symm ?_
    exact ⟨rfl, shadows.limit, shadows.longer, shadows.block⟩
  · rw [expects_notice notice, expects_forget shadowUntouched]
    rfl

theorem meets_single (shadows : Shadows c shadow) (reply : ¬ IsNotice (trimLineEnd raw))
    (single : IsSingle (trimLineEnd raw)) (queued : 0 < c.expectedQueue.length)
    (closed : c.multiLineBuf = none) : Meets c shadow raw more future := by
  have longer := shadows.longer
  have shadowClosed : shadow.multiLineBuf = none := by
    rcases shadows.block with same | ⟨opened, -⟩
    · exact same.trans closed
    · simp [closed] at opened
  obtain ⟨answer, taking⟩ := takeBytes_single single
  rw [Meets, (taking c).1, (taking shadow).1]
  have same := shadowClosed.trans closed.symm
  refine Or.inl ⟨rfl, ⟨shadows.frames, shadows.limit, ?_, Or.inl same⟩, ?_⟩
  · simp only [OvpnCodec.consumeExpected, List.length_tail]
    omega
  · exact expects_single single reply (by omega) shadowClosed

theorem meets_block (shadows : Shadows c shadow) (reply : ¬ IsNotice (trimLineEnd raw))
    (block : Unclaimed (trimLineEnd raw) ∨ trimLineEnd raw = endMarker)
    (room : trimLineEnd raw ≠ endMarker → HasRoom c.maxMultiLineLines c.multiLineBuf)
    (queued : 0 < c.expectedQueue.length) (gathers : Gathers c) :
    Meets c shadow raw more future := by
  have longer := shadows.longer
  by_cases shadowGathers : Gathers shadow
  · have same := shadows_block shadows shadowGathers
    rcases block with plain | last
    · have fits := room plain.notEnd
      rw [Meets, takeBytes_body plain gathers fits,
        takeBytes_body plain shadowGathers (by rw [same, shadows.limit]; exact fits)]
      refine Or.inl ⟨rfl, ⟨shadows.frames, shadows.limit, longer, Or.inl ?_⟩, ?_⟩
      · rw [same]
      · exact expects_body plain reply (by omega) shadowGathers _
    · rw [Meets, takeBytes_end last gathers, takeBytes_end last shadowGathers]
      refine Or.inl ⟨by rw [same], ⟨shadows.frames, shadows.limit, ?_, Or.inl rfl⟩, ?_⟩
      · simp only [OvpnCodec.consumeExpected, List.length_tail]
        omega
      · exact expects_end last (by omega) shadowGathers
  · have notSingle : ¬ IsSingle (trimLineEnd raw) := by
      rcases block with plain | last
      · exact plain.isNotSingle
      · exact fun single => single.notEnd last
    have first : Expects shadow future (raw :: more) ↔ trimLineEnd raw = [] ∧ _ :=
      expects_astray notSingle reply (by omega) shadowGathers
    by_cases blank : trimLineEnd raw = []
    · -- The shadow misses the line, and the block that it belongs to.
      have plain : Unclaimed (trimLineEnd raw) := blank ▸ unclaimed_nil
      rw [Meets, takeBytes_body plain gathers (room plain.notEnd),
        takeBytes_blank blank shadowGathers]
      refine Or.inl ⟨rfl, ⟨shadows.frames, shadows.limit, longer, Or.inr ⟨rfl, shadowGathers⟩⟩, ?_⟩
      rw [first]
      exact and_iff_right blank
    · exact Or.inr ⟨⟨_, takeBytes_unexpected block blank shadowGathers⟩,
        fun expected => blank (first.mp expected).1⟩

theorem meets_line {blockLeft : Option (List Text)} {kindsLeft : List ResponseKind}
    (shadows : Shadows c shadow) (calm : Calm c.frameDecoder (raw :: more))
    (follows : Follows c.maxMultiLineLines c.multiLineBuf (c.expectedQueue ++ future)
      (replies (raw :: more)) blockLeft kindsLeft)
    (queued : ¬ IsNotice (trimLineEnd raw) → 0 < c.expectedQueue.length) :
    Meets c shadow raw more future := by
  by_cases notice : IsNotice (trimLineEnd raw)
  · exact meets_notice shadows calm notice
  · have pending := queued notice
    obtain ⟨kind, queue, shape⟩ := List.exists_cons_of_length_pos pending
    have front : c.expectedFront = kind := by simp [OvpnCodec.expectedFront, shape]
    rw [replies_cons, if_neg notice, shape, List.cons_append] at follows
    generalize line_eq : trimLineEnd raw = line at follows
    generalize block_eq : c.multiLineBuf = block at follows
    cases follows with
    | single single _ =>
      exact meets_single shadows notice (by rwa [line_eq]) pending block_eq
    | blockEnd _ =>
      exact meets_block shadows notice (Or.inr line_eq) (absurd line_eq) pending (Or.inr front)
    | body plain room _ =>
      subst line_eq block_eq
      exact meets_block shadows notice (Or.inl plain.toUnclaimed) (fun _ => room) pending
        (Or.inr front)

end Line

/-! Whole runs -/

section Runs
variable {script : List Text} {steps : List Step} {blockLeft : Option (List Text)}
  {kindsLeft : List ResponseKind}

theorem meets_synced {c shadow : OvpnCodec} {buffer sent : Bytes} {raw : Text} {more : List Text}
    (synced : Synced ⟨c, buffer, sent⟩ (raw :: more) steps blockLeft kindsLeft)
    (shadows : Shadows c shadow) (whole : newline ∈ buffer) :
    Meets c shadow raw more (kinds steps) :=
  meets_line shadows synced.calm synced.follows (synced_queued synced whole)

theorem meets_decoded {c shadow : OvpnCodec} {buffer sent : Bytes}
    (synced : Synced ⟨c, buffer, sent⟩ script steps blockLeft kindsLeft)
    (shadows : Shadows c shadow) :
    (∃ after next rest out more, decoded c buffer = (after, rest, out) ∧
        decoded shadow buffer = (next, rest, out) ∧
        Synced ⟨after, rest, sent⟩ more steps blockLeft kindsLeft ∧ Shadows after next ∧
        (Expects shadow (kinds steps) script ↔ Expects next (kinds steps) more)) ∨
      (∃ text, (decoded shadow buffer).2.2 = .ok (some (.unrecognized text .unexpectedLine))) ∧
        ¬ Expects shadow (kinds steps) script := by
  induction h : buffer.length using Nat.strongRecOn generalizing c shadow buffer script with
  | ind n ih =>
    by_cases whole : newline ∈ buffer
    · obtain ⟨raw, more, rest, after, out, messages, rfl, rfl, clean, taken, -, -, later⟩ :=
        synced_line synced whole
      have meets := meets_synced synced shadows whole
      rw [decoded_line c clean, decoded_line shadow clean, taken]
      rcases shadowTaken : shadow.takeBytes (toUtf8 raw ++ [newline]) with ⟨next, shadowOut⟩
      simp only [Meets, taken, shadowTaken] at meets
      rcases meets with ⟨rfl, together, expects⟩ | ⟨⟨text, rfl⟩, unexpected⟩
      · cases shadowOut with
        | some out =>
          exact Or.inl ⟨forget after, forget next, rest, _, more, rfl, rfl,
            synced_forget (forget_forget after).symm later sent,
            shadows_forget (forget_forget after).symm (forget_forget next).symm together,
            expects.trans (expects_forget (forget_forget next).symm _ _)⟩
        | none =>
          simp only [List.length_append, List.length_cons] at h
          simp only [expects]
          exact ih rest.length (by omega) later together rfl
      · exact Or.inr ⟨⟨text, rfl⟩, unexpected⟩
    · have prompt := synced_not_prompt synced whole
      exact Or.inl ⟨forget c, forget shadow, buffer, _, script, decoded_open c whole prompt,
        decoded_open shadow whole prompt, synced_forget (forget_forget c).symm synced sent,
        shadows_forget (forget_forget c).symm (forget_forget shadow).symm shadows,
        expects_forget (forget_forget shadow).symm _ _⟩

structure Beside (e shadow : Endpoint) : Prop where
  codec : Shadows e.codec shadow.codec
  buffer : shadow.buffer = e.buffer

theorem meets_step (engine : Bytes → Text) {e shadow : Endpoint} {s : Step}
    (synced : Synced e script (s :: steps) blockLeft kindsLeft) (beside : Beside e shadow) :
    (∃ more, Synced (step engine e s).1 more steps blockLeft kindsLeft ∧
        (step engine shadow s).2 = (step engine e s).2 ∧
        Beside (step engine e s).1 (step engine shadow s).1 ∧
        (Expects shadow.codec (kinds (s :: steps)) script ↔
          Expects (step engine shadow s).1.codec (kinds steps) more)) ∨
      (∃ text, .ok (.unrecognized text .unexpectedLine) ∈ (step engine shadow s).2) ∧
        ¬ Expects shadow.codec (kinds (s :: steps)) script := by
  obtain ⟨c, _, sent⟩ := e
  obtain ⟨shadow, buffer, shadowSent⟩ := shadow
  obtain ⟨shadows, rfl⟩ := beside
  cases s with
  | encode cmd =>
    refine Or.inl ⟨script, synced_encode engine synced, rfl, ?_, ?_⟩
    · obtain ⟨frames, limit, longer, block⟩ := shadows
      have queued : 0 < shadow.expectedQueue.length := Nat.zero_lt_of_lt longer
      simp only [step, encode_codec]
      refine ⟨⟨frames, limit, by simpa using longer, ?_⟩, rfl⟩
      refine block.imp_right ?_
      rintro ⟨opened, astray⟩
      refine ⟨opened, ?_⟩
      have first := (gathers_iff queued [cmd.expectedResponse]).mp astray
      rw [gathers_iff (by simp) []]
      simpa using first
    · simp only [step, encode_codec, Expects, kinds, commands, List.map_cons, List.append_assoc,
        List.singleton_append]
  | receive chunk =>
    exact Or.inl ⟨script, synced_receive engine synced, rfl, ⟨shadows, rfl⟩, Iff.rfl⟩
  | poll =>
    rcases meets_decoded (synced_poll synced) shadows with
      ⟨after, next, rest, out, more, decoding, shadowDecoding, later, together, expects⟩ |
      ⟨⟨text, reported⟩, unexpected⟩
    · rw [decoded, Prod.mk.injEq] at decoding shadowDecoding
      obtain ⟨rfl, decoding⟩ := decoding
      obtain ⟨rfl, shadowDecoding⟩ := shadowDecoding
      simp only [step, decoding, shadowDecoding]
      exact Or.inl ⟨more, synced_forget (forget_forget _) later sent, trivial,
        ⟨shadows_forget (forget_forget _) (forget_forget _) together, rfl⟩,
        expects.trans (expects_forget (forget_forget _) _ _)⟩
    · refine Or.inr ⟨⟨text, ?_⟩, unexpected⟩
      have same : (shadow.decode buffer).2.2 = _ := reported
      simp [step, same, events]

theorem meets_run (engine : Bytes → Text) {e shadow : Endpoint}
    (synced : Synced e script steps blockLeft kindsLeft) (beside : Beside e shadow) :
    (∃ more, Synced (run engine e steps).1 more [] blockLeft kindsLeft ∧
        (run engine shadow steps).2 = (run engine e steps).2 ∧
        Beside (run engine e steps).1 (run engine shadow steps).1 ∧
        (Expects shadow.codec (kinds steps) script ↔
          Expects (run engine shadow steps).1.codec [] more)) ∨
      (∃ text, .ok (.unrecognized text .unexpectedLine) ∈ (run engine shadow steps).2) ∧
        ¬ Expects shadow.codec (kinds steps) script := by
  induction steps generalizing e shadow script with
  | nil => exact Or.inl ⟨script, synced, rfl, beside, Iff.rfl⟩
  | cons s later ih =>
    rcases meets_step engine synced beside with ⟨more, next, same, together, expects⟩ |
      ⟨⟨text, reported⟩, unexpected⟩
    · rcases ih next together with ⟨final, done, tail, last, left⟩ | ⟨⟨text, reported⟩, unexpected⟩
      · refine Or.inl ⟨final, done, ?_, last, expects.trans left⟩
        simp only [run, same, tail]
      · refine Or.inr ⟨⟨text, ?_⟩, fun expected => unexpected (expects.mp expected)⟩
        simp only [run, List.mem_append]
        exact Or.inr reported
    · refine Or.inr ⟨⟨text, ?_⟩, unexpected⟩
      simp only [run, List.mem_append]
      exact Or.inl reported

/-- With everything received, the shadow reads the script as the codec does exactly when it
    expects all of it. -/
theorem meets_drained {c shadow : OvpnCodec} {sent : Bytes}
    (synced : Synced ⟨c, wire script, sent⟩ script [] blockLeft kindsLeft)
    (shadows : Shadows c shadow) :
    ((drained shadow (wire script)).2 = (drained c (wire script)).2 ∧ Expects shadow [] script) ∨
      (∃ text, .ok (.unrecognized text .unexpectedLine) ∈ (drained shadow (wire script)).2.2) ∧
        ¬ Expects shadow [] script := by
  induction script generalizing c shadow with
  | nil =>
    rw [drained_nil, drained_nil]
    exact Or.inl ⟨rfl, trivial⟩
  | cons raw more ih =>
    have whole : newline ∈ wire (raw :: more) := by simp [wire_cons]
    have clean := synced.clean raw (by simp)
    obtain ⟨_, _, rest, after, out, messages, ⟨⟩, shape, -, taken, -, -, later⟩ :=
      synced_line synced whole
    obtain rfl : wire more = rest := by
      rw [wire_cons] at shape
      simpa using shape
    have meets := meets_synced synced shadows whole
    rw [drained_raw c clean, drained_raw shadow clean, taken]
    rcases shadowTaken : shadow.takeBytes (toUtf8 raw ++ [newline]) with ⟨next, shadowOut⟩
    simp only [Meets, taken, shadowTaken] at meets
    rcases meets with ⟨rfl, together, expects⟩ | ⟨⟨text, rfl⟩, unexpected⟩
    · have tail := ih later together
      simp only [report, kinds, commands, List.map_nil] at expects ⊢
      rcases tail with ⟨same, expected⟩ | ⟨⟨text, reported⟩, unexpected⟩
      · exact Or.inl ⟨by simp only [same], expects.mpr expected⟩
      · exact Or.inr ⟨⟨text, List.mem_append_right _ reported⟩,
          fun expected => unexpected (expects.mp expected)⟩
    · exact Or.inr ⟨⟨text, by simp [report]⟩, unexpected⟩

theorem synced_recognized (engine : Bytes → Text) {e : Endpoint}
    (synced : Synced e script steps blockLeft kindsLeft) (text : Text) (kind : UnrecognizedKind) :
    .ok (.unrecognized text kind) ∉ (runDrained engine e steps).2.2 := by
  rw [(synced_runDrained engine synced).1]
  intro member
  obtain ⟨message, found, same⟩ := List.mem_map.mp member
  obtain rfl : message = .unrecognized text kind := by simpa using same
  have others := (transcript_responses (r := readerOf e.codec) synced.follows synced.calm).2
  rcases others _ found with response | note
  · cases response
  · cases note

/-- The shadow decodes what its endpoint decodes exactly when it expects the rest of the script. -/
theorem beside_iff (engine : Bytes → Text) {e shadow : Endpoint}
    (synced : Synced e script steps blockLeft kindsLeft) (beside : Beside e shadow) :
    (runDrained engine shadow steps).2 = (runDrained engine e steps).2 ↔
      Expects shadow.codec (kinds steps) script := by
  have differs : (∃ text, .ok (.unrecognized text .unexpectedLine) ∈
      (runDrained engine shadow steps).2.2) →
      (runDrained engine shadow steps).2 ≠ (runDrained engine e steps).2 := by
    rintro ⟨text, reported⟩ same
    rw [same] at reported
    exact synced_recognized engine synced text _ reported
  rcases meets_run engine synced beside with ⟨more, later, same, together, expects⟩ |
    ⟨⟨text, reported⟩, unexpected⟩
  · obtain ⟨stream, ended⟩ := synced_received later
    rw [expects]
    rcases meets_drained ended together.codec with ⟨tail, expected⟩ | ⟨⟨text, reported⟩, unexpected⟩
    · refine iff_of_true ?_ expected
      have tail : (drain (run engine shadow steps).1.codec (wire more)).2 =
        (drain (run engine e steps).1.codec (wire more)).2 := tail
      simp only [runDrained, report, together.buffer, stream, same, tail]
    · refine iff_of_false (differs ⟨text, ?_⟩) unexpected
      simp only [runDrained, report, together.buffer, stream, List.mem_append]
      exact Or.inr reported
  · refine iff_of_false (differs ⟨text, ?_⟩) unexpected
    simp only [runDrained, report, List.mem_append]
    exact Or.inl reported

end Runs

/-! A command that gets no response -/

/-- At any point of a run in step with the server, one more command that is answered by silence
    changes nothing of what is decoded later exactly when, with its entry in the queue, every block
    still meets an entry that expects one. -/
theorem silent_command_transparent_iff (engine : Bytes → Text) {e : Endpoint} {cmd : OvpnCommand}
    {script : List Text} {steps : List Step} {blockLeft : Option (List Text)}
    {kindsLeft : List ResponseKind} (silent : cmd.expectedResponse = .noResponse)
    (synced : Synced e script steps blockLeft kindsLeft) :
    (runDrained engine (step engine e (.encode cmd)).1 steps).2 = (runDrained engine e steps).2 ↔
      BlocksExpected e.codec.multiLineBuf.isSome
        (e.codec.expectedQueue ++ .noResponse :: kinds steps) (replies script) := by
  have beside : Beside e (step engine e (.encode cmd)).1 := by
    simp only [step, encode_codec]
    exact ⟨⟨rfl, rfl, by simp, Or.inl rfl⟩, rfl⟩
  rw [beside_iff engine synced beside, Expects]
  simp only [step, encode_codec, silent, List.append_assoc, List.singleton_append]

/-- A one-line answer does not look at the entry it meets. -/
theorem silent_command_before_pid :
    (runDrained (fun _ => []) (step (fun _ => []) (fresh .unlimited) (.encode (.setVersion 3))).1
        [.encode .pid, .receive (wire [lit "SUCCESS: pid=1"])]).2 =
      (runDrained (fun _ => []) (fresh .unlimited)
        [.encode .pid, .receive (wire [lit "SUCCESS: pid=1"])]).2 := by
  have spoken : replies [lit "SUCCESS: pid=1"] = [lit "SUCCESS: pid=1"] := by decide +kernel
  have single : IsSingle (lit "SUCCESS: pid=1") := by decide +kernel
  have synced : Synced (fresh .unlimited) [lit "SUCCESS: pid=1"]
      [.encode .pid, .receive (wire [lit "SUCCESS: pid=1"])] none [] := by
    refine ⟨by decide +kernel, by decide +kernel, ?_, by decide +kernel, calm_of_unlimited rfl _⟩
    rw [spoken]
    exact .single single (.done _ _)
  exact (silent_command_transparent_iff _ (by decide) synced).mpr (by decide +kernel)

/-- `version 3` and then `status`: the block meets the entry of `version 3`. -/
theorem silent_command_shifts_status :
    (OvpnCommand.setVersion 3).expectedResponse = .noResponse ∧
      Synced (fresh (.max 10000)) [lit "up", endMarker]
        [.encode (.status .v1), .receive (wire [lit "up", endMarker])] none [] ∧
      (runDrained (fun _ => [])
          (step (fun _ => []) (fresh (.max 10000)) (.encode (.setVersion 3))).1
          [.encode (.status .v1), .receive (wire [lit "up", endMarker])]).2 ≠
        (runDrained (fun _ => []) (fresh (.max 10000))
          [.encode (.status .v1), .receive (wire [lit "up", endMarker])]).2 := by
  refine ⟨by decide, ⟨by decide +kernel, by decide +kernel, ?_, by decide +kernel,
    calm_of_unlimited rfl _⟩, by decide +kernel⟩
  have spoken : replies [lit "up", endMarker] = [lit "up", endMarker] := by decide +kernel
  rw [spoken]
  refine .body (by decide +kernel) ?_ (.blockEnd (.done _ _))
  rintro buf most ⟨⟩

end MgmtSilence
