import OpenvpnMgmt.Codec

/-!
`decode` seen line by line. One call is the line machine `takeBytes` up to its first result;
calling it until it asks for more bytes is the machine over all whole lines of the buffer. Both
hold up to the one field that only a log message reads (`forget`).
-/
namespace MgmtDraining
open TextOps Utf8Text LineFraming MgmtEncoder MgmtCommand MgmtMessage MgmtFrame MgmtNotifications
  MgmtCodec

abbrev Event := Except IoError OvpnMessage

def forget (c : OvpnCodec) : OvpnCodec := { c with frameDecoderAccumulating := false }

def events : Except IoError (Option OvpnMessage) → List Event
  | .ok none => []
  | .ok (some message) => [.ok message]
  | .error e => [.error e]

def report (out : List Event) (r : OvpnCodec × Bytes × List Event) : OvpnCodec × Bytes × List Event :=
  (r.1, r.2.1, out ++ r.2.2)

/- `decode` until it asks for more bytes; errors do not end the loop. -/
def drainFuel : Nat → OvpnCodec → Bytes → OvpnCodec × Bytes × List Event
  | 0, c, src => (c, src, [])
  | fuel + 1, c, src =>
    match c.decode src with
    | (c, rest, .ok none) => (c, rest, [])
    | (c, rest, .ok (some message)) => report [.ok message] (drainFuel fuel c rest)
    | (c, rest, .error e) => report [.error e] (drainFuel fuel c rest)

def drain (c : OvpnCodec) (src : Bytes) : OvpnCodec × Bytes × List Event :=
  drainFuel (src.length + 1) c src

/-! The flag does not matter -/

theorem forget_forget (c : OvpnCodec) : forget (forget c) = forget c := rfl

theorem forget_fields {a b : OvpnCodec} (same : forget a = forget b) :
    a.expectedQueue = b.expectedQueue ∧ a.multiLineBuf = b.multiLineBuf ∧
      a.maxMultiLineLines = b.maxMultiLineLines ∧ a.frameDecoder = b.frameDecoder := by
  cases a
  cases b
  simp only [forget, OvpnCodec.mk.injEq] at same
  simp [same]

theorem takeLine_forget (c : OvpnCodec) (line : Text) :
    (forget c).takeLine line = (forget (c.takeLine line).1, (c.takeLine line).2) := by
  have front : (forget c).expectedFront = c.expectedFront := rfl
  have block : (forget c).multiLineBuf = c.multiLineBuf := rfl
  have limit : (forget c).maxMultiLineLines = c.maxMultiLineLines := rfl
  simp only [OvpnCodec.takeLine, front, block, limit]
  repeat' split
  all_goals rfl

theorem takeEnd_forget (c : OvpnCodec) :
    (forget c).takeEnd = (forget c.takeEnd.1, c.takeEnd.2) := by
  have front : (forget c).expectedFront = c.expectedFront := rfl
  have block : (forget c).multiLineBuf = c.multiLineBuf := rfl
  simp only [OvpnCodec.takeEnd, front, block]
  repeat' split
  all_goals rfl

theorem takeFrame_forget (c : OvpnCodec) (frame : Frame) :
    (forget c).takeFrame frame = (forget (c.takeFrame frame).1, (c.takeFrame frame).2) := by
  cases frame with
  | endMarker => exact takeEnd_forget c
  | line text => exact takeLine_forget c text
  | _ => rfl

theorem takeBytes_forget (c : OvpnCodec) (line : Bytes) :
    (forget c).takeBytes line = (forget (c.takeBytes line).1, (c.takeBytes line).2) := by
  have frames : (forget c).frameDecoder = c.frameDecoder := rfl
  have carried : ∀ d, (forget c).withFrames d = forget (c.withFrames d) := fun _ => rfl
  simp only [OvpnCodec.takeBytes, frames, carried]
  split
  · rfl
  · rfl
  · exact takeFrame_forget _ _

/-! The loop of `decode` -/

theorem decodeFuel_enough {fuel more : Nat} (c : OvpnCodec) {src : Bytes}
    (enough : src.length < fuel) (also : src.length < more) :
    c.decodeFuel fuel src = c.decodeFuel more src := by
  induction fuel generalizing c src more with
  | zero => omega
  | succ fuel ih =>
    obtain ⟨more, rfl⟩ : ∃ n, more = n + 1 := ⟨more - 1, by omega⟩
    simp only [OvpnCodec.decodeFuel]
    split
    · rfl
    · rfl
    · rename_i d rest frame step
      have shorter := frameDecode_shrinks step (by simp)
      split
      · rfl
      · rfl
      · exact ih _ (by omega) (by omega)

theorem decode_round (c : OvpnCodec) (src : Bytes) :
    c.decode src =
      match c.frameDecoder.decode src with
      | (d, rest, .ok none) =>
        ({ c.withFrames d with
            frameDecoderAccumulating :=
              c.frameDecoderAccumulating || decide (rest.length < src.length) }, rest, .ok none)
      | (d, rest, .error e) => ((c.withFrames d).reset, rest, .error e)
      | (d, rest, .ok (some frame)) =>
        match (c.withFrames d).takeFrame frame with
        | (c, some out) => (c, rest, out.map some)
        | (c, none) => c.decode rest := by
  rw [OvpnCodec.decode, OvpnCodec.decodeFuel]
  rcases step : c.frameDecoder.decode src with ⟨d, rest, e | _ | frame⟩
  · rfl
  · rfl
  · have shorter := frameDecode_shrinks step (by simp)
    rcases taken : (c.withFrames d).takeFrame frame with ⟨after, _ | e | message⟩
    · have same : after.decodeFuel src.length rest = after.decode rest :=
        decodeFuel_enough after (by omega) (by omega)
      simp only [taken, same]
    · simp only [taken]
      rfl
    · simp only [taken]
      rfl

theorem decode_unfinished (c : OvpnCodec) {src : Bytes} (unfinished : newline ∉ src) :
    (c.decode src).1 = c := by
  rw [decode_round]
  rcases frameDecode_open_cases c.frameDecoder unfinished with ⟨rest, rfl⟩ | same
  · rw [frameDecode_prompt _ unfinished]
    rfl
  · rw [same]
    simp [OvpnCodec.withFrames]

/- `decode` with the flag dropped from the codec it leaves. -/
def decoded (c : OvpnCodec) (src : Bytes) : OvpnCodec × Bytes × Except IoError (Option OvpnMessage) :=
  (forget (c.decode src).1, (c.decode src).2)

theorem decoded_eq (c : OvpnCodec) (src : Bytes) :
    decoded c src =
      match c.frameDecoder.decode src with
      | (d, rest, .ok none) => (forget (c.withFrames d), rest, .ok none)
      | (d, rest, .error e) => ((c.withFrames d).reset, rest, .error e)
      | (d, rest, .ok (some frame)) =>
        match (c.withFrames d).takeFrame frame with
        | (c, some out) => (forget c, rest, out.map some)
        | (c, none) => decoded c rest := by
  rw [decoded, decode_round]
  rcases c.frameDecoder.decode src with ⟨d, rest, e | _ | frame⟩
  · rfl
  · rfl
  · simp only
    rcases (c.withFrames d).takeFrame frame with ⟨after, _ | out⟩
    · rfl
    · rfl

theorem decoded_forget (c : OvpnCodec) (src : Bytes) : decoded (forget c) src = decoded c src := by
  induction h : src.length using Nat.strongRecOn generalizing c src with
  | ind n ih =>
    have frames : (forget c).frameDecoder = c.frameDecoder := rfl
    have carried : ∀ d, (forget c).withFrames d = forget (c.withFrames d) := fun _ => rfl
    rw [decoded_eq, decoded_eq, frames]
    split
    · rfl
    · rfl
    · rename_i d rest frame step
      have shorter := frameDecode_shrinks step (by simp)
      rw [carried, takeFrame_forget]
      cases (c.withFrames d).takeFrame frame with
      | mk after out =>
        cases out with
        | some result => rfl
        | none => exact ih rest.length (by omega) after rest rfl

theorem decoded_line (c : OvpnCodec) {body : Bytes} (clean : newline ∉ body) (rest : Bytes) :
    decoded c (body ++ newline :: rest) =
      match c.takeBytes (body ++ [newline]) with
      | (c, some out) => (forget c, rest, out.map some)
      | (c, none) => decoded c rest := by
  rw [decoded_eq, frameDecode_line _ clean, OvpnCodec.takeBytes]
  cases c.frameDecoder.takeBytes (body ++ [newline]) with
  | mk d out =>
    cases out with
    | some result => cases result <;> rfl
    | none =>
      -- The frame decoder stays in its own loop; a fresh round of the outer loop does the same.
      have carried : ∀ next, (c.withFrames d).withFrames next = c.withFrames next := fun _ => rfl
      simp only
      rw [decoded_eq (c.withFrames d) rest]
      simp only [carried]
      rfl

theorem decoded_prompt (c : OvpnCodec) {rest : Bytes}
    (unfinished : newline ∉ toUtf8 pwPrompt ++ rest) :
    decoded c (toUtf8 pwPrompt ++ rest) =
      (forget c, if rest.head? = some carriageReturn then rest.tail else rest,
        .ok (some .passwordPrompt)) := by
  rw [decoded_eq, frameDecode_prompt _ unfinished]
  rfl

theorem decoded_open (c : OvpnCodec) {src : Bytes} (unfinished : newline ∉ src)
    (other : ¬ toUtf8 pwPrompt <+: src) : decoded c src = (forget c, src, .ok none) := by
  rw [decoded_eq, frameDecode_open _ unfinished other]
  rfl

theorem decoded_shrinks {c after : OvpnCodec} {src rest : Bytes}
    {out : Except IoError (Option OvpnMessage)} (step : decoded c src = (after, rest, out))
    (result : out ≠ .ok none) : rest.length < src.length := by
  induction h : src.length using Nat.strongRecOn generalizing c src with
  | ind n ih =>
    rw [decoded_eq] at step
    split at step
    · obtain ⟨-, -, rfl⟩ := step
      contradiction
    · rename_i frameStep
      have := frameDecode_shrinks frameStep (by simp)
      obtain ⟨-, rfl, -⟩ := step
      omega
    · rename_i frameStep
      have shorter := frameDecode_shrinks frameStep (by simp)
      split at step
      · obtain ⟨-, rfl, -⟩ := step
        omega
      · have := ih _ (by omega) step rfl
        omega

/-- `decode` asks for more bytes only in front of an unfinished line that is no prompt. -/
theorem decoded_quiet {c after : OvpnCodec} {src rest : Bytes}
    (step : decoded c src = (after, rest, .ok none)) :
    newline ∉ rest ∧ ¬ toUtf8 pwPrompt <+: rest := by
  induction h : src.length using Nat.strongRecOn generalizing c src with
  | ind n ih =>
    rcases open_or_line newline src with unfinished | ⟨body, more, clean, rfl⟩
    · by_cases prompt : toUtf8 pwPrompt <+: src
      · obtain ⟨tail, rfl⟩ := prompt
        rw [decoded_prompt c unfinished] at step
        cases step
      · rw [decoded_open c unfinished prompt] at step
        cases step
        exact ⟨unfinished, prompt⟩
    · simp only [List.length_append, List.length_cons] at h
      rw [decoded_line c clean] at step
      split at step
      · rename_i result _
        cases result <;> cases step
      · exact ih more.length (by omega) step rfl

/-! Draining -/

theorem decode_shrinks {c after : OvpnCodec} {src rest : Bytes}
    {out : Except IoError (Option OvpnMessage)} (step : c.decode src = (after, rest, out))
    (result : out ≠ .ok none) : rest.length < src.length := by
  have normal : decoded c src = (forget after, rest, out) := by rw [decoded, step]
  exact decoded_shrinks normal result

theorem drainFuel_enough {fuel more : Nat} (c : OvpnCodec) {src : Bytes}
    (enough : src.length < fuel) (also : src.length < more) :
    drainFuel fuel c src = drainFuel more c src := by
  induction fuel generalizing c src more with
  | zero => omega
  | succ fuel ih =>
    obtain ⟨more, rfl⟩ : ∃ n, more = n + 1 := ⟨more - 1, by omega⟩
    simp only [drainFuel]
    split
    · rfl
    · rename_i after rest message step
      have shorter := decode_shrinks step (by simp)
      have same : drainFuel fuel after rest = drainFuel more after rest :=
        ih after (by omega) (by omega)
      rw [same]
    · rename_i after rest e step
      have shorter := decode_shrinks step (by simp)
      have same : drainFuel fuel after rest = drainFuel more after rest :=
        ih after (by omega) (by omega)
      rw [same]

theorem drainFuel_rest {c after : OvpnCodec} {src rest : Bytes}
    {out : Except IoError (Option OvpnMessage)} (step : c.decode src = (after, rest, out))
    (result : out ≠ .ok none) : drainFuel src.length after rest = drain after rest := by
  have shorter := decode_shrinks step result
  exact drainFuel_enough after shorter (Nat.lt_succ_self rest.length)

def drained (c : OvpnCodec) (src : Bytes) : OvpnCodec × Bytes × List Event :=
  (forget (drain c src).1, (drain c src).2)

theorem drained_step (c : OvpnCodec) (src : Bytes) :
    drained c src =
      match c.decode src with
      | (c, rest, .ok none) => (forget c, rest, [])
      | (c, rest, .ok (some message)) => report [.ok message] (drained c rest)
      | (c, rest, .error e) => report [.error e] (drained c rest) := by
  rw [drained, drain, drainFuel]
  rcases step : c.decode src with ⟨after, rest, e | _ | message⟩
  · have same := drainFuel_rest step (by simp)
    simp only [same]
    rfl
  · rfl
  · have same := drainFuel_rest step (by simp)
    simp only [same]
    rfl

theorem drained_forget (c : OvpnCodec) (src : Bytes) : drained (forget c) src = drained c src := by
  induction h : src.length using Nat.strongRecOn generalizing c src with
  | ind n ih =>
    have same := decoded_forget c src
    rw [decoded, decoded] at same
    rw [drained_step, drained_step c]
    rcases step : c.decode src with ⟨after, rest, out⟩
    rcases stepForget : (forget c).decode src with ⟨afterForget, restForget, outForget⟩
    simp only [step, stepForget, Prod.mk.injEq] at same
    obtain ⟨codec, rfl, rfl⟩ := same
    have tail : ∀ result : outForget ≠ .ok none,
        drained afterForget restForget = drained after restForget := by
      intro result
      have shorter := decode_shrinks step result
      rw [← ih restForget.length (by omega) after restForget rfl, ← codec,
        ih restForget.length (by omega) afterForget restForget rfl]
    rcases outForget with e | _ | message
    · simp only [tail (by simp)]
    · simp only [codec]
    · simp only [tail (by simp)]

theorem drained_eq (c : OvpnCodec) (src : Bytes) :
    drained c src =
      match decoded c src with
      | (c, rest, .ok none) => (c, rest, [])
      | (c, rest, .ok (some message)) => report [.ok message] (drained c rest)
      | (c, rest, .error e) => report [.error e] (drained c rest) := by
  rw [drained_step, decoded]
  rcases c.decode src with ⟨after, rest, e | _ | message⟩
  · simp only [drained_forget]
  · rfl
  · simp only [drained_forget]

theorem drained_line (c : OvpnCodec) {body : Bytes} (clean : newline ∉ body) (rest : Bytes) :
    drained c (body ++ newline :: rest) =
      report (c.takeBytes (body ++ [newline])).2.toList
        (drained (c.takeBytes (body ++ [newline])).1 rest) := by
  rw [drained_eq, decoded_line c clean]
  rcases c.takeBytes (body ++ [newline]) with ⟨after, _ | e | message⟩
  · simp only [Option.toList_none, report, List.nil_append]
    exact (drained_eq after rest).symm
  · simp only [Except.map, drained_forget, Option.toList_some]
  · simp only [Except.map, drained_forget, Option.toList_some]

theorem drained_open (c : OvpnCodec) {src : Bytes} (unfinished : newline ∉ src)
    (other : ¬ toUtf8 pwPrompt <+: src) : drained c src = (forget c, src, []) := by
  rw [drained_eq, decoded_open c unfinished other]

/- The codec as a machine over whole lines. -/
def lineMachine : Machine OvpnCodec UInt8 Event := fun c line =>
  (forget (c.takeBytes line).1, (c.takeBytes line).2.toList)

/-- Draining a buffer that does not end in a prompt feeds its whole lines to the machine. -/
theorem drained_eq_absorb (c : OvpnCodec) (src : Bytes)
    (noPrompt : ¬ toUtf8 pwPrompt <+: (cut newline src).2) :
    drained c src = absorb newline lineMachine (forget c) [] src := by
  induction h : src.length using Nat.strongRecOn generalizing c src with
  | ind n ih =>
    rcases open_or_line newline src with unfinished | ⟨body, rest, clean, rfl⟩
    · rw [cut_open unfinished] at noPrompt
      rw [drained_open c unfinished noPrompt, absorb, List.nil_append, cut_open unfinished]
      rfl
    · rw [cut_line clean] at noPrompt
      simp only [List.length_append, List.length_cons] at h
      rw [drained_line c clean, ih rest.length (by omega) _ rest noPrompt rfl]
      simp only [absorb, List.nil_append, cut_line clean, feed_cons, lineMachine, takeBytes_forget,
        forget_forget, report]

/-! Chunks -/

/- Chunks arrive one after the other, each drained before the next arrives. -/
def drainChunks : OvpnCodec → Bytes → List Bytes → OvpnCodec × Bytes × List Event
  | c, waiting, [] => (c, waiting, [])
  | c, waiting, chunk :: more =>
    let (c, rest, out) := drain c (waiting ++ chunk)
    report out (drainChunks c rest more)

/- No line, finished or not, starts with the prompt that is recognised without a line end. -/
def NoPromptLine (src : Bytes) : Prop := ∀ line ∈ pieces newline src, ¬ toUtf8 pwPrompt <+: line

instance (src : Bytes) : Decidable (NoPromptLine src) :=
  inferInstanceAs (Decidable (∀ line ∈ pieces newline src, _))

theorem noPromptLine_rest {a b : Bytes} (clean : NoPromptLine (a ++ b)) :
    ¬ toUtf8 pwPrompt <+: (cut newline a).2 := by
  obtain ⟨line, member, start⟩ := rest_prefix_of_piece newline a b
  exact fun prompt => clean line member (prompt.trans start)

theorem drainChunks_absorbAll (c : OvpnCodec) (waiting : Bytes) (chunks : List Bytes)
    (clean : NoPromptLine (waiting ++ chunks.flatten)) :
    (forget (drainChunks c waiting chunks).1, (drainChunks c waiting chunks).2) =
      absorbAll newline lineMachine (forget c) waiting chunks := by
  induction chunks generalizing c waiting with
  | nil => rfl
  | cons chunk more ih =>
    rw [List.flatten_cons, ← List.append_assoc] at clean
    have first := drained_eq_absorb c (waiting ++ chunk) (noPromptLine_rest clean)
    rcases step : drain c (waiting ++ chunk) with ⟨after, rest, out⟩
    rw [drained, step, absorb] at first
    simp only [Prod.mk.injEq, List.nil_append] at first
    obtain ⟨codec, rfl, rfl⟩ := first
    have tail := ih after (cut newline (waiting ++ chunk)).2
      fun line member => clean line (pieces_after_rest newline _ _ line member)
    simp only [drainChunks, step, absorbAll, absorb, report]
    rw [← codec, ← tail]

/-- However a stream is cut into chunks, the decoder reports the same messages and errors, keeps
    the same bytes and ends in the same state; only the log flag may differ. -/
theorem chunking_independent (c : OvpnCodec) (waiting chunk : Bytes) (more : List Bytes)
    (clean : NoPromptLine (waiting ++ (chunk :: more).flatten)) :
    (drainChunks c waiting (chunk :: more)).2 = (drain c (waiting ++ (chunk :: more).flatten)).2 ∧
      forget (drainChunks c waiting (chunk :: more)).1 =
        forget (drain c (waiting ++ (chunk :: more).flatten)).1 := by
  have last : ¬ toUtf8 pwPrompt <+: (cut newline (waiting ++ (chunk :: more).flatten)).2 :=
    clean _ (List.mem_append_right _ (List.mem_singleton_self _))
  have pieces := drainChunks_absorbAll c waiting (chunk :: more) clean
  have whole := drained_eq_absorb c _ last
  -- What was waiting may as well have come with the first chunk.
  have joined : absorbAll newline lineMachine (forget c) waiting (chunk :: more) =
      absorbAll newline lineMachine (forget c) [] ((waiting ++ chunk) :: more) := by
    simp only [absorbAll, absorb, List.nil_append]
  rw [joined, absorbAll_eq_absorb newline lineMachine _ _ (by simp), List.flatten_cons,
    List.append_assoc, ← List.flatten_cons, ← whole, drained, Prod.mk.injEq] at pieces
  exact ⟨pieces.2, pieces.1⟩

theorem chunking_independent_history :
    (drainChunks { OvpnCodec.new with expectedQueue := [.multiLine] } [0x61, 13]
      [[10, 0xC3], [0xA9, 10, 69, 78], [68, 10]]).2 = ([], [.ok (.multiLine [['a'], ['é']])]) := by
  have same := (chunking_independent { OvpnCodec.new with expectedQueue := [.multiLine] } [0x61, 13]
    [10, 0xC3] [[0xA9, 10, 69, 78], [68, 10]] (by decide +kernel)).1
  rw [same]
  decide +kernel

end MgmtDraining
