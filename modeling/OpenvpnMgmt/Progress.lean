import OpenvpnMgmt.Draining

/-!
The two loops of `decode` as rounds, without a budget. Every buffer has finitely many of them, the
last of which returns; what a call leaves is a suffix of its buffer, and calling `decode` over and
over comes to rest before the bytes run out.
-/
namespace MgmtProgress
open Utf8Text LineFraming MgmtEncoder MgmtMessage MgmtFrame MgmtCodec MgmtDraining

/-- The rounds of the frame decoder's loop, up to the one that returns. -/
inductive FrameRounds : FrameDecoder → Bytes → FrameDecoder → Bytes →
    Except IoError (Option Frame) → Prop
  | wait {d : FrameDecoder} {src : Bytes} (unfinished : splitLine newline src = none)
    (other : src.dropPrefix? (toUtf8 pwPrompt) = none) : FrameRounds d src d src (.ok none)
  | prompt {d : FrameDecoder} {src rest : Bytes} (unfinished : splitLine newline src = none)
    (found : src.dropPrefix? (toUtf8 pwPrompt) = some rest) :
    FrameRounds d src d (if rest.head? = some carriageReturn then rest.tail else rest)
      (.ok (some .passwordPrompt))
  | stop {d after : FrameDecoder} {src line rest : Bytes} {out : Except IoError Frame}
    (first : splitLine newline src = some (line, rest))
    (taken : d.takeBytes line = (after, some out)) : FrameRounds d src after rest (out.map some)
  | next {d after last : FrameDecoder} {src line rest left : Bytes}
    {out : Except IoError (Option Frame)} (first : splitLine newline src = some (line, rest))
    (taken : d.takeBytes line = (after, none)) (more : FrameRounds after rest last left out) :
    FrameRounds d src last left out

inductive CodecRounds : OvpnCodec → Bytes → OvpnCodec → Bytes →
    Except IoError (Option OvpnMessage) → Prop
  | wait {c : OvpnCodec} {d : FrameDecoder} {src rest : Bytes}
    (frames : FrameRounds c.frameDecoder src d rest (.ok none)) :
    CodecRounds c src
      { c.withFrames d with
        frameDecoderAccumulating :=
          c.frameDecoderAccumulating || decide (rest.length < src.length) } rest (.ok none)
  | fail {c : OvpnCodec} {d : FrameDecoder} {src rest : Bytes} {e : IoError}
    (frames : FrameRounds c.frameDecoder src d rest (.error e)) :
    CodecRounds c src (c.withFrames d).reset rest (.error e)
  | stop {c after : OvpnCodec} {d : FrameDecoder} {src rest : Bytes} {frame : Frame}
    {out : Except IoError OvpnMessage}
    (frames : FrameRounds c.frameDecoder src d rest (.ok (some frame)))
    (taken : (c.withFrames d).takeFrame frame = (after, some out)) :
    CodecRounds c src after rest (out.map some)
  | next {c after last : OvpnCodec} {d : FrameDecoder} {src rest left : Bytes} {frame : Frame}
    {out : Except IoError (Option OvpnMessage)}
    (frames : FrameRounds c.frameDecoder src d rest (.ok (some frame)))
    (taken : (c.withFrames d).takeFrame frame = (after, none))
    (more : CodecRounds after rest last left out) : CodecRounds c src last left out

/-! The loops return -/

theorem frame_rounds (d : FrameDecoder) (src : Bytes) :
    FrameRounds d src (d.decode src).1 (d.decode src).2.1 (d.decode src).2.2 := by
  induction h : src.length using Nat.strongRecOn generalizing d src with
  | ind n ih =>
    rcases open_or_line newline src with unfinished | ⟨body, rest, clean, rfl⟩
    · have whole := splitLine_open unfinished
      cases found : src.dropPrefix? (toUtf8 pwPrompt) with
      | none =>
        simp only [FrameDecoder.decode, FrameDecoder.decodeFuel, whole, found]
        exact .wait whole found
      | some rest =>
        simp only [FrameDecoder.decode, FrameDecoder.decodeFuel, whole, found]
        exact .prompt whole found
    · have first := splitLine_line clean rest
      simp only [List.length_append, List.length_cons] at h
      rw [frameDecode_line d clean]
      rcases taken : d.takeBytes (body ++ [newline]) with ⟨after, _ | e | frame⟩
      · exact .next first taken (ih rest.length (by omega) after rest rfl)
      · exact .stop first taken
      · exact .stop first taken

theorem codec_rounds (c : OvpnCodec) (src : Bytes) :
    CodecRounds c src (c.decode src).1 (c.decode src).2.1 (c.decode src).2.2 := by
  induction h : src.length using Nat.strongRecOn generalizing c src with
  | ind n ih =>
    have frames := frame_rounds c.frameDecoder src
    rw [decode_round]
    rcases step : c.frameDecoder.decode src with ⟨d, rest, e | _ | frame⟩
    · rw [step] at frames
      exact .fail frames
    · rw [step] at frames
      exact .wait frames
    · have shorter := frameDecode_shrinks step (by simp)
      rw [step] at frames
      rcases taken : (c.withFrames d).takeFrame frame with ⟨after, _ | out⟩
      · simp only [taken]
        exact .next frames taken (ih rest.length (by omega) after rest rfl)
      · simp only [taken]
        exact .stop frames taken

/-! What they leave -/

theorem splitLine_suffix {line rest src : Bytes}
    (first : splitLine newline src = some (line, rest)) : rest <:+ src := by
  rcases open_or_line newline src with unfinished | ⟨body, more, clean, rfl⟩
  · rw [splitLine_open unfinished] at first
    cases first
  · rw [splitLine_line clean] at first
    cases first
    exact ⟨body ++ [newline], by simp⟩

theorem frameRounds_suffix {d after : FrameDecoder} {src rest : Bytes}
    {out : Except IoError (Option Frame)} (rounds : FrameRounds d src after rest out) :
    rest <:+ src := by
  induction rounds with
  | wait => exact List.suffix_rfl
  | @prompt _ src rest _ found =>
    obtain ⟨start, whole, -⟩ := List.dropPrefix?_eq_some_iff.mp found
    have behind : rest <:+ src := ⟨start, whole.symm⟩
    split
    · exact (List.tail_suffix rest).trans behind
    · exact behind
  | stop first taken => exact splitLine_suffix first
  | next first taken more ih => exact ih.trans (splitLine_suffix first)

theorem frameDecode_consumes (d : FrameDecoder) {src : Bytes}
    (more : newline ∈ src ∨ toUtf8 pwPrompt <+: src) : (d.decode src).2.1.length < src.length := by
  rcases open_or_line newline src with unfinished | ⟨body, rest, clean, rfl⟩
  · obtain ⟨rest, rfl⟩ := more.resolve_left unfinished
    have prompt := frameDecode_prompt d unfinished
    have shorter := frameDecode_shrinks prompt (by simp)
    rw [prompt]
    exact shorter
  · rw [frameDecode_line d clean]
    rcases d.takeBytes (body ++ [newline]) with ⟨after, _ | e | frame⟩
    all_goals simp only [List.length_append, List.length_cons]
    · have shorter := (frameRounds_suffix (frame_rounds after rest)).length_le
      omega
    · omega
    · omega

theorem codecRounds_suffix {c after : OvpnCodec} {src rest : Bytes}
    {out : Except IoError (Option OvpnMessage)} (rounds : CodecRounds c src after rest out) :
    rest <:+ src := by
  induction rounds with
  | wait frames => exact frameRounds_suffix frames
  | fail frames => exact frameRounds_suffix frames
  | stop frames taken => exact frameRounds_suffix frames
  | next frames taken more ih => exact ih.trans (frameRounds_suffix frames)

theorem decode_quiet {c : OvpnCodec} {src : Bytes} (quiet : (c.decode src).2.2 = .ok none) :
    newline ∉ (c.decode src).2.1 ∧ ¬ toUtf8 pwPrompt <+: (c.decode src).2.1 := by
  have step : decoded c src = (forget (c.decode src).1, (c.decode src).2.1, .ok none) := by
    rw [decoded, ← quiet]
  exact decoded_quiet step

/-! Call after call -/

def afterCalls : Nat → OvpnCodec → Bytes → OvpnCodec × Bytes
  | 0, c, src => (c, src)
  | n + 1, c, src => afterCalls n (c.decode src).1 (c.decode src).2.1

theorem calls_come_to_rest (c : OvpnCodec) (src : Bytes) :
    ∃ n ≤ src.length,
      ((afterCalls n c src).1.decode (afterCalls n c src).2).2.2 = .ok none := by
  induction h : src.length using Nat.strongRecOn generalizing c src with
  | ind n ih =>
    by_cases quiet : (c.decode src).2.2 = .ok none
    · exact ⟨0, by omega, quiet⟩
    · have shorter : (c.decode src).2.1.length < src.length := decode_shrinks rfl quiet
      obtain ⟨calls, few, rest⟩ := ih _ (h ▸ shorter) (c.decode src).1 _ rfl
      exact ⟨calls + 1, by omega, rest⟩

/-- A call returns, and drops bytes from the front of the buffer only. Without a result it has
    consumed every whole line and there is no prompt to read; with one it has consumed something.
    So one call more than there are bytes is enough to come to rest. -/
theorem decode_progress (c : OvpnCodec) (src : Bytes) :
    CodecRounds c src (c.decode src).1 (c.decode src).2.1 (c.decode src).2.2 ∧
      (c.decode src).2.1 <:+ src ∧
      ((c.decode src).2.2 ≠ .ok none → (c.decode src).2.1.length < src.length) ∧
      ((c.decode src).2.2 = .ok none →
        newline ∉ (c.decode src).2.1 ∧ ¬ toUtf8 pwPrompt <+: (c.decode src).2.1) ∧
      ∃ calls, 1 ≤ calls ∧ calls ≤ src.length + 1 ∧
        ((afterCalls (calls - 1) c src).1.decode (afterCalls (calls - 1) c src).2).2.2 =
          .ok none := by
  have rounds := codec_rounds c src
  obtain ⟨calls, few, rest⟩ := calls_come_to_rest c src
  refine ⟨rounds, codecRounds_suffix rounds, ?_, decode_quiet, calls + 1, by omega, by omega, rest⟩
  intro result
  exact decode_shrinks rfl result

end MgmtProgress
