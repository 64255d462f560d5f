import OpenvpnMgmt.Silence

/-!
The password prompt, cut anywhere. It is recognised without its line end, so a line end that
arrives later is an empty line of its own, and that line is only passed over where no block is
being gathered.
-/
namespace MgmtPasswordPrompt
open TextOps Utf8Text LineFraming MgmtEncoder MgmtCommand MgmtMessage MgmtFrame MgmtCodec
  MgmtDraining MgmtServerStream MgmtMatching MgmtSilence

def IsEnding (ending : Bytes) : Prop := ending = [newline] ∨ ending = [carriageReturn, newline]

/- Some piece ends behind the prompt and before the newline of its line. -/
def CutsPrompt (waiting : Bytes) (chunks : List Bytes) : Prop :=
  ∃ earlier, earlier <+: chunks ∧ toUtf8 pwPrompt <+: waiting ++ earlier.flatten ∧
    newline ∉ waiting ++ earlier.flatten

/- One prompt, and queue and block as before. -/
def Unmoved (c : OvpnCodec) (out : List Event) (r : OvpnCodec × Bytes × List Event) : Prop :=
  r.2.2 = out ∧ r.1.expectedQueue = c.expectedQueue ∧ r.1.multiLineBuf = c.multiLineBuf

theorem prompt_longer {line : Bytes} (short : line.length < 15) : ¬ toUtf8 pwPrompt <+: line := by
  intro front
  have longer := front.length_le
  rw [pwPrompt_length] at longer
  omega

theorem noPromptLine_ending {ending : Bytes} (isEnding : IsEnding ending) :
    NoPromptLine ending := by
  intro line member
  refine prompt_longer ?_
  rcases isEnding with rfl | rfl
  all_goals
    simp only [pieces, cut, newline, carriageReturn] at member
    revert line
    decide

theorem newline_not_mem_early {rest : Bytes} (part : rest = [] ∨ rest = [carriageReturn]) :
    newline ∉ toUtf8 pwPrompt ++ rest := by
  rcases part with rfl | rfl
  · simpa using newline_not_mem_prompt
  · simpa [newline, carriageReturn] using newline_not_mem_prompt

theorem ending_text {ending : Bytes} (isEnding : IsEnding ending) :
    ∃ raw : Text, ending = toUtf8 raw ++ [newline] ∧ '\n' ∉ raw ∧ trimLineEnd raw = [] := by
  rcases isEnding with rfl | rfl
  · exact ⟨[], by simp, by simp, rfl⟩
  · exact ⟨['\r'], rfl, by simp, rfl⟩

theorem drained_whole (c : OvpnCodec) {ending : Bytes} (isEnding : IsEnding ending) :
    drained c (toUtf8 pwPrompt ++ ending) = (forget c, [], [.ok .passwordPrompt]) := by
  obtain ⟨raw, rfl, clean, blank⟩ := ending_text isEnding
  have whole : toUtf8 pwPrompt ++ (toUtf8 raw ++ [newline]) = wire [pwPrompt ++ raw] := by
    simp [wire, toUtf8_append]
  have oneLine : '\n' ∉ pwPrompt ++ raw := by
    simpa [pwPrompt, lit_eq] using clean
  rw [whole, drained_raw c oneLine, takeBytes_raw, trimLineEnd_prompt, blank, List.append_nil,
    takeLine_prompt]
  simp only [OvpnCodec.takeFrame, drained_nil, report]
  rfl

theorem drained_early (c : OvpnCodec) {rest : Bytes} (part : rest = [] ∨ rest = [carriageReturn]) :
    drained c (toUtf8 pwPrompt ++ rest) = (forget c, [], [.ok .passwordPrompt]) := by
  have unfinished := newline_not_mem_early part
  have left : (if rest.head? = some carriageReturn then rest.tail else rest) = [] := by
    rcases part with rfl | rfl <;> decide
  rw [drained_eq, decoded_prompt c unfinished, left]
  simp only [drained_forget]
  rw [drained_open c (by simp) (prompt_longer (by decide))]
  rfl

theorem takeBytes_full {c : OvpnCodec} {raw : Text} (plain : Unclaimed (trimLineEnd raw))
    {buf : List Text} {most : Nat} (block : c.multiLineBuf = some buf)
    (limit : c.maxMultiLineLines = .max most) (full : most ≤ buf.length) :
    c.takeBytes (toUtf8 raw ++ [newline]) =
      (c, some (.error (.multiLineAccumulationLimitExceeded most))) := by
  have kept : c.withFrames c.frameDecoder = c := rfl
  simp only [takeBytes_raw, takeLine_body _ plain, kept, OvpnCodec.takeFrame, OvpnCodec.takeLine,
    block, limit]
  rw [if_neg (by simp), if_neg (by simp [plain.notNotice]), if_pos full]

theorem drained_late (c : OvpnCodec) {ending : Bytes} (isEnding : IsEnding ending) :
    Unmoved c [] (drained c ending) ↔ ¬ Gathers c := by
  obtain ⟨raw, rfl, clean, blank⟩ := ending_text isEnding
  have whole : toUtf8 raw ++ [newline] = wire [raw] := by simp [wire]
  rw [whole, drained_raw c clean, drained_nil]
  by_cases gathers : Gathers c
  · refine iff_of_false ?_ (fun astray => astray gathers)
    have plain : Unclaimed (trimLineEnd raw) := blank ▸ unclaimed_nil
    by_cases room : HasRoom c.maxMultiLineLines c.multiLineBuf
    · rw [takeBytes_body plain gathers room]
      rintro ⟨-, -, block⟩
      cases opened : c.multiLineBuf <;> simp [report, forget, opened] at block
    · simp only [HasRoom, not_forall, Nat.not_lt] at room
      obtain ⟨buf, most, block, limit, full⟩ := room
      rw [takeBytes_full plain block limit full]
      rintro ⟨out, -, -⟩
      cases out
  · rw [takeBytes_blank blank gathers]
    exact iff_of_true ⟨rfl, rfl, rfl⟩ gathers

theorem unmoved_forget {a b : OvpnCodec} (same : forget a = forget b) {out : List Event}
    {r r' : OvpnCodec × Bytes × List Event} (codec : forget r.1 = forget r'.1) (rest : r.2 = r'.2) :
    Unmoved a out r ↔ Unmoved b out r' := by
  obtain ⟨queue, block, -, -⟩ := forget_fields same
  obtain ⟨queue', block', -, -⟩ := forget_fields codec
  rw [Unmoved, Unmoved, queue, block, queue', block', rest]

theorem gathers_forget {a b : OvpnCodec} (same : forget a = forget b) : Gathers a ↔ Gathers b := by
  obtain ⟨queue, block, -, -⟩ := forget_fields same
  rw [Gathers, Gathers, OvpnCodec.expectedFront, OvpnCodec.expectedFront, queue, block]

theorem drainChunks_late (c : OvpnCodec) {chunks : List Bytes} (isEnding : IsEnding chunks.flatten) :
    Unmoved c [] (drainChunks c [] chunks) ↔ ¬ Gathers c := by
  cases chunks with
  | nil => rcases isEnding with ending | ending <;> cases ending
  | cons chunk more =>
    have noPrompt : NoPromptLine ([] ++ (chunk :: more).flatten) := noPromptLine_ending isEnding
    obtain ⟨out, codec⟩ := chunking_independent c [] chunk more noPrompt
    rw [← drained_late c isEnding]
    exact unmoved_forget rfl (codec.trans (forget_forget _).symm) out

theorem drainChunks_nothing (c : OvpnCodec) {chunks : List Bytes} (empty : chunks.flatten = []) :
    forget (drainChunks c [] chunks).1 = forget c ∧ (drainChunks c [] chunks).2 = ([], []) := by
  induction chunks generalizing c with
  | nil => exact ⟨rfl, rfl⟩
  | cons chunk more ih =>
    obtain ⟨rfl, rest⟩ := List.append_eq_nil_iff.mp empty
    have quiet := drained_nil c
    rcases step : drain c [] with ⟨after, left, out⟩
    rw [show wire [] = [] from rfl, drained, step] at quiet
    simp only [Prod.mk.injEq] at quiet
    obtain ⟨codec, rfl, rfl⟩ := quiet
    obtain ⟨final, nothing⟩ := ih after rest
    simp only [drainChunks, List.nil_append, step, report, nothing]
    exact ⟨final.trans codec, trivial⟩

/-- What a piece of the line is: unfinished before the prompt, the prompt with the rest of the line
    still to come, or all of it. -/
theorem prompt_piece {ending piece rest : Bytes} (isEnding : IsEnding ending)
    (whole : piece ++ rest = toUtf8 pwPrompt ++ ending) :
    (newline ∉ piece ∧ ¬ toUtf8 pwPrompt <+: piece) ∨
    (∃ tail, piece = toUtf8 pwPrompt ++ tail ∧ (tail = [] ∨ tail = [carriageReturn]) ∧
      IsEnding rest) ∨
    piece = toUtf8 pwPrompt ++ ending ∧ rest = [] := by
  by_cases prompt : toUtf8 pwPrompt <+: piece
  · obtain ⟨tail, rfl⟩ := prompt
    have split : tail ++ rest = ending := by
      rw [List.append_assoc] at whole
      exact List.append_cancel_left whole
    rcases isEnding with rfl | rfl
    · rcases List.append_eq_cons_iff.mp split with ⟨rfl, same⟩ | ⟨_, rfl, nothing⟩
      · exact Or.inr (Or.inl ⟨[], rfl, Or.inl rfl, Or.inl same⟩)
      · obtain ⟨rfl, rfl⟩ := List.append_eq_nil_iff.mp nothing.symm
        exact Or.inr (Or.inr ⟨rfl, rfl⟩)
    · rcases List.append_eq_cons_iff.mp split with ⟨rfl, same⟩ | ⟨_, rfl, more⟩
      · exact Or.inr (Or.inl ⟨[], rfl, Or.inl rfl, Or.inr same⟩)
      · rcases List.append_eq_cons_iff.mp more.symm with ⟨rfl, same⟩ | ⟨_, rfl, nothing⟩
        · exact Or.inr (Or.inl ⟨[carriageReturn], rfl, Or.inr rfl, Or.inl same⟩)
        · obtain ⟨rfl, rfl⟩ := List.append_eq_nil_iff.mp nothing.symm
          exact Or.inr (Or.inr ⟨rfl, rfl⟩)
  · refine Or.inl ⟨fun member => ?_, prompt⟩
    have front : piece <+: toUtf8 pwPrompt ++ ending := ⟨rest, whole⟩
    rcases List.prefix_or_prefix_of_prefix front (List.prefix_append _ _) with inside | beyond
    · exact newline_not_mem_prompt (inside.subset member)
    · exact prompt beyond

theorem cutsPrompt_cons {waiting chunk : Bytes} {more : List Bytes}
    (early : ¬ toUtf8 pwPrompt <+: waiting) :
    CutsPrompt waiting (chunk :: more) ↔ CutsPrompt (waiting ++ chunk) more := by
  constructor
  · rintro ⟨earlier, front, prompt, open_⟩
    cases earlier with
    | nil => simp [early] at prompt
    | cons first later =>
      obtain ⟨rfl, inner⟩ := List.cons_prefix_cons.mp front
      rw [List.flatten_cons, ← List.append_assoc] at prompt open_
      exact ⟨later, inner, prompt, open_⟩
  · rintro ⟨later, front, prompt, open_⟩
    rw [List.append_assoc, ← List.flatten_cons] at prompt open_
    exact ⟨chunk :: later, List.cons_prefix_cons.mpr ⟨rfl, front⟩, prompt, open_⟩

theorem drainChunks_prompt {c : OvpnCodec} {waiting ending : Bytes} {chunks : List Bytes}
    (isEnding : IsEnding ending) (whole : waiting ++ chunks.flatten = toUtf8 pwPrompt ++ ending)
    (unfinished : newline ∉ waiting) (early : ¬ toUtf8 pwPrompt <+: waiting) :
    Unmoved c [.ok .passwordPrompt] (drainChunks c waiting chunks) ↔
      (Gathers c → ¬ CutsPrompt waiting chunks) := by
  induction chunks generalizing c waiting with
  | nil =>
    rw [List.flatten_nil, List.append_nil] at whole
    exact absurd ⟨ending, whole.symm⟩ early
  | cons chunk more ih =>
    rw [List.flatten_cons, ← List.append_assoc] at whole
    rw [cutsPrompt_cons early]
    rcases step : drain c (waiting ++ chunk) with ⟨after, left, out⟩
    simp only [drainChunks, step]
    rcases prompt_piece isEnding whole with ⟨clean, other⟩ | ⟨tail, piece, part, rest⟩ | ⟨piece, rest⟩
    · have quiet := drained_open c clean other
      rw [drained, step] at quiet
      simp only [Prod.mk.injEq] at quiet
      obtain ⟨codec, rfl, rfl⟩ := quiet
      rw [← gathers_forget codec, ← ih whole clean other]
      exact unmoved_forget codec.symm rfl rfl
    · have prompt := drained_early c part
      rw [← piece, drained, step] at prompt
      simp only [Prod.mk.injEq] at prompt
      obtain ⟨codec, rfl, rfl⟩ := prompt
      have clean := newline_not_mem_early part
      have cut : CutsPrompt (waiting ++ chunk) more :=
        ⟨[], List.nil_prefix, by simp [piece], by simpa [piece] using clean⟩
      have late := drainChunks_late after rest
      rw [gathers_forget codec] at late
      refine Iff.trans ?_ (late.trans ⟨fun astray gathers => absurd gathers astray,
        fun uncut gathers => uncut gathers cut⟩)
      obtain ⟨queue, block, -, -⟩ := forget_fields codec
      simp [Unmoved, report, queue, block]
    · have prompt := drained_whole c isEnding
      rw [← piece, drained, step] at prompt
      simp only [Prod.mk.injEq] at prompt
      obtain ⟨codec, rfl, rfl⟩ := prompt
      obtain ⟨final, nothing⟩ := drainChunks_nothing after rest
      obtain ⟨queue, block, -, -⟩ := forget_fields (final.trans codec)
      refine iff_of_true ⟨?_, queue, block⟩ ?_
      · simp only [report, nothing, List.append_nil]
      · rintro - ⟨_, -, -, open_⟩
        have newlineLast : newline ∈ ending := by rcases isEnding with rfl | rfl <;> simp
        exact open_ (by simp [piece, newlineLast])

/-- However the line is cut, it is one prompt and moves nothing else, exactly when no block is being
    gathered or no piece ends between the prompt and its newline. -/
theorem prompt_split_iff (c : OvpnCodec) {ending : Bytes} (isEnding : IsEnding ending)
    {chunks : List Bytes} (whole : chunks.flatten = toUtf8 pwPrompt ++ ending) :
    let r := drainChunks c [] chunks
    (r.2.2 = [.ok .passwordPrompt] ∧ r.1.expectedQueue = c.expectedQueue ∧
        r.1.multiLineBuf = c.multiLineBuf) ↔
      (Gathers c → ¬ CutsPrompt [] chunks) :=
  drainChunks_prompt isEnding whole (by simp) (prompt_longer (by decide))

/-- `status` is pending when the prompt comes: its late newline is taken for the first line of the
    answer. -/
theorem prompt_split_gathers :
    let c := (OvpnCodec.new.encode (fun _ => []) (.status .v1) []).1
    let r := drainChunks c [] [toUtf8 pwPrompt, [newline]]
    r.2.2 = [.ok .passwordPrompt] ∧ c.multiLineBuf = none ∧ r.1.multiLineBuf = some [[]] := by
  decide +kernel

theorem prompt_split_fresh :
    let r := drainChunks OvpnCodec.new [] [toUtf8 (lit "ENTER PASS"), toUtf8 (lit "WORD:"),
      [carriageReturn], [newline]]
    r.2.2 = [.ok .passwordPrompt] ∧ r.1.expectedQueue = [] ∧ r.1.multiLineBuf = none :=
  (prompt_split_iff OvpnCodec.new (Or.inr rfl) (by decide +kernel)).mpr
    fun gathers => absurd gathers (by rintro (block | front) <;> contradiction)

end MgmtPasswordPrompt
