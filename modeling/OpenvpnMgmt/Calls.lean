import OpenvpnMgmt.Blocks

/-!
One call of `decode`, as the lines it takes: silent ones, and then the line, the prompt or the
unfinished line it stops at. The inductions over the lines of a call and over the steps of a run
are made here, once.
-/
namespace MgmtCalls
open TextOps Utf8Text LineFraming MgmtEncoder MgmtCommand MgmtMessage MgmtFrame MgmtCodec
  MgmtDraining MgmtMatching MgmtBlocks

/-- What a call makes of a codec and a buffer, up to the log flag. -/
inductive Call : OvpnCodec → Bytes → OvpnCodec → Bytes → Except IoError (Option OvpnMessage) → Prop
  | quiet {c : OvpnCodec} {src : Bytes} (unfinished : newline ∉ src)
    (other : ¬ toUtf8 pwPrompt <+: src) : Call c src (forget c) src (.ok none)
  | prompt {c : OvpnCodec} {rest : Bytes} (unfinished : newline ∉ toUtf8 pwPrompt ++ rest) :
    Call c (toUtf8 pwPrompt ++ rest) (forget c)
      (if rest.head? = some carriageReturn then rest.tail else rest) (.ok (some .passwordPrompt))
  | result {c after : OvpnCodec} {body rest : Bytes} {out : Except IoError OvpnMessage}
    (clean : newline ∉ body) (line : c.takeBytes (body ++ [newline]) = (after, some out)) :
    Call c (body ++ newline :: rest) (forget after) rest (out.map some)
  | silent {c after last : OvpnCodec} {body rest left : Bytes}
    {out : Except IoError (Option OvpnMessage)} (clean : newline ∉ body)
    (line : c.takeBytes (body ++ [newline]) = (after, none)) (more : Call after rest last left out) :
    Call c (body ++ newline :: rest) last left out

theorem decoded_call (c : OvpnCodec) (src : Bytes) :
    Call c src (decoded c src).1 (decoded c src).2.1 (decoded c src).2.2 := by
  induction h : src.length using Nat.strongRecOn generalizing c src with
  | ind n ih =>
    rcases open_or_line newline src with unfinished | ⟨body, rest, clean, rfl⟩
    · by_cases prompt : toUtf8 pwPrompt <+: src
      · obtain ⟨rest, rfl⟩ := prompt
        rw [decoded_prompt c unfinished]
        exact .prompt unfinished
      · rw [decoded_open c unfinished prompt]
        exact .quiet unfinished prompt
    · simp only [List.length_append, List.length_cons] at h
      rw [decoded_line c clean]
      rcases line : c.takeBytes (body ++ [newline]) with ⟨after, _ | out⟩
      · exact .silent clean line (ih rest.length (by omega) after rest rfl)
      · exact .result clean line

theorem decode_call (c : OvpnCodec) (src : Bytes) :
    Call c src (forget (c.decode src).1) (c.decode src).2.1 (c.decode src).2.2 :=
  decoded_call c src

section CleanLines
variable {inv : OvpnCodec → Prop} {emits : Event → Prop}
  (forgets : ∀ {a b}, forget a = forget b → inv a → inv b)
  (takes : ∀ {c body}, newline ∉ body → inv c →
    inv (c.takeBytes (body ++ [newline])).1 ∧
      ∀ event ∈ (c.takeBytes (body ++ [newline])).2, emits event)
  (prompts : emits (.ok .passwordPrompt))

include forgets takes prompts

theorem call_lines_invariant {c after : OvpnCodec} {src rest : Bytes}
    {out : Except IoError (Option OvpnMessage)} (call : Call c src after rest out) (start : inv c) :
    inv after ∧ ∀ event ∈ events out, emits event := by
  induction call with
  | quiet => exact ⟨forgets (forget_forget _).symm start, by simp [events]⟩
  | prompt => exact ⟨forgets (forget_forget _).symm start, by simpa [events] using prompts⟩
  | @result _ _ body _ out clean line =>
    have kept := takes clean start
    rw [line] at kept
    refine ⟨forgets (forget_forget _).symm kept.1, ?_⟩
    cases out <;> simpa [events, Except.map] using kept.2
  | @silent _ _ _ body _ _ _ clean line more ih =>
    have kept := takes clean start
    rw [line] at kept
    exact ih kept.1

theorem run_lines_invariant (encodes : ∀ {c} kind, inv c →
      inv { c with expectedQueue := c.expectedQueue ++ [kind] }) (engine : Bytes → Text)
    {e : Endpoint} (start : inv e.codec) (steps : List Step) :
    inv (run engine e steps).1.codec ∧ ∀ event ∈ (run engine e steps).2, emits event := by
  induction steps generalizing e with
  | nil => exact ⟨start, by simp [run]⟩
  | cons s more ih =>
    have next : inv (step engine e s).1.codec ∧ ∀ event ∈ (step engine e s).2, emits event := by
      cases s with
      | encode cmd =>
        simp only [step, encode_codec]
        exact ⟨encodes _ start, by simp⟩
      | receive chunk => exact ⟨start, by simp [step]⟩
      | poll =>
        obtain ⟨kept, reported⟩ :=
          call_lines_invariant forgets takes prompts (decode_call e.codec e.buffer) start
        exact ⟨forgets (forget_forget _) kept, reported⟩
    obtain ⟨last, later⟩ := ih next.1
    refine ⟨last, fun event member => ?_⟩
    simp only [run, List.mem_append] at member
    exact member.elim (next.2 event) (later event)

end CleanLines

section Invariants
variable {inv : OvpnCodec → Prop} {emits : Event → Prop}
  (forgets : ∀ {a b}, forget a = forget b → inv a → inv b)
  (takes : ∀ {c} line, inv c →
    inv (c.takeBytes line).1 ∧ ∀ event ∈ (c.takeBytes line).2, emits event)
  (prompts : emits (.ok .passwordPrompt))

include forgets takes prompts

theorem call_invariant {c after : OvpnCodec} {src rest : Bytes}
    {out : Except IoError (Option OvpnMessage)} (call : Call c src after rest out) (start : inv c) :
    inv after ∧ ∀ event ∈ events out, emits event :=
  call_lines_invariant forgets (fun _ holds => takes _ holds) prompts call start

/-- What every line and every command keeps, a run keeps. -/
theorem run_invariant (encodes : ∀ {c} kind, inv c →
      inv { c with expectedQueue := c.expectedQueue ++ [kind] }) (engine : Bytes → Text)
    {e : Endpoint} (start : inv e.codec) (steps : List Step) :
    inv (run engine e steps).1.codec ∧ ∀ event ∈ (run engine e steps).2, emits event :=
  run_lines_invariant forgets (fun _ holds => takes _ holds) prompts encodes engine start steps

end Invariants

theorem decode_keeps {inv : OvpnCodec → Prop} (forgets : ∀ {a b}, forget a = forget b → inv a → inv b)
    (takes : ∀ {c} line, inv c → inv (c.takeBytes line).1) {c : OvpnCodec} (start : inv c)
    (src : Bytes) : inv (c.decode src).1 := by
  have kept := (@call_invariant inv (fun _ => True) forgets
    (fun line holds => ⟨takes line holds, fun _ _ => trivial⟩) trivial _ _ _ _ _
    (decode_call c src) start).1
  exact forgets (forget_forget _) kept

theorem decode_emits {emits : Event → Prop}
    (takes : ∀ (c : OvpnCodec) line, ∀ event ∈ (c.takeBytes line).2, emits event)
    (prompts : emits (.ok .passwordPrompt)) (c : OvpnCodec) (src : Bytes) :
    ∀ event ∈ events (c.decode src).2.2, emits event :=
  (@call_invariant (fun _ => True) emits (fun _ _ => trivial)
    (fun line _ => ⟨trivial, takes _ line⟩) prompts _ _ _ _ _ (decode_call c src) trivial).2

def linesTaken (engine : Bytes → Text) : Endpoint → List Step → List Bytes
  | _, [] => []
  | e, .encode cmd :: more => linesTaken engine (step engine e (.encode cmd)).1 more
  | e, .receive chunk :: more => linesTaken engine (step engine e (.receive chunk)).1 more
  | e, .poll :: more =>
    (taken e.codec e.buffer).map Prod.snd ++ linesTaken engine (step engine e .poll).1 more

end MgmtCalls
