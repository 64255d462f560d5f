import OpenvpnMgmt.Calls
import OpenvpnMgmt.ClientBlocks

/-!
Whose lines a block holds. Every line that joins the open block is put down to the command at the
front of the queue; the code keeps no such record, so it is kept beside the run.
-/
namespace MgmtBlockOwners
open TextOps Utf8Text LineFraming MgmtEncoder MgmtCommand MgmtMessage MgmtFrame MgmtCodec
  MgmtDraining MgmtServerStream MgmtMatching MgmtPipelining MgmtBlocks MgmtCalls MgmtClientBlocks

/- An open block belongs to a pending command that expects one. -/
def BlockOwned (c : OvpnCodec) : Prop :=
  c.multiLineBuf.isSome → c.expectedQueue.head? = some .multiLine

instance (c : OvpnCodec) : Decidable (BlockOwned c) := inferInstanceAs (Decidable (_ → _))

def IsAnswerLine (lineBytes : Bytes) : Prop := ∃ line ∈ lineText lineBytes, IsSingle line

/- An answer line while a block is open. -/
def Interrupts (c : OvpnCodec) (lineBytes : Bytes) : Prop :=
  c.multiLineBuf.isSome ∧ IsAnswerLine lineBytes

/- No call of `decode` in the run takes a line that interrupts a block. -/
def Undisturbed (engine : Bytes → Text) : Endpoint → List Step → Prop
  | _, [] => True
  | e, .poll :: more =>
    (∀ t ∈ taken e.codec e.buffer, ¬ Interrupts t.1 t.2) ∧
      Undisturbed engine (step engine e .poll).1 more
  | e, s :: more => Undisturbed engine (step engine e s).1 more

/-! The record -/

def blockOf : Event → Option (List Text)
  | .ok (.multiLine lines) => some lines
  | _ => none

def blocks (out : List Event) : List (List Text) := out.filterMap blockOf

@[simp] theorem blocks_nil : blocks [] = [] := rfl

@[simp] theorem blocks_error (e : IoError) : blocks [.error e] = [] := rfl

@[simp] theorem blocks_multiLine (lines : List Text) : blocks [.ok (.multiLine lines)] = [lines] :=
  rfl

theorem blocks_append (out later : List Event) : blocks (out ++ later) = blocks out ++ blocks later :=
  List.filterMap_append

/- Commands are numbered as they are encoded, from 0; this is the one at the front. -/
def frontNumber (issued : Nat) (c : OvpnCodec) : Nat := issued - c.expectedQueue.length

/-- The lines of the open block, and those of each block handed out with the command it answers;
    each line with the command it came in for. -/
structure Origins where
  block : List (Nat × Text)
  responses : List (Nat × List (Nat × Text))

def putDown (number : Nat) (block : List (Nat × Text)) : Option (List Text) → List (Nat × Text)
  | some lines => block ++ (lines.drop block.length).map fun line => (number, line)
  | none => []

def Origins.take (issued : Nat) (o : Origins) (t : OvpnCodec × Bytes) : Origins :=
  let (after, out) := t.1.takeBytes t.2
  let front := frontNumber issued t.1
  ⟨putDown front o.block after.multiLineBuf,
    o.responses ++ (blocks out.toList).map fun _ => (front, o.block)⟩

structure Watch where
  endpoint : Endpoint
  issued : Nat
  origins : Origins

def Watch.step (engine : Bytes → Text) (w : Watch) (s : Step) : Watch :=
  let next := (MgmtMatching.step engine w.endpoint s).1
  match s with
  | .encode _ => ⟨next, w.issued + 1, w.origins⟩
  | .receive _ => ⟨next, w.issued, w.origins⟩
  | .poll =>
    ⟨next, w.issued,
      (taken w.endpoint.codec w.endpoint.buffer).foldl (Origins.take w.issued) w.origins⟩

def watch (engine : Bytes → Text) (w : Watch) (steps : List Step) : Watch :=
  steps.foldl (Watch.step engine) w

structure Records (issued : Nat) (c : OvpnCodec) (o : Origins) : Prop where
  lines : o.block.map Prod.snd = c.multiLineBuf.getD []
  filled : c.multiLineBuf ≠ some []
  counted : c.expectedQueue.length ≤ issued

/- The open block belongs to the command at the front, every line of it included, and no block
   was handed out with a line of another command. -/
structure Unmixed (issued : Nat) (c : OvpnCodec) (o : Origins) : Prop where
  owned : BlockOwned c
  block : ∀ line ∈ o.block, line.1 = frontNumber issued c
  responses : ∀ r ∈ o.responses, ∀ line ∈ r.2, line.1 = r.1

/-! One line -/

inductive Effect (c after : OvpnCodec) (lineBytes : Bytes) : Option Event → Prop
  | passes {out} (calm : ¬ IsAnswerLine lineBytes) (block : after.multiLineBuf = c.multiLineBuf)
    (queue : after.expectedQueue = c.expectedQueue) (other : blocks out.toList = []) :
    Effect c after lineBytes out
  | joins (line : Text) (calm : ¬ IsAnswerLine lineBytes)
    (due : c.multiLineBuf.isSome ∨ c.expectedFront = .multiLine)
    (block : after.multiLineBuf = some (c.multiLineBuf.getD [] ++ [line]))
    (queue : after.expectedQueue = c.expectedQueue) : Effect c after lineBytes none
  | answers {out} (single : IsAnswerLine lineBytes ∨ c.multiLineBuf = none)
    (block : after.multiLineBuf = c.multiLineBuf)
    (queue : after.expectedQueue = c.expectedQueue.tail) (other : blocks out.toList = []) :
    Effect c after lineBytes out
  | ends (calm : ¬ IsAnswerLine lineBytes) (block : after.multiLineBuf = none)
    (queue : after.expectedQueue = c.expectedQueue.tail) :
    Effect c after lineBytes (some (.ok (.multiLine (c.multiLineBuf.getD []))))
  | drops {e} (calm : ¬ IsAnswerLine lineBytes) (block : after.multiLineBuf = none)
    (queue : after.expectedQueue = []) : Effect c after lineBytes (some (.error e))

section Frames
variable {c : OvpnCodec} {lineBytes : Bytes} (calm : ¬ IsAnswerLine lineBytes)
include calm

theorem takeLine_effect (line : Text) :
    Effect c (c.takeLine line).1 lineBytes (c.takeLine line).2 := by
  unfold OvpnCodec.takeLine
  split
  · exact .passes calm rfl rfl rfl
  · split
    · exact .passes calm rfl rfl rfl
    · cases block : c.multiLineBuf with
      | some buf =>
        have due : c.multiLineBuf.isSome := by simp [block]
        cases c.maxMultiLineLines with
        | unlimited => exact .joins line calm (Or.inl due) (by simp [block]) rfl
        | max most =>
          simp only
          split
          · exact .passes calm rfl rfl rfl
          · exact .joins line calm (Or.inl due) (by simp [block]) rfl
      | none =>
        cases front : c.expectedFront with
        | multiLine => exact .joins line calm (Or.inr front) (by simp [block]) rfl
        | _ => exact .answers (Or.inr block) rfl rfl rfl

theorem takeEnd_effect : Effect c c.takeEnd.1 lineBytes c.takeEnd.2 := by
  unfold OvpnCodec.takeEnd
  cases block : c.multiLineBuf with
  | some lines =>
    have ended := @Effect.ends c { c with multiLineBuf := none }.consumeExpected lineBytes calm
      rfl rfl
    rwa [block] at ended
  | none =>
    simp only
    split
    · have ended := @Effect.ends c c.consumeExpected lineBytes calm block rfl
      rwa [block] at ended
    · exact .passes calm rfl rfl rfl

end Frames

theorem Effect.ofFrames {c after : OvpnCodec} {d : FrameDecoder} {lineBytes : Bytes}
    {out : Option Event} (effect : Effect (c.withFrames d) after lineBytes out) :
    Effect c after lineBytes out := by
  cases effect with
  | passes calm block queue other => exact .passes calm block queue other
  | joins line calm due block queue => exact .joins line calm due block queue
  | answers single block queue other => exact .answers single block queue other
  | ends calm block queue => exact .ends calm block queue
  | drops calm block queue => exact .drops calm block queue

theorem takeLine_answer {d after : FrameDecoder} {line : Text} {frame : Frame}
    (taken : d.takeLine line = (after, some (.ok frame)))
    (answer : (∃ text, frame = .success text) ∨ ∃ text, frame = .error text) : IsSingle line := by
  unfold FrameDecoder.takeLine at taken
  split at taken
  · cases taken
    simp at answer
  · split at taken
    · unfold FrameDecoder.takeEnv at taken
      split at taken
      · cases taken
        simp at answer
      · simp only at taken
        split at taken <;> cases taken
    · unfold FrameDecoder.classify at taken
      split at taken
      · rename_i found
        exact Or.inl ⟨_, (stripPrefix_eq_some.mp found).symm⟩
      · split at taken
        · rename_i found
          exact Or.inr ⟨_, (stripPrefix_eq_some.mp found).symm⟩
        · unfold FrameDecoder.takeNotice at taken
          repeat' split at taken
          all_goals
            cases taken
            try simp at answer

theorem notice_noBlock {frame : Frame} {message : OvpnMessage} (kind : IsNoticeFrame frame)
    (known : frameMessage frame = some message) : blocks [.ok message] = [] := by
  obtain ⟨_, same, note⟩ := notice_message kind
  obtain rfl : message = _ := Option.some.inj (known.symm.trans same)
  cases message <;> first | rfl | cases note

theorem takeBytes_effect (c : OvpnCodec) (lineBytes : Bytes) :
    Effect c (c.takeBytes lineBytes).1 lineBytes (c.takeBytes lineBytes).2 := by
  rw [OvpnCodec.takeBytes]
  cases text : lineText lineBytes with
  | none =>
    rw [takeBytes_unreadable c.frameDecoder text]
    exact .drops (by simp [IsAnswerLine, text]) rfl rfl
  | some line =>
    rw [takeBytes_lineText c.frameDecoder text]
    by_cases single : IsSingle line
    · obtain ⟨found, ⟨x, frame⟩ | ⟨x, frame⟩⟩ := takeLine_single c.frameDecoder single
      all_goals
        rw [found, frame]
        exact .answers (Or.inl ⟨line, text, single⟩) rfl rfl rfl
    · have calm : ¬ IsAnswerLine lineBytes := by
        rintro ⟨other, found, answer⟩
        rw [text, Option.mem_some_iff] at found
        exact single (found ▸ answer)
      rcases found : c.frameDecoder.takeLine line with ⟨d, _ | e | frame⟩
      · exact .passes calm rfl rfl rfl
      · exact .drops calm rfl rfl
      · cases frame with
        | success x => exact absurd (takeLine_answer found (Or.inl ⟨x, rfl⟩)) single
        | error x => exact absurd (takeLine_answer found (Or.inr ⟨x, rfl⟩)) single
        | endMarker => exact (takeEnd_effect calm).ofFrames
        | line x => exact (takeLine_effect calm x).ofFrames
        | notification kind payload =>
          exact .passes calm rfl rfl (@notice_noBlock (.notification kind payload) _ trivial rfl)
        | clientEnv event args env =>
          exact .passes calm rfl rfl (@notice_noBlock (.clientEnv event args env) _ trivial rfl)
        | _ => exact .passes calm rfl rfl rfl

theorem frontNumber_tail {issued : Nat} {c after : OvpnCodec} (pending : c.expectedQueue ≠ [])
    (counted : c.expectedQueue.length ≤ issued)
    (queue : after.expectedQueue = c.expectedQueue.tail) :
    frontNumber issued after = frontNumber issued c + 1 := by
  have := List.length_pos_iff.mpr pending
  rw [frontNumber, frontNumber, queue, List.length_tail]
  omega

section PuttingDown
variable {number : Nat} {block : List (Nat × Text)} {buf : Option (List Text)}
  (lines : block.map Prod.snd = buf.getD [])
include lines

theorem putDown_same : putDown number block buf = block := by
  cases buf with
  | none => simpa [putDown] using lines.symm
  | some old =>
    have length : old.length = block.length := by rw [← List.length_map Prod.snd, lines]; rfl
    simp [putDown, ← length]

theorem putDown_joined (line : Text) :
    putDown number block (some (buf.getD [] ++ [line])) = block ++ [(number, line)] := by
  have length : (buf.getD []).length = block.length := by rw [← lines, List.length_map]
  simp [putDown, ← length]

end PuttingDown

def Origins.texts (o : Origins) : List (List Text) := o.responses.map fun r => r.2.map Prod.snd

theorem take_records {issued : Nat} {c : OvpnCodec} {o : Origins} (records : Records issued c o)
    (lineBytes : Bytes) :
    Records issued (c.takeBytes lineBytes).1 (o.take issued (c, lineBytes)) ∧
      (o.take issued (c, lineBytes)).texts =
        o.texts ++ blocks (c.takeBytes lineBytes).2.toList := by
  obtain ⟨lines, filled, counted⟩ := records
  have fewer : c.expectedQueue.tail.length ≤ issued := by
    rw [List.length_tail]
    omega
  have effect := takeBytes_effect c lineBytes
  simp only [Origins.take, Origins.texts]
  generalize c.takeBytes lineBytes = taken at effect
  obtain ⟨after, out⟩ := taken
  simp only at effect ⊢
  cases effect with
  | passes _ block queue other =>
    rw [other, block, putDown_same lines]
    exact ⟨⟨by rw [lines, block], by rwa [block], by rwa [queue]⟩, by simp⟩
  | joins line _ _ block queue =>
    rw [block, putDown_joined lines]
    exact ⟨⟨by simp [lines, block], by simp [block], by rwa [queue]⟩, by simp⟩
  | answers _ block queue other =>
    rw [other, block, putDown_same lines]
    exact ⟨⟨by rw [lines, block], by rwa [block], by rwa [queue]⟩, by simp⟩
  | ends _ block queue =>
    rw [block]
    exact ⟨⟨by simp [putDown, block], by simp [block], by rwa [queue]⟩, by
      simp [lines]⟩
  | drops _ block queue =>
    rw [block]
    exact ⟨⟨by simp [putDown, block], by simp [block], by simp [queue]⟩, by simp⟩

/-- An answer inside a block takes the command away from under the lines before it. -/
theorem take_unmixed {issued : Nat} {c : OvpnCodec} {o : Origins} (records : Records issued c o)
    (unmixed : Unmixed issued c o) (lineBytes : Bytes) :
    Unmixed issued (c.takeBytes lineBytes).1 (o.take issued (c, lineBytes)) ↔
      ¬ Interrupts c lineBytes := by
  obtain ⟨lines, filled, counted⟩ := records
  obtain ⟨owned, inFront, responses⟩ := unmixed
  have effect := takeBytes_effect c lineBytes
  simp only [Origins.take]
  generalize c.takeBytes lineBytes = taken at effect
  obtain ⟨after, out⟩ := taken
  simp only at effect ⊢
  cases effect with
  | passes calm block queue other =>
    refine iff_of_true ?_ (fun here => calm here.2)
    rw [other, block, putDown_same lines]
    have front : frontNumber issued after = frontNumber issued c := by simp [frontNumber, queue]
    exact ⟨by rwa [BlockOwned, block, queue], by rwa [front], by simpa using responses⟩
  | joins line calm due block queue =>
    refine iff_of_true ?_ (fun here => calm here.2)
    rw [block, putDown_joined lines]
    have front : frontNumber issued after = frontNumber issued c := by simp [frontNumber, queue]
    refine ⟨fun _ => ?_, ?_, by simpa using responses⟩
    · rw [queue]
      rcases due with open_ | front
      · exact owned open_
      · simp only [OvpnCodec.expectedFront] at front
        cases pending : c.expectedQueue with
        | nil => simp [pending] at front
        | cons kind more => simpa [pending] using front
    · intro l member
      rw [front]
      rcases List.mem_append.mp member with old | new
      · exact inFront l old
      · rw [List.mem_singleton.mp new]
  | answers single block queue other =>
    rw [other, block, putDown_same lines, List.map_nil, List.append_nil]
    cases open_ : c.multiLineBuf with
    | none =>
      have empty : o.block = [] := by simpa [open_] using lines
      refine iff_of_true ⟨?_, by simp [empty], responses⟩ ?_
      · simp [BlockOwned, block, open_]
      · rintro ⟨block, -⟩
        simp [open_] at block
    | some buf =>
      have here : Interrupts c lineBytes := by
        refine ⟨by simp [open_], single.resolve_right (by simp [open_])⟩
      refine iff_of_false ?_ (not_not_intro here)
      rintro ⟨-, moved, -⟩
      have pending : c.expectedQueue ≠ [] := by
        intro nothing
        simpa [nothing] using owned here.1
      have nonempty : o.block ≠ [] := by
        intro nothing
        rw [nothing, open_] at lines
        exact filled (by rw [open_]; simpa using lines.symm)
      obtain ⟨l, more, first⟩ := List.exists_cons_of_ne_nil nonempty
      have before := inFront l (by simp [first])
      have behind := moved l (by simp [first])
      rw [frontNumber_tail pending counted queue] at behind
      omega
  | ends calm block queue =>
    refine iff_of_true ⟨by simp [BlockOwned, block], by simp [putDown, block], ?_⟩
      (fun here => calm here.2)
    intro r member
    rcases List.mem_append.mp member with old | new
    · exact responses r old
    · have : r = (frontNumber issued c, o.block) := by simpa using new
      rw [this]
      exact inFront
  | drops calm block queue =>
    refine iff_of_true ⟨by simp [BlockOwned, block], by simp [putDown, block], ?_⟩
      (fun here => calm here.2)
    simpa using responses

/-! One call, and a run -/

theorem records_forget {issued : Nat} {a b : OvpnCodec} (same : forget a = forget b) {o : Origins}
    (records : Records issued a o) : Records issued b o := by
  obtain ⟨queue, block, -, -⟩ := forget_fields same
  exact ⟨by rw [records.lines, block], by rw [← block]; exact records.filled,
    by rw [← queue]; exact records.counted⟩

theorem unmixed_forget {issued : Nat} {a b : OvpnCodec} (same : forget a = forget b)
    (o : Origins) : Unmixed issued a o ↔ Unmixed issued b o := by
  obtain ⟨queue, block, -, -⟩ := forget_fields same
  have front : frontNumber issued a = frontNumber issued b := by rw [frontNumber, frontNumber, queue]
  have owned : BlockOwned a ↔ BlockOwned b := by rw [BlockOwned, BlockOwned, queue, block]
  constructor
  · rintro ⟨first, second, third⟩
    exact ⟨owned.mp first, by rwa [← front], third⟩
  · rintro ⟨first, second, third⟩
    exact ⟨owned.mpr first, by rwa [front], third⟩

theorem interrupts_reported {c : OvpnCodec} {lineBytes : Bytes} (here : Interrupts c lineBytes) :
    (c.takeBytes lineBytes).2 ≠ none := by
  obtain ⟨-, line, text, single⟩ := here
  rw [OvpnCodec.takeBytes, takeBytes_lineText c.frameDecoder text]
  obtain ⟨found, ⟨x, frame⟩ | ⟨x, frame⟩⟩ := takeLine_single c.frameDecoder single
  all_goals
    rw [found, frame]
    simp [OvpnCodec.takeFrame]

theorem call_records {issued : Nat} {c after : OvpnCodec} {src rest : Bytes}
    {out : Except IoError (Option OvpnMessage)} (call : Call c src after rest out) {o : Origins}
    (records : Records issued c o) :
    Records issued after ((taken c src).foldl (Origins.take issued) o) ∧
      ((taken c src).foldl (Origins.take issued) o).texts = o.texts ++ blocks (events out) := by
  induction call generalizing o with
  | quiet unfinished =>
    rw [taken_open _ unfinished]
    exact ⟨records_forget (forget_forget _).symm records, by simp [events]⟩
  | prompt unfinished =>
    rw [taken_open _ unfinished]
    exact ⟨records_forget (forget_forget _).symm records, by simp [events, blocks, blockOf]⟩
  | @result c after body rest out clean line =>
    obtain ⟨kept, texts⟩ := take_records records (body ++ [newline])
    rw [taken_line c clean]
    rw [line] at kept texts ⊢
    refine ⟨records_forget (forget_forget _).symm kept, ?_⟩
    cases out <;> exact texts
  | @silent c after last body rest left out clean line more ih =>
    obtain ⟨kept, texts⟩ := take_records records (body ++ [newline])
    rw [taken_line c clean]
    rw [line] at kept texts ⊢
    obtain ⟨keptLast, textsLast⟩ := ih kept
    refine ⟨keptLast, ?_⟩
    rw [List.foldl_cons, textsLast, texts]
    simp

theorem call_unmixed {issued : Nat} {c after : OvpnCodec} {src rest : Bytes}
    {out : Except IoError (Option OvpnMessage)} (call : Call c src after rest out) {o : Origins}
    (records : Records issued c o) (unmixed : Unmixed issued c o) :
    Unmixed issued after ((taken c src).foldl (Origins.take issued) o) ↔
      ∀ t ∈ taken c src, ¬ Interrupts t.1 t.2 := by
  induction call generalizing o with
  | quiet unfinished =>
    rw [taken_open _ unfinished, unmixed_forget (forget_forget _)]
    exact iff_of_true unmixed (by simp)
  | prompt unfinished =>
    rw [taken_open _ unfinished, unmixed_forget (forget_forget _)]
    exact iff_of_true unmixed (by simp)
  | @result c after body rest out clean line =>
    have here := take_unmixed records unmixed (body ++ [newline])
    rw [taken_line c clean, line, unmixed_forget (forget_forget _)]
    rw [line] at here
    simpa using here
  | @silent c after last body rest left out clean line more ih =>
    have calm : ¬ Interrupts c (body ++ [newline]) := by
      intro here
      exact interrupts_reported here (by rw [line])
    have next := (take_unmixed records unmixed (body ++ [newline])).mpr calm
    have kept := (take_records records (body ++ [newline])).1
    rw [taken_line c clean, line]
    rw [line] at next kept
    simpa [calm] using ih kept next

section Runs
variable (engine : Bytes → Text)

def Watch.Records (w : Watch) : Prop :=
  MgmtBlockOwners.Records w.issued w.endpoint.codec w.origins

def Watch.Unmixed (w : Watch) : Prop :=
  MgmtBlockOwners.Unmixed w.issued w.endpoint.codec w.origins

theorem watch_cons (w : Watch) (s : Step) (more : List Step) :
    watch engine w (s :: more) = watch engine (w.step engine s) more := rfl

theorem step_records {w : Watch} (records : w.Records) (s : Step) :
    (w.step engine s).Records ∧
      (w.step engine s).origins.texts =
        w.origins.texts ++ blocks (step engine w.endpoint s).2 := by
  cases s with
  | encode cmd =>
    refine ⟨?_, by simp [Watch.step, step]⟩
    obtain ⟨lines, filled, counted⟩ := records
    simp only [Watch.Records, Watch.step, step, encode_codec]
    exact ⟨lines, filled, by simpa using counted⟩
  | receive chunk => exact ⟨records, by simp [Watch.step, step]⟩
  | poll =>
    have call := decode_call w.endpoint.codec w.endpoint.buffer
    obtain ⟨kept, texts⟩ := call_records call records
    exact ⟨records_forget (forget_forget _) kept, texts⟩

/-- The watch is the run it watches, and its blocks are those of the run. -/
theorem watch_run {w : Watch} (records : w.Records) (steps : List Step) :
    (watch engine w steps).endpoint = (run engine w.endpoint steps).1 ∧
      (watch engine w steps).Records ∧
      (watch engine w steps).origins.texts =
        w.origins.texts ++ blocks (run engine w.endpoint steps).2 := by
  induction steps generalizing w with
  | nil => exact ⟨rfl, records, by simp [watch, run]⟩
  | cons s more ih =>
    obtain ⟨kept, texts⟩ := step_records engine records s
    obtain ⟨endpoint, keptLast, textsLast⟩ := ih kept
    have same : (w.step engine s).endpoint = (step engine w.endpoint s).1 := by cases s <;> rfl
    rw [watch_cons]
    refine ⟨by rw [endpoint, same]; rfl, keptLast, ?_⟩
    rw [textsLast, texts, same, List.append_assoc, ← blocks_append]
    rfl

theorem step_unmixed {w : Watch} (records : w.Records) (unmixed : w.Unmixed) (s : Step) :
    (w.step engine s).Unmixed ↔ Undisturbed engine w.endpoint [s] := by
  cases s with
  | encode cmd =>
    refine iff_of_true ?_ trivial
    obtain ⟨owned, inFront, responses⟩ := unmixed
    simp only [Watch.Unmixed, Watch.step, step, encode_codec]
    refine ⟨?_, ?_, responses⟩
    · intro block
      have front := owned block
      cases queue : w.endpoint.codec.expectedQueue with
      | nil => simp [queue] at front
      | cons first more => simpa [queue] using front
    · intro line member
      rw [inFront line member]
      simp [frontNumber]
  | receive chunk => exact iff_of_true unmixed trivial
  | poll =>
    have call := decode_call w.endpoint.codec w.endpoint.buffer
    have decoding := call_unmixed call records unmixed
    rw [unmixed_forget (forget_forget _)] at decoding
    exact decoding.trans (by simp [Undisturbed])

theorem undisturbed_cons (e : Endpoint) (s : Step) (more : List Step) :
    Undisturbed engine e (s :: more) ↔
      Undisturbed engine e [s] ∧ Undisturbed engine (step engine e s).1 more := by
  cases s <;> simp [Undisturbed]

/-- No state of a run mixes the lines of two commands exactly when no line interrupts a block. -/
theorem unmixed_run {w : Watch} (records : w.Records) (unmixed : w.Unmixed) (steps : List Step) :
    (∀ earlier, earlier <+: steps → (watch engine w earlier).Unmixed) ↔
      Undisturbed engine w.endpoint steps := by
  induction steps generalizing w with
  | nil =>
    refine iff_of_true (fun earlier front => ?_) trivial
    rw [List.prefix_nil.mp front]
    exact unmixed
  | cons s more ih =>
    have here := step_unmixed engine records unmixed s
    have same : (w.step engine s).endpoint = (step engine w.endpoint s).1 := by cases s <;> rfl
    have kept := (step_records engine records s).1
    rw [undisturbed_cons, ← here, ← same]
    constructor
    · intro all
      have next : (w.step engine s).Unmixed := all [s] (by simp)
      exact ⟨next, (ih kept next).mp fun earlier front => all (s :: earlier) (by simpa using front)⟩
    · rintro ⟨next, calm⟩ earlier front
      rcases List.prefix_cons_iff.mp front with rfl | ⟨later, rfl, inner⟩
      · exact unmixed
      · exact (ih kept next).mpr calm later inner

end Runs

def freshWatch (e : Endpoint) : Watch := ⟨e, 0, ⟨[], []⟩⟩

theorem issued_run (engine : Bytes → Text) (w : Watch) (steps : List Step) :
    (watch engine w steps).issued = w.issued + (commands steps).length := by
  induction steps generalizing w with
  | nil => rfl
  | cons s more ih =>
    rw [watch_cons, ih]
    cases s with
    | encode cmd =>
      simp only [Watch.step, commands, List.length_cons]
      omega
    | _ => rfl

/-- For any run of a fresh codec, however configured. -/
theorem accumulation_owned_iff (engine : Bytes → Text) (limit envLimit : AccumulationLimit)
    (mode : EncoderMode) (steps : List Step) :
    let start : Endpoint := ⟨((OvpnCodec.new.withMaxMultiLineLines limit).withMaxClientEnvEntries
      envLimit).withEncoderMode mode, [], []⟩
    let watched := watch engine (freshWatch start)
    ((watched steps).endpoint = (run engine start steps).1 ∧
        (watched steps).issued = (commands steps).length ∧
        (watched steps).origins.block.map Prod.snd =
          (run engine start steps).1.codec.multiLineBuf.getD [] ∧
        (watched steps).origins.texts = blocks (run engine start steps).2) ∧
      ((∀ earlier, earlier <+: steps →
          BlockOwned (run engine start earlier).1.codec ∧ (watched earlier).Unmixed) ↔
        Undisturbed engine start steps) := by
  intro start watched
  have closed : start.codec.multiLineBuf = none := rfl
  have records : (freshWatch start).Records :=
    ⟨rfl, by rw [freshWatch, closed]; simp, Nat.le_refl 0⟩
  have unmixed : (freshWatch start).Unmixed := by
    refine ⟨fun block => ?_, List.forall_mem_nil _, List.forall_mem_nil _⟩
    simp [freshWatch, closed] at block
  obtain ⟨endpoint, kept, texts⟩ := watch_run engine records steps
  refine ⟨⟨endpoint, ?_, ?_, texts⟩, ?_⟩
  · exact (issued_run engine (freshWatch start) steps).trans (Nat.zero_add _)
  · have lines := kept.lines
    rw [endpoint] at lines
    exact lines
  · refine Iff.trans ?_ (unmixed_run engine records unmixed steps)
    refine forall_congr' fun earlier => imp_congr_right fun _ => ?_
    have same := (watch_run engine records earlier).1
    refine and_iff_right_of_imp fun apart => ?_
    have owned := apart.owned
    rwa [same] at owned

/-- `status`, one line of its answer, then an answer line: the block outlives its command. With a
    second command behind it, the line comes out in front of that one's answer. -/
theorem accumulation_orphaned :
    ¬ BlockOwned (run (fun _ => []) ⟨OvpnCodec.new, [], []⟩
      [.encode (.status .v1), .receive (wire [lit "up", lit "SUCCESS: x"]), .poll]).1.codec ∧
    (run (fun _ => []) ⟨OvpnCodec.new, [], []⟩
      [.encode (.status .v1), .encode .version, .receive (wire [lit "up", lit "SUCCESS: x"]), .poll,
        .receive (wire [lit "v", endMarker]), .poll]).2 =
      [.ok (.success (lit "x")), .ok (.multiLine [lit "up", lit "v"])] := by
  decide +kernel

end MgmtBlockOwners
