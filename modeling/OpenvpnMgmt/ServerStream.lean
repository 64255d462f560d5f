import OpenvpnMgmt.Draining

/-!
What a server sends, as lines. A line behind `>` with a colon is a notice and may stand
anywhere; the other lines are the replies, and the replies of a well-behaved server are the
lines of its answers, one answer for every command, in order. `Follows` says which queue of
expected kinds a sequence of replies fits.
-/
namespace MgmtServerStream
open TextOps Utf8Text LineFraming MgmtEncoder MgmtCommand MgmtMessage MgmtFrame MgmtNotifications
  MgmtCodec MgmtDraining

/- The bytes of a script of lines; a line may end in carriage returns. -/
def wire (script : List Text) : Bytes := script.flatMap fun raw => toUtf8 raw ++ [newline]

def IsNotice (line : Text) : Prop := line.head? = some '>' ∧ ':' ∈ line.tail

instance (line : Text) : Decidable (IsNotice line) := inferInstanceAs (Decidable (_ ∧ _))

def IsSingle (line : Text) : Prop := lit "SUCCESS:" <+: line ∨ lit "ERROR:" <+: line

instance (line : Text) : Decidable (IsSingle line) := inferInstanceAs (Decidable (_ ∨ _))

structure Unclaimed (line : Text) : Prop where
  notNotice : line.head? ≠ some '>'
  notSuccess : ¬ lit "SUCCESS:" <+: line
  notError : ¬ lit "ERROR:" <+: line
  notPrompt : line ≠ pwPrompt
  notEnd : line ≠ endMarker

/-- A line that is not claimed however much of it has arrived: the prompt is recognised before its
    line ends. -/
structure IsBody (line : Text) : Prop extends Unclaimed line where
  notPromptStart : ¬ pwPrompt <+: line

instance (line : Text) : Decidable (Unclaimed line) :=
  decidable_of_iff (line.head? ≠ some '>' ∧ ¬ lit "SUCCESS:" <+: line ∧ ¬ lit "ERROR:" <+: line ∧
      line ≠ pwPrompt ∧ line ≠ endMarker)
    ⟨fun ⟨a, b, c, d, e⟩ => ⟨a, b, c, d, e⟩, fun ⟨a, b, c, d, e⟩ => ⟨a, b, c, d, e⟩⟩

theorem unclaimed_nil : Unclaimed [] where
  notNotice := by simp
  notSuccess := by simp [lit_eq]
  notError := by simp [lit_eq]
  notPrompt := by simp [pwPrompt, lit_eq]
  notEnd := by simp [endMarker]

instance (line : Text) : Decidable (IsBody line) :=
  decidable_of_iff (Unclaimed line ∧ ¬ pwPrompt <+: line)
    ⟨fun ⟨a, b⟩ => ⟨a, b⟩, fun ⟨a, b⟩ => ⟨a, b⟩⟩

/- The lines of a script that belong to answers, as the decoder reads them. -/
def replies (script : List Text) : List Text :=
  (script.map trimLineEnd).filter fun line => ¬ IsNotice line

inductive Answer where
  | success (text : Text)
  | error (text : Text)
  | block (lines : List Text)
  deriving DecidableEq, Repr

def Answer.lines : Answer → List Text
  | .success text => [lit "SUCCESS: " ++ text]
  | .error text => [lit "ERROR: " ++ text]
  | .block lines => lines ++ [endMarker]

def Answer.message : Answer → OvpnMessage
  | .success text => .success text
  | .error text => .error text
  | .block lines => .multiLine lines

def Within (limit : AccumulationLimit) (lines : List Text) : Prop :=
  ∀ most, limit = .max most → lines.length ≤ most

def Answers (limit : AccumulationLimit) : ResponseKind → Answer → Prop
  | .successOrError, .success _ => True
  | .successOrError, .error _ => True
  | .multiLine, .error _ => True
  | .multiLine, .block lines => (∀ line ∈ lines, IsBody line) ∧ Within limit lines
  | _, _ => False

/- How many answers have a line among these replies; an open block is one of them. -/
def responsesBegun : Bool → List Text → Nat
  | false, [] => 0
  | true, [] => 1
  | inBlock, line :: more =>
    if line = endMarker ∨ (inBlock = false ∧ IsSingle line) then responsesBegun false more + 1
    else responsesBegun true more

def HasRoom (limit : AccumulationLimit) (block : Option (List Text)) : Prop :=
  ∀ buf most, block = some buf → limit = .max most → buf.length < most

/-- The replies fit the kinds: with `block` open and `kinds` pending, they end with `blockLeft`
    open and `kindsLeft` pending. Only a block cares about its kind. -/
inductive Follows (limit : AccumulationLimit) :
    Option (List Text) → List ResponseKind → List Text → Option (List Text) →
      List ResponseKind → Prop where
  | done (block : Option (List Text)) (kinds : List ResponseKind) :
    Follows limit block kinds [] block kinds
  | single {kind : ResponseKind} {kinds kindsLeft : List ResponseKind} {line : Text}
    {more : List Text} {blockLeft : Option (List Text)} (answer : IsSingle line)
    (rest : Follows limit none kinds more blockLeft kindsLeft) :
    Follows limit none (kind :: kinds) (line :: more) blockLeft kindsLeft
  | blockEnd {block blockLeft : Option (List Text)} {kinds kindsLeft : List ResponseKind}
    {more : List Text} (rest : Follows limit none kinds more blockLeft kindsLeft) :
    Follows limit block (.multiLine :: kinds) (endMarker :: more) blockLeft kindsLeft
  | body {block blockLeft : Option (List Text)} {kinds kindsLeft : List ResponseKind}
    {line : Text} {more : List Text} (plain : IsBody line) (room : HasRoom limit block)
    (rest : Follows limit (some (block.getD [] ++ [line])) (.multiLine :: kinds) more blockLeft
      kindsLeft) :
    Follows limit block (.multiLine :: kinds) (line :: more) blockLeft kindsLeft

/-- The server's side of the story: the frame decoder and the open block, no queue. -/
structure Reader where
  frames : FrameDecoder
  block : Option (List Text)

def frameMessage : Frame → Option OvpnMessage
  | .success text => some (.success text)
  | .error text => some (.error text)
  | .notification kind payload => some (parseNotificationFromFrame kind payload)
  | .clientEnv event args env => some (parseClientEnv event args env)
  | .passwordPrompt => some .passwordPrompt
  | .info payload => some (.info payload)
  | .endMarker | .line _ => none

/- One line read as what the server means by it: an unclassified line belongs to a block, END
   ends it. -/
def Reader.take (r : Reader) (raw : Text) : Reader × List OvpnMessage :=
  match r.frames.takeLine (trimLineEnd raw) with
  | (d, none) => (⟨d, r.block⟩, [])
  | (d, some (.error _)) => (⟨d, none⟩, [])
  | (d, some (.ok .endMarker)) => (⟨d, none⟩, [.multiLine (r.block.getD [])])
  | (d, some (.ok (.line line))) => (⟨d, some (r.block.getD [] ++ [line])⟩, [])
  | (d, some (.ok frame)) => (⟨d, r.block⟩, (frameMessage frame).toList)

def transcript (r : Reader) (script : List Text) : List OvpnMessage := (feed Reader.take r script).2

/-! Line ends -/

def WholeLine (line : Text) : Prop := '\n' ∉ line ∧ line.getLast? ≠ some '\r'

instance (line : Text) : Decidable (WholeLine line) := inferInstanceAs (Decidable (_ ∧ _))

theorem trimLineEnd_whole {line : Text} (whole : WholeLine line) : trimLineEnd line = line := by
  refine List.rdropWhile_eq_self_iff.mpr fun nonempty => ?_
  have last := List.getLast?_eq_some_getLast nonempty
  have kept : line.getLast nonempty ≠ '\r' := fun same => whole.2 (by rw [last, same])
  have inside : line.getLast nonempty ≠ '\n' := fun same =>
    whole.1 (same ▸ List.getLast_mem nonempty)
  simp [kept, inside]

theorem trimLineEnd_newline (raw : Text) : trimLineEnd (raw ++ ['\n']) = trimLineEnd raw :=
  List.rdropWhile_concat_pos _ raw '\n' (by decide)

theorem trimLineEnd_append {start : Text} {last : Char} (kept : last ≠ '\r' ∧ last ≠ '\n')
    (rest : Text) : trimLineEnd (start ++ last :: rest) = start ++ last :: trimLineEnd rest :=
  rdropWhile_append_keep (by simp [kept]) start rest

theorem trimLineEnd_prompt (rest : Text) :
    trimLineEnd (pwPrompt ++ rest) = pwPrompt ++ trimLineEnd rest := by
  have shape (rest : Text) : pwPrompt ++ rest = lit "ENTER PASSWORD" ++ ':' :: rest := by
    simp [pwPrompt, lit_eq]
  rw [shape, shape, trimLineEnd_append (by decide)]

theorem takeBytes_text (d : FrameDecoder) (raw : Text) :
    d.takeBytes (toUtf8 raw ++ [newline]) = d.takeLine (trimLineEnd raw) := by
  have line : toUtf8 raw ++ [newline] = toUtf8 (raw ++ ['\n']) := by
    rw [toUtf8_append]
    rfl
  simp only [line, FrameDecoder.takeBytes, fromUtf8_toUtf8, trimLineEnd_newline]

/-! What the frame decoder makes of each kind of line -/

theorem stripPrefix_lit_head {t : Text} {word : String} {c : Char}
    (first : word.toList.head? = some c) (other : t.head? ≠ some c) : stripPrefix t (lit word) = none := by
  rw [stripPrefix_eq_none, lit_eq]
  rintro ⟨rest, rfl⟩
  cases letters : word.toList with
  | nil => simp [letters] at first
  | cons x xs =>
    rw [letters] at first other
    exact other first

def noticeLine (kind payload : Text) : Text := '>' :: (kind ++ ':' :: payload)

theorem isNotice_iff {line : Text} :
    IsNotice line ↔ ∃ kind payload, ':' ∉ kind ∧ line = noticeLine kind payload := by
  constructor
  · rintro ⟨first, colon⟩
    cases line with
    | nil => simp at first
    | cons c inner =>
      obtain rfl : c = '>' := by simpa using first
      rw [List.tail_cons] at colon
      obtain ⟨kind, payload, rfl, clean⟩ := List.eq_append_cons_of_mem colon
      exact ⟨kind, payload, clean, rfl⟩
  · rintro ⟨kind, payload, -, rfl⟩
    exact ⟨rfl, by simp [noticeLine]⟩

theorem splitOnce_colon {kind : Text} (clean : ':' ∉ kind) (payload : Text) :
    splitOnce (· == ':') (kind ++ ':' :: payload) = some (kind, payload) :=
  splitOnce_append (free_of clean) (by simp)

theorem noticeLine_inj {kind word payload rest : Text} (clean : ':' ∉ kind) (plain : ':' ∉ word)
    (shape : noticeLine kind payload = noticeLine word rest) : kind = word ∧ payload = rest := by
  have same := congrArg (fun line : Text => splitOnce (· == ':') line.tail) shape
  simp only [noticeLine, List.tail_cons, splitOnce_colon clean, splitOnce_colon plain,
    Option.some.injEq, Prod.mk.injEq] at same
  exact same

theorem client_plain : ':' ∉ lit "CLIENT" := by simp [lit_eq]

theorem classify_notice (d : FrameDecoder) {kind payload : Text} (clean : ':' ∉ kind) :
    d.classify (noticeLine kind payload) = d.takeNotice kind payload := by
  have success : stripPrefix (noticeLine kind payload) (lit "SUCCESS:") = none :=
    stripPrefix_lit_head (c := 'S') (by simp) (by simp [noticeLine])
  have error : stripPrefix (noticeLine kind payload) (lit "ERROR:") = none :=
    stripPrefix_lit_head (c := 'E') (by simp) (by simp [noticeLine])
  have prompt : noticeLine kind payload ≠ pwPrompt := by simp [noticeLine, pwPrompt, lit_eq]
  have notEnd : noticeLine kind payload ≠ endMarker := by simp [noticeLine, endMarker]
  have inner : stripPrefix (noticeLine kind payload) ['>'] = some (kind ++ ':' :: payload) :=
    stripPrefix_append ['>'] _
  simp only [FrameDecoder.classify, success, error, prompt, notEnd, inner, if_false,
    splitOnce_colon clean]

theorem takeLine_takeNotice (d : FrameDecoder) {kind : Text} (clean : ':' ∉ kind) (payload : Text)
    (passes : d.clientNotification = none ∨ kind ≠ lit "CLIENT") :
    d.takeLine (noticeLine kind payload) = d.takeNotice kind payload := by
  have nonempty : noticeLine kind payload ≠ [] := by simp [noticeLine]
  rw [FrameDecoder.takeLine, if_neg (by simp [nonempty])]
  split
  · rename_i rest opened found
    have other := passes.resolve_left (by simp [opened])
    have shape : noticeLine kind payload = noticeLine (lit "CLIENT") (lit "ENV," ++ rest) := by
      rw [stripPrefix_eq_some.mp found]
      simp [noticeLine, lit_eq]
    exact absurd (noticeLine_inj clean client_plain shape).1 other
  · exact classify_notice d clean

theorem IsSingle.notEnd {line : Text} (single : IsSingle line) : line ≠ endMarker := by
  rintro rfl
  simp [IsSingle, lit_eq, endMarker] at single

theorem Unclaimed.isNotSingle {line : Text} (plain : Unclaimed line) : ¬ IsSingle line := by
  rintro (success | error)
  · exact plain.notSuccess success
  · exact plain.notError error

theorem classify_body (d : FrameDecoder) {line : Text} (plain : Unclaimed line) :
    d.classify line = (d, some (.ok (.line line))) := by
  have success := stripPrefix_eq_none.mpr plain.notSuccess
  have error := stripPrefix_eq_none.mpr plain.notError
  have notice : stripPrefix line ['>'] = none := by
    rw [stripPrefix_eq_none]
    rintro ⟨rest, rfl⟩
    exact plain.notNotice rfl
  simp only [FrameDecoder.classify, success, error, plain.notPrompt, plain.notEnd, notice, if_false]

theorem takeLine_classify (d : FrameDecoder) {line : Text} (plain : line.head? ≠ some '>') :
    d.takeLine line = d.classify line := by
  have env : stripPrefix line (lit ">CLIENT:ENV,") = none :=
    stripPrefix_lit_head (c := '>') (by simp) plain
  rw [FrameDecoder.takeLine]
  split
  · rename_i blank
    have body : Unclaimed line := by
      rw [blank.1]
      constructor <;> simp [lit_eq, pwPrompt, endMarker]
    rw [classify_body d body]
  · split
    · rename_i found
      rw [env] at found
      cases found
    · rfl

theorem takeLine_body (d : FrameDecoder) {line : Text} (plain : Unclaimed line) :
    d.takeLine line = (d, some (.ok (.line line))) := by
  rw [takeLine_classify d plain.notNotice, classify_body d plain]

theorem takeLine_end (d : FrameDecoder) : d.takeLine endMarker = (d, some (.ok .endMarker)) := by
  have success : stripPrefix endMarker (lit "SUCCESS:") = none :=
    stripPrefix_lit_head (c := 'S') (by simp) (by decide)
  have error : stripPrefix endMarker (lit "ERROR:") = none := by
    simp [stripPrefix_eq_none, lit_eq, endMarker]
  have prompt : endMarker ≠ pwPrompt := by simp [endMarker, pwPrompt, lit_eq]
  rw [takeLine_classify d (by decide)]
  simp only [FrameDecoder.classify, success, error, prompt, if_false, if_true]

theorem takeLine_prompt (d : FrameDecoder) :
    d.takeLine pwPrompt = (d, some (.ok .passwordPrompt)) := by
  have head : pwPrompt.head? ≠ some '>' := by simp [pwPrompt, lit_eq]
  have success : stripPrefix pwPrompt (lit "SUCCESS:") = none :=
    stripPrefix_lit_head (c := 'S') (by simp) (by simp [pwPrompt, lit_eq])
  have error : stripPrefix pwPrompt (lit "ERROR:") = none := by
    simp [stripPrefix_eq_none, pwPrompt, lit_eq]
  rw [takeLine_classify d head]
  simp only [FrameDecoder.classify, success, error, if_true]

def singleFrame (line : Text) : Frame :=
  match stripPrefix line (lit "SUCCESS:") with
  | some rest => .success ((stripPrefix rest [' ']).getD rest)
  | none =>
    match stripPrefix line (lit "ERROR:") with
    | some rest => .error ((stripPrefix rest [' ']).getD rest)
    | none => .line line

theorem isSingle_head {line : Text} (single : IsSingle line) : line.head? ≠ some '>' := by
  rcases single with ⟨rest, rfl⟩ | ⟨rest, rfl⟩ <;> simp [lit_eq]

theorem takeLine_single (d : FrameDecoder) {line : Text} (single : IsSingle line) :
    d.takeLine line = (d, some (.ok (singleFrame line))) ∧
      ((∃ text, singleFrame line = .success text) ∨ ∃ text, singleFrame line = .error text) := by
  rw [takeLine_classify d (isSingle_head single)]
  rcases single with ⟨rest, rfl⟩ | ⟨rest, rfl⟩
  · have found := stripPrefix_append (lit "SUCCESS:") rest
    simp [FrameDecoder.classify, singleFrame, found]
  · have other : stripPrefix (lit "ERROR:" ++ rest) (lit "SUCCESS:") = none :=
      stripPrefix_lit_head (c := 'S') (by simp) (by simp [lit_eq])
    have found := stripPrefix_append (lit "ERROR:") rest
    simp [FrameDecoder.classify, singleFrame, found, other]

def IsNoticeFrame : Frame → Prop
  | .notification _ _ | .clientEnv _ _ _ | .info _ => True
  | _ => False

theorem takeNotice_cases (d : FrameDecoder) (kind payload : Text) :
    (d.takeNotice kind payload).2 = none ∨
      ∃ frame, (d.takeNotice kind payload).2 = some (.ok frame) ∧ IsNoticeFrame frame := by
  unfold FrameDecoder.takeNotice
  split
  · split
    · exact Or.inr ⟨_, rfl, trivial⟩
    · exact Or.inr ⟨_, rfl, trivial⟩
  · split
    · simp only
      split
      · exact Or.inr ⟨_, rfl, trivial⟩
      · exact Or.inl rfl
    · exact Or.inr ⟨_, rfl, trivial⟩

theorem takeEnv_cases (d : FrameDecoder) (accum : ClientEnvAccumulator) (rest : Text) :
    (d.takeEnv accum rest).2 = none ∨ (∃ e, (d.takeEnv accum rest).2 = some (.error e)) ∨
      ∃ frame, (d.takeEnv accum rest).2 = some (.ok frame) ∧ IsNoticeFrame frame := by
  unfold FrameDecoder.takeEnv
  split
  · exact Or.inr (Or.inr ⟨_, rfl, trivial⟩)
  · simp only
    split
    · exact Or.inr (Or.inl ⟨_, rfl⟩)
    · exact Or.inl rfl

/-- Whatever block is open, a notice becomes a frame of its own or joins the block; only the
    limit on ENV entries makes it fail. -/
theorem takeLine_notice (d : FrameDecoder) {line : Text} (notice : IsNotice line) :
    (d.takeLine line).2 = none ∨ (∃ e, (d.takeLine line).2 = some (.error e)) ∨
      ∃ frame, (d.takeLine line).2 = some (.ok frame) ∧ IsNoticeFrame frame := by
  obtain ⟨kind, payload, clean, rfl⟩ := isNotice_iff.mp notice
  have nonempty : noticeLine kind payload ≠ [] := by simp [noticeLine]
  simp only [FrameDecoder.takeLine, nonempty, false_and, if_false]
  split
  · exact takeEnv_cases _ _ _
  · rw [classify_notice d clean]
    rcases takeNotice_cases d kind payload with nothing | frame
    · exact Or.inl nothing
    · exact Or.inr (Or.inr frame)

def Calm : FrameDecoder → List Text → Prop
  | _, [] => True
  | d, raw :: more =>
    (∀ e, (d.takeLine (trimLineEnd raw)).2 ≠ some (.error e)) ∧
      Calm (d.takeLine (trimLineEnd raw)).1 more

theorem classify_unlimited {d : FrameDecoder} (unlimited : d.maxClientEnvEntries = .unlimited)
    (line : Text) :
    (d.classify line).1.maxClientEnvEntries = .unlimited ∧
      ∀ e, (d.classify line).2 ≠ some (.error e) := by
  unfold FrameDecoder.classify FrameDecoder.takeNotice
  repeat' split
  all_goals exact ⟨unlimited, by simp⟩

theorem takeLine_unlimited {d : FrameDecoder} (unlimited : d.maxClientEnvEntries = .unlimited)
    (line : Text) :
    (d.takeLine line).1.maxClientEnvEntries = .unlimited ∧
      ∀ e, (d.takeLine line).2 ≠ some (.error e) := by
  unfold FrameDecoder.takeLine
  split
  · exact ⟨unlimited, by simp⟩
  · split
    · unfold FrameDecoder.takeEnv
      split
      · exact ⟨unlimited, by simp⟩
      · simp [checkAccumulationLimit, unlimited]
    · exact classify_unlimited unlimited line

theorem calm_of_unlimited {d : FrameDecoder} (unlimited : d.maxClientEnvEntries = .unlimited)
    (script : List Text) : Calm d script := by
  induction script generalizing d with
  | nil => trivial
  | cons raw more ih =>
    have line := takeLine_unlimited unlimited (trimLineEnd raw)
    exact ⟨line.2, ih line.1⟩

theorem follows_nil {limit : AccumulationLimit} {block blockLeft : Option (List Text)}
    {kinds kindsLeft : List ResponseKind}
    (follows : Follows limit block kinds [] blockLeft kindsLeft) :
    block = blockLeft ∧ kinds = kindsLeft := by
  cases follows
  exact ⟨rfl, rfl⟩

theorem follows_no_kinds {limit : AccumulationLimit} {block blockLeft : Option (List Text)}
    {lines : List Text} {kindsLeft : List ResponseKind}
    (follows : Follows limit block [] lines blockLeft kindsLeft) : lines = [] := by
  cases follows
  rfl

/-! Counting answers -/

theorem begun_single {line : Text} (single : IsSingle line) (more : List Text) :
    responsesBegun false (line :: more) = responsesBegun false more + 1 := by
  simp [responsesBegun, single]

theorem begun_end (inBlock : Bool) (more : List Text) :
    responsesBegun inBlock (endMarker :: more) = responsesBegun false more + 1 := by
  simp [responsesBegun]

theorem begun_body {line : Text} (plain : Unclaimed line) (inBlock : Bool) (more : List Text) :
    responsesBegun inBlock (line :: more) = responsesBegun true more := by
  simp [responsesBegun, plain.isNotSingle, plain.notEnd]

theorem begun_pos (inBlock : Bool) (line : Text) (more : List Text) :
    0 < responsesBegun inBlock (line :: more) := by
  rw [responsesBegun]
  split
  · omega
  · induction more with
    | nil => simp [responsesBegun]
    | cons next later ih =>
      rw [responsesBegun]
      split
      · omega
      · exact ih

end MgmtServerStream
