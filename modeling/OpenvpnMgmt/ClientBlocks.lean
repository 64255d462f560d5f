import OpenvpnMgmt.ServerStream

/-!
CLIENT blocks over whole runs of the frame decoder. What a line can do is said once
(`takeLine_cases`); the block a decoder gathers is compared with the block that the lines taken so
far spell out, limits left aside.
-/
namespace MgmtClientBlocks
open TextOps Utf8Text LineFraming MgmtEncoder MgmtMessage MgmtFrame MgmtServerStream

/-! What a line can do -/

/- The event and the arguments of a `>CLIENT:` line that opens a block. -/
def header (line : Text) : Option (Text × Text) :=
  match stripPrefix line (lit ">CLIENT:") with
  | none => none
  | some payload =>
    let (event, args) := (splitOnce (· == ',') payload).getD (payload, [])
    if event = lit "ADDRESS" then none else some (event, args)

def envRest (line : Text) : Option Text := stripPrefix line (lit ">CLIENT:ENV,")

theorem stripClient_notice {kind : Text} (clean : ':' ∉ kind) (payload : Text) :
    stripPrefix (noticeLine kind payload) (lit ">CLIENT:") =
      if kind = lit "CLIENT" then some payload else none := by
  have client (rest : Text) : lit ">CLIENT:" ++ rest = noticeLine (lit "CLIENT") rest := by
    simp [noticeLine, lit_eq]
  split
  · rename_i same
    rw [same, ← client, stripPrefix_append]
  · rename_i other
    rw [stripPrefix_eq_none]
    intro start
    obtain ⟨rest, shape⟩ := start
    rw [client] at shape
    exact other (noticeLine_inj client_plain clean shape).1.symm

theorem stripClient_reply {line : Text} (reply : ¬ IsNotice line) :
    stripPrefix line (lit ">CLIENT:") = none := by
  rw [stripPrefix_eq_none]
  intro start
  obtain ⟨rest, rfl⟩ := start
  exact reply ⟨by simp [lit_eq], by simp [lit_eq]⟩

theorem header_notice {kind payload : Text} (clean : ':' ∉ kind) :
    header (noticeLine kind payload) =
      if kind = lit "CLIENT" then header (noticeLine (lit "CLIENT") payload) else none := by
  rw [header, stripClient_notice clean]
  by_cases client : kind = lit "CLIENT"
  · rw [if_pos client, if_pos client, header, stripClient_notice client_plain, if_pos rfl]
  · rw [if_neg client, if_neg client]

theorem header_client (payload : Text) :
    header (noticeLine (lit "CLIENT") payload) =
      let (event, args) := (splitOnce (· == ',') payload).getD (payload, [])
      if event = lit "ADDRESS" then none else some (event, args) := by
  rw [header, stripClient_notice client_plain, if_pos rfl]

theorem header_reply {line : Text} (reply : ¬ IsNotice line) : header line = none := by
  rw [header, stripClient_reply reply]

def IsClientEnv : Frame → Prop
  | .clientEnv _ _ _ => True
  | _ => False

def Passes (d : FrameDecoder) (line : Text) : Prop :=
  ∃ seen frame, d.takeLine line = ({ d with seenInfo := seen }, some (.ok frame)) ∧
    ¬ IsClientEnv frame

def Room (limit : AccumulationLimit) (size : Nat) : Prop := ∀ most, limit = .max most → size < most

instance (limit : AccumulationLimit) (size : Nat) : Decidable (Room limit size) :=
  match limit with
  | .unlimited => isTrue (by rintro most ⟨⟩)
  | .max most => decidable_of_iff (size < most) ⟨by rintro h _ ⟨⟩; exact h, fun h => h most rfl⟩

theorem classify_reply (d : FrameDecoder) {line : Text} (reply : ¬ IsNotice line) :
    ∃ frame, d.classify line = (d, some (.ok frame)) ∧ ¬ IsNoticeFrame frame := by
  unfold FrameDecoder.classify
  split
  · exact ⟨_, rfl, id⟩
  · split
    · exact ⟨_, rfl, id⟩
    · split
      · exact ⟨_, rfl, id⟩
      · split
        · exact ⟨_, rfl, id⟩
        · split
          · exact ⟨_, rfl, id⟩
          · rename_i inner found
            split
            · exact ⟨_, rfl, id⟩
            · rename_i kind payload colon
              obtain ⟨c, same, rfl, -⟩ := splitOnce_eq_some colon
              obtain rfl : c = ':' := eq_of_beq same
              have shape := stripPrefix_eq_some.mp found
              exact absurd (by simp [IsNotice, shape]) reply

theorem classify_cases (d : FrameDecoder) (line : Text) :
    (∃ event args, header line = some (event, args) ∧
      d.classify line = ({ d with clientNotification := some ⟨event, args, ∅⟩ }, none)) ∨
    header line = none ∧ ∃ seen frame,
      d.classify line = ({ d with seenInfo := seen }, some (.ok frame)) ∧ ¬ IsClientEnv frame := by
  by_cases notice : IsNotice line
  · obtain ⟨kind, payload, clean, rfl⟩ := isNotice_iff.mp notice
    rw [classify_notice d clean, header_notice clean, FrameDecoder.takeNotice]
    by_cases info : kind = lit "INFO"
    · have other : kind ≠ lit "CLIENT" := by simp [info, lit_eq]
      rw [if_neg other, if_pos info]
      refine Or.inr ⟨rfl, ?_⟩
      split
      · exact ⟨_, _, rfl, id⟩
      · exact ⟨_, _, rfl, id⟩
    · rw [if_neg info]
      by_cases client : kind = lit "CLIENT"
      · rw [if_pos client, if_pos client, header_client]
        simp only
        split
        · exact Or.inr ⟨rfl, _, _, rfl, id⟩
        · exact Or.inl ⟨_, _, rfl, rfl⟩
      · rw [if_neg client, if_neg client]
        exact Or.inr ⟨rfl, _, _, rfl, id⟩
  · obtain ⟨frame, taken, other⟩ := classify_reply d notice
    refine Or.inr ⟨header_reply notice, d.seenInfo, frame, taken, fun block => other ?_⟩
    cases frame with
    | clientEnv => trivial
    | _ => cases block

theorem takeLine_cases (d : FrameDecoder) (line : Text) :
    (∃ accum rest, d.clientNotification = some accum ∧ envRest line = some rest ∧
      d.takeLine line = d.takeEnv accum rest) ∨
    (d.clientNotification = none ∨ envRest line = none) ∧
      ((∃ event args, header line = some (event, args) ∧
          d.takeLine line = ({ d with clientNotification := some ⟨event, args, ∅⟩ }, none)) ∨
        header line = none ∧ Passes d line) := by
  unfold Passes FrameDecoder.takeLine
  split
  · rename_i blank
    refine Or.inr ⟨Or.inl blank.2, Or.inr ⟨?_, d.seenInfo, _, rfl, id⟩⟩
    exact header_reply (by simp [blank.1, IsNotice])
  · split
    · rename_i accum rest opened found
      exact Or.inl ⟨accum, rest, opened, found, rfl⟩
    · rename_i outside
      refine Or.inr ⟨?_, classify_cases d line⟩
      cases opened : d.clientNotification with
      | none => exact Or.inl rfl
      | some accum =>
        cases found : envRest line with
        | none => exact Or.inr rfl
        | some rest => exact absurd found (outside accum rest opened)

theorem takeEnv_end (d : FrameDecoder) (accum : ClientEnvAccumulator) :
    d.takeEnv accum (lit "END") = ({ d with clientNotification := none },
      some (.ok (.clientEnv accum.event accum.args accum.env))) := by
  rw [FrameDecoder.takeEnv, if_pos rfl]

/- The entry of an ENV line; one without `=` has an empty value. -/
def entryOf (rest : Text) : Text × Text := (splitOnce (· == '=') rest).getD (rest, [])

theorem takeEnv_entry (d : FrameDecoder) (accum : ClientEnvAccumulator) {rest : Text}
    (entry : rest ≠ lit "END") :
    if Room d.maxClientEnvEntries accum.env.size then
      d.takeEnv accum rest = ({ d with clientNotification := some { accum with
        env := accum.env.insert (entryOf rest).1 (entryOf rest).2 } }, none)
    else ∃ most, d.takeEnv accum rest =
      (d, some (.error (.accumulationLimitExceeded (lit "client ENV") most))) := by
  rw [FrameDecoder.takeEnv, if_neg entry]
  simp only [checkAccumulationLimit, entryOf]
  cases d.maxClientEnvEntries with
  | unlimited => simp [Room]
  | max most =>
    by_cases full : most ≤ accum.env.size
    · simp [Room, full]
    · simp [Room, full, Nat.lt_of_not_le full]

/- The line as the decoder reads it; `none` where it is no UTF-8. -/
def lineText (lineBytes : Bytes) : Option Text := (fromUtf8 lineBytes).map trimLineEnd

theorem takeBytes_lineText (d : FrameDecoder) {lineBytes : Bytes} {line : Text}
    (text : lineText lineBytes = some line) : d.takeBytes lineBytes = d.takeLine line := by
  obtain ⟨t, found, rfl⟩ := Option.map_eq_some_iff.mp text
  rw [FrameDecoder.takeBytes, found]

theorem takeBytes_unreadable (d : FrameDecoder) {lineBytes : Bytes}
    (text : lineText lineBytes = none) :
    d.takeBytes lineBytes = ({ d with clientNotification := none }, some (.error .invalidData)) := by
  rw [FrameDecoder.takeBytes, Option.map_eq_none_iff.mp text]

inductive BlockStep (d : FrameDecoder) (lineBytes : Bytes) (after : FrameDecoder)
    (out : Option (Except IoError Frame)) : Prop
  | drops (unreadable : lineText lineBytes = none) (closed : after.clientNotification = none)
    (result : out = some (.error .invalidData))
  | closes {line : Text} {accum : ClientEnvAccumulator} (text : lineText lineBytes = some line)
    (opened : d.clientNotification = some accum) (inside : envRest line = some (lit "END"))
    (closed : after.clientNotification = none)
    (result : out = some (.ok (.clientEnv accum.event accum.args accum.env)))
  | grows {line rest : Text} {accum : ClientEnvAccumulator} (text : lineText lineBytes = some line)
    (opened : d.clientNotification = some accum) (inside : envRest line = some rest)
    (entry : rest ≠ lit "END") (room : Room d.maxClientEnvEntries accum.env.size)
    (grown : after.clientNotification = some { accum with
      env := accum.env.insert (entryOf rest).1 (entryOf rest).2 })
    (silent : out = none)
  | refuses {line rest : Text} {accum : ClientEnvAccumulator} {most : Nat}
    (text : lineText lineBytes = some line) (opened : d.clientNotification = some accum)
    (inside : envRest line = some rest) (entry : rest ≠ lit "END")
    (full : ¬ Room d.maxClientEnvEntries accum.env.size)
    (same : after.clientNotification = d.clientNotification)
    (result : out = some (.error (.accumulationLimitExceeded (lit "client ENV") most)))
  | opens {line event args : Text} (text : lineText lineBytes = some line)
    (outside : d.clientNotification = none ∨ envRest line = none)
    (first : header line = some (event, args))
    (fresh : after.clientNotification = some ⟨event, args, ∅⟩) (silent : out = none)
  | passes {line : Text} {frame : Frame} (text : lineText lineBytes = some line)
    (outside : d.clientNotification = none ∨ envRest line = none) (plain : header line = none)
    (same : after.clientNotification = d.clientNotification) (result : out = some (.ok frame))
    (other : ¬ IsClientEnv frame)

theorem takeBytes_block (d : FrameDecoder) (lineBytes : Bytes) :
    BlockStep d lineBytes (d.takeBytes lineBytes).1 (d.takeBytes lineBytes).2 := by
  cases text : lineText lineBytes with
  | none =>
    rw [takeBytes_unreadable d text]
    exact .drops text rfl rfl
  | some line =>
    rw [takeBytes_lineText d text]
    rcases takeLine_cases d line with ⟨accum, rest, opened, inside, same⟩ | ⟨outside, other⟩
    · rw [same]
      by_cases last : rest = lit "END"
      · rw [last] at inside ⊢
        rw [takeEnv_end]
        exact .closes text opened inside rfl rfl
      · have entry := takeEnv_entry d accum last
        split at entry
        · rename_i room
          rw [entry]
          exact .grows text opened inside last room rfl rfl
        · rename_i full
          obtain ⟨most, entry⟩ := entry
          rw [entry]
          exact .refuses text opened inside last full rfl rfl
    · rcases other with ⟨event, args, first, same⟩ | ⟨plain, seen, frame, same, other⟩
      · rw [same]
        exact .opens text outside first rfl rfl
      · rw [same]
        exact .passes text outside plain rfl rfl other

theorem takeBytes_limit (d : FrameDecoder) (lineBytes : Bytes) :
    (d.takeBytes lineBytes).1.maxClientEnvEntries = d.maxClientEnvEntries := by
  cases text : lineText lineBytes with
  | none => rw [takeBytes_unreadable d text]
  | some line =>
    rw [takeBytes_lineText d text]
    rcases takeLine_cases d line with ⟨accum, rest, -, -, same⟩ | ⟨-, ⟨_, _, -, same⟩ |
      ⟨-, _, _, same, -⟩⟩
    · rw [same, FrameDecoder.takeEnv]
      split
      · rfl
      · simp only
        split <;> rfl
    · rw [same]
    · rw [same]

/-! Runs of the frame decoder -/

structure Reading where
  decoder : FrameDecoder
  buffer : Bytes

inductive ReadStep where
  | receive (chunk : Bytes)
  | poll

def reports : Except IoError (Option Frame) → List (Except IoError Frame)
  | .ok none => []
  | .ok (some frame) => [.ok frame]
  | .error e => [.error e]

def readStep (r : Reading) : ReadStep → Reading × List (Except IoError Frame)
  | .receive chunk => (⟨r.decoder, r.buffer ++ chunk⟩, [])
  | .poll =>
    let (d, rest, out) := r.decoder.decode r.buffer
    (⟨d, rest⟩, reports out)

/- Calls of `decode` go on behind an error. -/
def read : Reading → List ReadStep → Reading × List (Except IoError Frame)
  | r, [] => (r, [])
  | r, s :: more =>
    let (next, out) := readStep r s
    let (last, later) := read next more
    (last, out ++ later)

def history : Reading → List ReadStep → List (FrameDecoder × Bytes)
  | _, [] => []
  | r, .receive chunk :: more => history (readStep r (.receive chunk)).1 more
  | r, .poll :: more =>
    rounds newline FrameDecoder.takeBytes r.decoder r.buffer ++ history (readStep r .poll).1 more

/-- One call: its lines in a row, and their result or the prompt. -/
theorem frameDecode_rounds (d : FrameDecoder) (src : Bytes) :
    let lines := rounds newline FrameDecoder.takeBytes d src
    Chained FrameDecoder.takeBytes d lines (d.decode src).1 ∧
      (reports (d.decode src).2.2 = outputs FrameDecoder.takeBytes lines ∨
        (d.decode src).2.2 = .ok (some .passwordPrompt)) := by
  induction h : src.length using Nat.strongRecOn generalizing d src with
  | ind n ih =>
    rcases open_or_line newline src with unfinished | ⟨body, rest, clean, rfl⟩
    · rw [rounds_open _ d unfinished]
      rcases frameDecode_open_cases d unfinished with ⟨tail, rfl⟩ | same
      · rw [frameDecode_prompt d unfinished]
        exact ⟨.nil d, Or.inr rfl⟩
      · rw [same]
        exact ⟨.nil d, Or.inl rfl⟩
    · simp only [List.length_append, List.length_cons] at h
      rw [frameDecode_line d clean, rounds_line _ d clean]
      rcases line : d.takeBytes (body ++ [newline]) with ⟨after, _ | e | frame⟩
      · obtain ⟨chain, out⟩ := ih rest.length (by omega) after rest rfl
        refine ⟨.cons (by rw [line]; exact chain), out.imp_left fun same => ?_⟩
        simpa [outputs, line] using same
      · exact ⟨.cons (by rw [line]; exact .nil after), Or.inl (by simp [outputs, line, reports])⟩
      · exact ⟨.cons (by rw [line]; exact .nil after), Or.inl (by simp [outputs, line, reports])⟩

theorem read_history (r : Reading) (steps : List ReadStep) :
    Chained FrameDecoder.takeBytes r.decoder (history r steps) (read r steps).1.decoder := by
  induction steps generalizing r with
  | nil => exact .nil _
  | cons s more ih =>
    cases s with
    | receive chunk => exact ih (readStep r (.receive chunk)).1
    | poll =>
      exact chained_append (frameDecode_rounds r.decoder r.buffer).1 (ih (readStep r .poll).1)

theorem read_outputs {r : Reading} {steps : List ReadStep} {frame : Frame}
    (member : .ok frame ∈ (read r steps).2) (other : frame ≠ .passwordPrompt) :
    .ok frame ∈ outputs FrameDecoder.takeBytes (history r steps) := by
  induction steps generalizing r with
  | nil => simp [read] at member
  | cons s more ih =>
    simp only [read, List.mem_append] at member
    cases s with
    | receive chunk =>
      rcases member with here | later
      · simp [readStep] at here
      · exact ih later
    | poll =>
      rw [history, outputs_append, List.mem_append]
      rcases member with here | later
      · obtain ⟨-, same | prompt⟩ := frameDecode_rounds r.decoder r.buffer
        · rw [← same]
          exact Or.inl here
        · simp only [readStep, prompt, reports, List.mem_singleton] at here
          exact absurd (by simpa using here) other
      · exact Or.inr (ih later)

theorem history_append (r : Reading) (a b : List ReadStep) :
    history r (a ++ b) = history r a ++ history (read r a).1 b := by
  induction a generalizing r with
  | nil => simp [read, history]
  | cons s more ih => cases s <;> simp [read, history, ih]

/-! The block the lines spell out -/

/-- An ENV line behind a header; a refused one ran into the limit. -/
structure Entry where
  key : Text
  value : Text
  refused : Bool
  deriving DecidableEq, Repr

structure Gathering where
  event : Text
  args : Text
  entries : List Entry
  deriving DecidableEq, Repr

def refusedBy (t : FrameDecoder × Bytes) : Bool :=
  match (t.1.takeBytes t.2).2 with
  | some (.error _) => true
  | _ => false

/- A header opens a block, in place of any other; an ENV line joins the open block, END closes it,
   and a line that is no UTF-8 drops it. -/
def gather (g : Option Gathering) (t : FrameDecoder × Bytes) : Option Gathering :=
  match lineText t.2 with
  | none => none
  | some line =>
    match g, envRest line with
    | some block, some rest =>
      if rest = lit "END" then none
      else some { block with
        entries := block.entries ++ [⟨(entryOf rest).1, (entryOf rest).2, refusedBy t⟩] }
    | _, _ =>
      match header line with
      | some (event, args) => some ⟨event, args, []⟩
      | none => g

def openBlock (lines : List (FrameDecoder × Bytes)) : Option Gathering := lines.foldl gather none

def lastWins (entries : List Entry) : Env := entries.foldl (fun env e => env.insert e.key e.value) ∅

theorem lastWins_snoc (entries : List Entry) (e : Entry) :
    lastWins (entries ++ [e]) = (lastWins entries).insert e.key e.value := by
  simp [lastWins]

/-- The entries of a block and what the decoder keeps of them. -/
inductive Recorded (limit : AccumulationLimit) : List Entry → Env → Prop
  | empty : Recorded limit [] ∅
  | kept {entries : List Entry} {env : Env} (before : Recorded limit entries env)
    (room : Room limit env.size) (key value : Text) :
    Recorded limit (entries ++ [⟨key, value, false⟩]) (env.insert key value)
  | refused {entries : List Entry} {env : Env} (before : Recorded limit entries env)
    (full : ¬ Room limit env.size) (key value : Text) :
    Recorded limit (entries ++ [⟨key, value, true⟩]) env

def Fits (limit : AccumulationLimit) (entries : List Entry) : Prop :=
  ∀ i < entries.length, Room limit (lastWins (entries.take i)).size

theorem fits_snoc {limit : AccumulationLimit} {entries : List Entry} {e : Entry} :
    Fits limit (entries ++ [e]) ↔ Fits limit entries ∧ Room limit (lastWins entries).size := by
  have inside : ∀ i ≤ entries.length, (entries ++ [e]).take i = entries.take i := fun i small => by
    rw [List.take_append_of_le_length small]
  constructor
  · intro fits
    refine ⟨fun i small => ?_, ?_⟩
    · rw [← inside i (by omega)]
      exact fits i (by simp; omega)
    · have last := fits entries.length (by simp)
      rwa [inside _ (by omega), List.take_length] at last
  · rintro ⟨fits, last⟩ i small
    simp only [List.length_append, List.length_singleton] at small
    rw [inside i (by omega)]
    by_cases end_ : i = entries.length
    · rwa [end_, List.take_length]
    · exact fits i (by omega)

/-- While no entry is refused the decoder keeps them all, and none is refused exactly while they
    fit. -/
theorem recorded_iff {limit : AccumulationLimit} {entries : List Entry} {env : Env}
    (recorded : Recorded limit entries env) :
    ((∀ e ∈ entries, e.refused = false) → env = lastWins entries) ∧
      ((∀ e ∈ entries, e.refused = false) ↔ Fits limit entries) := by
  induction recorded with
  | empty => exact ⟨fun _ => rfl, by simp [Fits]⟩
  | @kept entries env _ room key value ih =>
    rw [fits_snoc, ← ih.2, lastWins_snoc]
    have whole : (∀ e ∈ entries ++ [⟨key, value, false⟩], e.refused = false) ↔
        ∀ e ∈ entries, e.refused = false := by
      simp [or_imp, forall_and]
    rw [whole]
    refine ⟨fun all => by rw [← ih.1 all], fun all => ⟨all, ?_⟩, And.left⟩
    rwa [← ih.1 all]
  | @refused entries env _ full key value ih =>
    have broken : ¬ ∀ e ∈ entries ++ [⟨key, value, true⟩], e.refused = false := fun all => by
      simpa using all ⟨key, value, true⟩ (by simp)
    refine ⟨fun all => absurd all broken, fun all => absurd all broken, fun fits => ?_⟩
    obtain ⟨fits, room⟩ := fits_snoc.mp fits
    rw [← ih.1 (ih.2.mpr fits)] at room
    exact absurd room full

/-- The decoder has the block open that the lines spell out, with the entries it kept. -/
inductive Tracks (limit : AccumulationLimit) :
    Option ClientEnvAccumulator → Option Gathering → Prop
  | closed : Tracks limit none none
  | opened (event args : Text) {entries : List Entry} {env : Env}
    (recorded : Recorded limit entries env) :
    Tracks limit (some ⟨event, args, env⟩) (some ⟨event, args, entries⟩)

theorem gather_outside {g : Option Gathering} {t : FrameDecoder × Bytes} {line : Text}
    (text : lineText t.2 = some line) (outside : g = none ∨ envRest line = none) :
    gather g t = match header line with
      | some (event, args) => some ⟨event, args, []⟩
      | none => g := by
  simp only [gather, text]
  rcases outside with rfl | missing
  · rfl
  · simp only [missing]

theorem tracks_outside {limit : AccumulationLimit} {opened : Option ClientEnvAccumulator}
    {g : Option Gathering} (tracks : Tracks limit opened g) {line : Text}
    (outside : opened = none ∨ envRest line = none) : g = none ∨ envRest line = none := by
  refine outside.imp_left fun closed => ?_
  subst closed
  cases tracks
  rfl

theorem gather_entry {block : Gathering} {t : FrameDecoder × Bytes} {line rest : Text}
    (text : lineText t.2 = some line) (inside : envRest line = some rest) (entry : rest ≠ lit "END") :
    gather (some block) t = some { block with entries :=
      block.entries ++ [⟨(entryOf rest).1, (entryOf rest).2, refusedBy t⟩] } := by
  simp only [gather, text, inside, if_neg entry]

theorem takeBytes_tracks {limit : AccumulationLimit} {d : FrameDecoder} {g : Option Gathering}
    (tracks : Tracks limit d.clientNotification g) (config : d.maxClientEnvEntries = limit)
    (lineBytes : Bytes) :
    Tracks limit (d.takeBytes lineBytes).1.clientNotification (gather g (d, lineBytes)) ∧
      ∀ event args env, (d.takeBytes lineBytes).2 = some (.ok (.clientEnv event args env)) →
        (lineText lineBytes).bind envRest = some (lit "END") ∧
          ∃ entries, g = some ⟨event, args, entries⟩ ∧ Recorded limit entries env := by
  have refused : refusedBy (d, lineBytes) = match (d.takeBytes lineBytes).2 with
    | some (.error _) => true
    | _ => false := rfl
  cases takeBytes_block d lineBytes with
  | drops unreadable closed result =>
    rw [closed, gather, unreadable, result]
    exact ⟨.closed, by simp⟩
  | closes text opened inside closed result =>
    rw [opened] at tracks
    cases tracks with
    | @opened event args entries env recorded =>
      rw [closed, result]
      simp only [gather, text, inside, if_true]
      refine ⟨.closed, ?_⟩
      rintro _ _ _ ⟨⟩
      exact ⟨inside, entries, rfl, recorded⟩
  | grows text opened inside entry room grown silent =>
    rw [opened] at tracks
    cases tracks with
    | opened event args recorded =>
      rw [gather_entry text inside entry, refused, silent, grown]
      rw [config] at room
      exact ⟨.opened event args (.kept recorded room _ _), by simp⟩
  | refuses text opened inside entry full same result =>
    rw [same, opened]
    rw [opened] at tracks
    cases tracks with
    | opened event args recorded =>
      rw [gather_entry text inside entry, refused, result]
      rw [config] at full
      exact ⟨.opened event args (.refused recorded full _ _), by simp⟩
  | opens text outside first fresh silent =>
    rw [gather_outside text (tracks_outside tracks outside), first, fresh, silent]
    exact ⟨.opened _ _ .empty, by simp⟩
  | passes text outside plain same result other =>
    rw [gather_outside text (tracks_outside tracks outside), plain, same, result]
    refine ⟨tracks, ?_⟩
    rintro _ _ _ ⟨⟩
    exact absurd trivial other

theorem chained_tracks {limit : AccumulationLimit} {d last : FrameDecoder}
    {lines : List (FrameDecoder × Bytes)} (chain : Chained FrameDecoder.takeBytes d lines last)
    {g : Option Gathering} (tracks : Tracks limit d.clientNotification g)
    (config : d.maxClientEnvEntries = limit) :
    Tracks limit last.clientNotification (lines.foldl gather g) ∧
      last.maxClientEnvEntries = limit := by
  induction chain generalizing g with
  | nil => exact ⟨tracks, config⟩
  | @cons d last line more rest ih =>
    obtain ⟨next, -⟩ := takeBytes_tracks tracks config line
    exact ih next ((takeBytes_limit d line).trans config)

def startReading (limit : AccumulationLimit) : Reading :=
  ⟨{ FrameDecoder.new with maxClientEnvEntries := limit }, []⟩

/-- Where a call of `decode` hands out a block, its last line is the END of the block that the lines
    before it spell out. -/
theorem emitted_block {limit : AccumulationLimit} {steps : List ReadStep} {event args : Text}
    {env : Env}
    (emitted : let r := (read (startReading limit) steps).1
      (r.decoder.decode r.buffer).2.2 = .ok (some (.clientEnv event args env))) :
    ∃ lines last entries, history (startReading limit) (steps ++ [.poll]) = lines ++ [last] ∧
      (lineText last.2).bind envRest = some (lit "END") ∧
      openBlock lines = some ⟨event, args, entries⟩ ∧ Recorded limit entries env := by
  have before := read_history (startReading limit) steps
  generalize reading : (read (startReading limit) steps).1 = r at emitted before
  obtain ⟨chain, same | prompt⟩ := frameDecode_rounds r.decoder r.buffer
  · rw [emitted] at same
    obtain ⟨front, t, shape, last⟩ := rounds_last same.symm
    rw [shape] at chain
    have whole := chained_append before chain
    rw [← List.append_assoc] at whole
    obtain ⟨mid, lines, final⟩ := chained_split whole
    obtain ⟨tracks, config⟩ := chained_tracks lines .closed rfl
    cases final with
    | @cons _ _ lineBytes _ rest =>
      obtain ⟨-, block⟩ := takeBytes_tracks tracks config lineBytes
      obtain ⟨marker, entries, opened, recorded⟩ := block event args env last
      refine ⟨_, (mid, lineBytes), entries, ?_, marker, opened, recorded⟩
      rw [history_append, reading, history, history, List.append_nil, shape, List.append_assoc]
  · rw [emitted] at prompt
    simp at prompt

/-- A block that is handed out holds the last value of every key its ENV lines set, with no line
    left out, exactly when each of them found room beside those before it. -/
theorem client_block_whole_iff {limit : AccumulationLimit} {steps : List ReadStep}
    {event args : Text} {env : Env}
    (emitted : let r := (read (startReading limit) steps).1
      (r.decoder.decode r.buffer).2.2 = .ok (some (.clientEnv event args env))) :
    ∃ lines last entries, history (startReading limit) (steps ++ [.poll]) = lines ++ [last] ∧
      (lineText last.2).bind envRest = some (lit "END") ∧
      openBlock lines = some ⟨event, args, entries⟩ ∧
      ((env = lastWins entries ∧ ∀ e ∈ entries, e.refused = false) ↔ Fits limit entries) := by
  obtain ⟨lines, last, entries, shape, marker, opened, recorded⟩ := emitted_block emitted
  obtain ⟨same, fits⟩ := recorded_iff recorded
  refine ⟨lines, last, entries, shape, marker, opened, ?_⟩
  rw [← fits]
  exact ⟨And.right, fun all => ⟨same all, all⟩⟩

def twoEntries : List ReadStep :=
  [.receive (wire [lit ">CLIENT:CONNECT,1", lit ">CLIENT:ENV,a=1", lit ">CLIENT:ENV,b=2",
    lit ">CLIENT:ENV,END"]), .poll]

/-- With room for one entry the second call goes on behind the error and hands out the block without
    its second entry. -/
theorem client_block_truncated :
    let r := (read (startReading (.max 1)) twoEntries).1
    let lines := history (startReading (.max 1)) twoEntries
    (r.decoder.decode r.buffer).2.2 =
        .ok (some (.clientEnv (lit "CONNECT") ['1'] (lastWins [⟨['a'], ['1'], false⟩]))) ∧
      openBlock lines = some ⟨lit "CONNECT", ['1'], [⟨['a'], ['1'], false⟩, ⟨['b'], ['2'], true⟩]⟩ ∧
      lastWins [⟨['a'], ['1'], false⟩] ≠ lastWins [⟨['a'], ['1'], false⟩, ⟨['b'], ['2'], true⟩] := by
  decide +kernel

theorem client_block_whole_two :
    ∃ lines last entries, history (startReading (.max 2)) (twoEntries.take 1 ++ [.poll]) =
        lines ++ [last] ∧ (lineText last.2).bind envRest = some (lit "END") ∧
      openBlock lines = some ⟨lit "CONNECT", ['1'], entries⟩ ∧
      ((lastWins [⟨['a'], ['1'], false⟩, ⟨['b'], ['2'], false⟩] = lastWins entries ∧
        ∀ e ∈ entries, e.refused = false) ↔ Fits (.max 2) entries) :=
  client_block_whole_iff (by decide +kernel)

/-! Blocks that no header opened -/

def NoEnvBlock (d : FrameDecoder) : Prop :=
  ∀ accum, d.clientNotification = some accum → accum.event ≠ lit "ENV"

instance (d : FrameDecoder) : Decidable (NoEnvBlock d) :=
  match opened : d.clientNotification with
  | none => isTrue (by simp [NoEnvBlock, opened])
  | some accum => decidable_of_iff (accum.event ≠ lit "ENV") (by simp [NoEnvBlock, opened])

/- A `>CLIENT:ENV` line that reaches the decoder outside a block, or without a comma. -/
def Orphan (t : FrameDecoder × Bytes) : Prop :=
  ∃ line args, lineText t.2 = some line ∧ header line = some (lit "ENV", args) ∧
    (t.1.clientNotification = none ∨ envRest line = none)

theorem takeBytes_orphan {d : FrameDecoder} (proper : NoEnvBlock d) (lineBytes : Bytes) :
    NoEnvBlock (d.takeBytes lineBytes).1 ↔ ¬ Orphan (d, lineBytes) := by
  rw [NoEnvBlock, Orphan]
  cases takeBytes_block d lineBytes with
  | drops unreadable closed => simp [unreadable, closed]
  | closes text opened inside closed => simp [text, opened, inside, closed]
  | grows text opened inside _ _ grown => simp [text, opened, inside, grown, proper _ opened]
  | refuses text opened inside _ _ same => simp [text, opened, inside, same, proper _ opened]
  | opens text outside first fresh => simp [text, first, fresh, outside]
  | passes text _ plain same => simpa [text, plain, same, NoEnvBlock] using proper

theorem chained_orphan {d last : FrameDecoder} {lines : List (FrameDecoder × Bytes)}
    (chain : Chained FrameDecoder.takeBytes d lines last) (proper : NoEnvBlock d) :
    (∀ t ∈ lines, NoEnvBlock (t.1.takeBytes t.2).1) ↔ ∀ t ∈ lines, ¬ Orphan t := by
  induction chain with
  | nil => simp
  | @cons d last line more rest ih =>
    have first := takeBytes_orphan proper line
    simp only [List.mem_cons, forall_eq_or_imp]
    constructor
    · rintro ⟨here, later⟩
      exact ⟨first.mp here, (ih here).mp later⟩
    · rintro ⟨here, later⟩
      exact ⟨first.mpr here, (ih (first.mpr here)).mpr later⟩

theorem takeBytes_clientEnv {d : FrameDecoder} {lineBytes : Bytes} {event args : Text} {env : Env}
    (emitted : (d.takeBytes lineBytes).2 = some (.ok (.clientEnv event args env))) :
    d.clientNotification = some ⟨event, args, env⟩ := by
  cases takeBytes_block d lineBytes with
  | drops _ _ result => simp [result] at emitted
  | closes _ opened _ _ result =>
    rw [result] at emitted
    cases emitted
    exact opened
  | grows _ _ _ _ _ _ silent => simp [silent] at emitted
  | refuses _ _ _ _ _ _ result => simp [result] at emitted
  | opens _ _ _ _ silent => simp [silent] at emitted
  | passes _ _ _ _ result other =>
    rw [result] at emitted
    cases emitted
    exact absurd trivial other

theorem takeBytes_header {d : FrameDecoder} {lineBytes : Bytes} {accum : ClientEnvAccumulator}
    (opened : (d.takeBytes lineBytes).1.clientNotification = some accum) :
    (lineText lineBytes).bind header = some (accum.event, accum.args) ∨
      ∃ env, d.clientNotification = some { accum with env := env } := by
  cases takeBytes_block d lineBytes with
  | drops _ closed => simp [closed] at opened
  | closes _ _ _ closed => simp [closed] at opened
  | @grows _ _ before _ was _ _ _ grown =>
    rw [grown] at opened
    cases opened
    exact Or.inr ⟨before.env, was⟩
  | refuses _ _ _ _ _ same => exact Or.inr ⟨accum.env, same ▸ opened⟩
  | opens text _ first fresh =>
    rw [fresh] at opened
    cases opened
    exact Or.inl (by rw [text]; exact first)
  | passes _ _ _ same => exact Or.inr ⟨accum.env, same ▸ opened⟩

theorem chained_header {d last : FrameDecoder} {lines : List (FrameDecoder × Bytes)}
    (chain : Chained FrameDecoder.takeBytes d lines last) {accum : ClientEnvAccumulator}
    (opened : last.clientNotification = some accum) :
    (∃ t ∈ lines, (lineText t.2).bind header = some (accum.event, accum.args)) ∨
      ∃ env, d.clientNotification = some { accum with env := env } := by
  induction chain with
  | nil => exact Or.inr ⟨accum.env, opened⟩
  | @cons d last line more rest ih =>
    rcases ih opened with ⟨t, member, opens⟩ | ⟨env, before⟩
    · exact Or.inl ⟨t, List.mem_cons_of_mem _ member, opens⟩
    · rcases takeBytes_header before with opens | was
      · exact Or.inl ⟨(d, line), List.mem_cons_self, opens⟩
      · exact Or.inr was

theorem read_header {limit : AccumulationLimit} {steps : List ReadStep} {event args : Text}
    {env : Env} (member : .ok (.clientEnv event args env) ∈ (read (startReading limit) steps).2) :
    ∃ front t back, history (startReading limit) steps = front ++ t :: back ∧
      Chained FrameDecoder.takeBytes (startReading limit).decoder front t.1 ∧
      t.1.clientNotification = some ⟨event, args, env⟩ ∧
      ∃ opening ∈ front, (lineText opening.2).bind header = some (event, args) := by
  obtain ⟨t, taken, emitted⟩ := List.mem_filterMap.mp (read_outputs member (by simp))
  obtain ⟨front, back, shape⟩ := List.append_of_mem taken
  have chain := read_history (startReading limit) steps
  rw [shape] at chain
  obtain ⟨mid, before, after⟩ := chained_split chain
  have opened := takeBytes_clientEnv emitted
  cases after with
  | cons rest =>
    refine ⟨front, _, back, shape, before, opened, ?_⟩
    rcases chained_header before opened with opening | ⟨_, early⟩
    · exact opening
    · cases early

/-- No block is ever opened for the event ENV, and every block handed out has a header with another
    event, exactly when no orphan is read. -/
theorem orphans_fabricate_iff (limit : AccumulationLimit) (steps : List ReadStep) :
    let lines := history (startReading limit) steps
    ((∀ t ∈ lines, NoEnvBlock (t.1.takeBytes t.2).1) ∧
      ∀ event args env, .ok (.clientEnv event args env) ∈ (read (startReading limit) steps).2 →
        event ≠ lit "ENV" ∧
          ∃ t ∈ lines, (lineText t.2).bind header = some (event, args)) ↔
    ∀ t ∈ lines, ¬ Orphan t := by
  intro lines
  have chain := read_history (startReading limit) steps
  have fresh : NoEnvBlock (startReading limit).decoder := by rintro _ ⟨⟩
  rw [← chained_orphan chain fresh]
  refine ⟨And.left, fun proper => ⟨proper, fun event args env member => ?_⟩⟩
  obtain ⟨front, t, back, shape, before, opened, opening, first, opens⟩ := read_header member
  have inside : ∀ t ∈ front, t ∈ lines := fun t member => by simp [lines, shape, member]
  have here : NoEnvBlock t.1 := chained_last before fresh fun t first => proper t (inside t first)
  exact ⟨here _ opened, opening, inside opening first, opens⟩

/-- A block cut by a byte that is no UTF-8: the rest of its ENV lines is handed out as a block of
    its own. -/
theorem orphans_fabricated :
    let lines := wire [lit ">CLIENT:CONNECT,1"] ++ [0xFF, newline] ++
      wire [lit ">CLIENT:ENV,a=1", lit ">CLIENT:ENV,b=2", lit ">CLIENT:ENV,END"]
    let r := read (startReading .unlimited) [.receive lines, .poll, .poll]
    r.2 = [.error .invalidData,
      .ok (.clientEnv (lit "ENV") (lit "a=1") (lastWins [⟨['b'], ['2'], false⟩]))] := by
  decide +kernel

end MgmtClientBlocks
