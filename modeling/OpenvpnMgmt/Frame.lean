import OpenvpnMgmt.Encoder
import OpenvpnMgmt.Message
import OpenvpnMgmt.Lib.Lines

/-!
The frame decoder: bytes to classified lines, with `>CLIENT:` blocks gathered into one frame.
`takeBytes` is the body of the source's loop for one line; `decode` is the loop. The equations
`frameDecode_line`, `frameDecode_prompt` and `frameDecode_open` are all that later modules use of it.
-/
namespace MgmtFrame
open TextOps Utf8Text LineFraming MgmtEncoder MgmtMessage

inductive Frame where
  | success (text : Text)
  | error (text : Text)
  | notification (kind payload : Text)
  | clientEnv (event args : Text) (env : Env)
  | passwordPrompt
  | endMarker
  | info (payload : Text)
  | line (text : Text)
  deriving DecidableEq

inductive IoError where
  | invalidData
  | accumulationLimitExceeded (what : Text) (max : Nat)
  | multiLineAccumulationLimitExceeded (max : Nat)
  deriving DecidableEq, Repr

structure ClientEnvAccumulator where
  event : Text
  args : Text
  env : Env
  deriving DecidableEq

structure FrameDecoder where
  clientNotification : Option ClientEnvAccumulator
  maxClientEnvEntries : AccumulationLimit
  seenInfo : Bool
  deriving DecidableEq

def FrameDecoder.new : FrameDecoder := ⟨none, .unlimited, false⟩

def pwPrompt : Text := lit "ENTER PASSWORD:"

def carriageReturn : UInt8 := 13

def checkAccumulationLimit (currentLen : Nat) (limit : AccumulationLimit) (what : Text) :
    Except IoError Unit :=
  match limit with
  | .unlimited => .ok ()
  | .max most => if most ≤ currentLen then .error (.accumulationLimitExceeded what most) else .ok ()

abbrev Taken (α : Type) := FrameDecoder × Option (Except IoError α)

/- `trim_end_matches(['\r', '\n'])`. -/
def trimLineEnd (t : Text) : Text := t.rdropWhile fun c => c = '\r' || c = '\n'

def FrameDecoder.takeEnv (d : FrameDecoder) (accum : ClientEnvAccumulator) (rest : Text) :
    Taken Frame :=
  if rest = lit "END" then
    ({ d with clientNotification := none },
      some (.ok (.clientEnv accum.event accum.args accum.env)))
  else
    let (k, v) := (splitOnce (· == '=') rest).getD (rest, [])
    match checkAccumulationLimit accum.env.size d.maxClientEnvEntries (lit "client ENV") with
    | .error e => (d, some (.error e))
    | .ok () =>
      ({ d with clientNotification := some { accum with env := accum.env.insert k v } }, none)

def FrameDecoder.takeNotice (d : FrameDecoder) (kind payload : Text) : Taken Frame :=
  if kind = lit "INFO" then
    if d.seenInfo then (d, some (.ok (.notification kind payload)))
    else ({ d with seenInfo := true }, some (.ok (.info payload)))
  else if kind = lit "CLIENT" then
    let (event, args) := (splitOnce (· == ',') payload).getD (payload, [])
    -- ADDRESS is a single line, every other event starts a block.
    if event = lit "ADDRESS" then (d, some (.ok (.notification (lit "CLIENT") payload)))
    else ({ d with clientNotification := some ⟨event, args, ∅⟩ }, none)
  else (d, some (.ok (.notification kind payload)))

def FrameDecoder.classify (d : FrameDecoder) (line : Text) : Taken Frame :=
  match stripPrefix line (lit "SUCCESS:") with
  | some rest => (d, some (.ok (.success ((stripPrefix rest [' ']).getD rest))))
  | none =>
  match stripPrefix line (lit "ERROR:") with
  | some rest => (d, some (.ok (.error ((stripPrefix rest [' ']).getD rest))))
  | none =>
  if line = pwPrompt then (d, some (.ok .passwordPrompt))
  else if line = endMarker then (d, some (.ok .endMarker))
  else match stripPrefix line ['>'] with
    | none => (d, some (.ok (.line line)))
    | some inner =>
      match splitOnce (· == ':') inner with
      | none => (d, some (.ok (.line line)))
      | some (kind, payload) => d.takeNotice kind payload

def FrameDecoder.takeLine (d : FrameDecoder) (line : Text) : Taken Frame :=
  if line = [] ∧ d.clientNotification = none then (d, some (.ok (.line line)))
  else match d.clientNotification, stripPrefix line (lit ">CLIENT:ENV,") with
    | some accum, some rest => d.takeEnv accum rest
    | _, _ => d.classify line

def FrameDecoder.takeBytes (d : FrameDecoder) (lineBytes : Bytes) : Taken Frame :=
  match fromUtf8 lineBytes with
  | none => ({ d with clientNotification := none }, some (.error .invalidData))
  | some text => d.takeLine (trimLineEnd text)

/- The loop; every round but the last removes a line, so more rounds than bytes are never run. -/
def FrameDecoder.decodeFuel :
    Nat → FrameDecoder → Bytes → FrameDecoder × Bytes × Except IoError (Option Frame)
  | 0, d, src => (d, src, .ok none)
  | fuel + 1, d, src =>
    match splitLine newline src with
    | none =>
      match src.dropPrefix? (toUtf8 pwPrompt) with
      | some rest =>
        (d, if rest.head? = some carriageReturn then rest.tail else rest, .ok (some .passwordPrompt))
      | none => (d, src, .ok none)
    | some (lineBytes, rest) =>
      match d.takeBytes lineBytes with
      | (d, some (.ok frame)) => (d, rest, .ok (some frame))
      | (d, some (.error e)) => (d, rest, .error e)
      | (d, none) => decodeFuel fuel d rest

def FrameDecoder.decode (d : FrameDecoder) (src : Bytes) :
    FrameDecoder × Bytes × Except IoError (Option Frame) :=
  d.decodeFuel (src.length + 1) src

theorem frameDecodeFuel_enough {fuel more : Nat} (d : FrameDecoder) {src : Bytes}
    (enough : src.length < fuel) (also : src.length < more) :
    d.decodeFuel fuel src = d.decodeFuel more src := by
  induction fuel generalizing d src more with
  | zero => omega
  | succ fuel ih =>
    obtain ⟨more, rfl⟩ : ∃ n, more = n + 1 := ⟨more - 1, by omega⟩
    rcases open_or_line newline src with unfinished | ⟨body, rest, clean, rfl⟩
    · simp only [FrameDecoder.decodeFuel, splitLine_open unfinished]
    · simp only [List.length_append, List.length_cons] at enough also
      simp only [FrameDecoder.decodeFuel, splitLine_line clean]
      have tail : ∀ d : FrameDecoder, d.decodeFuel fuel rest = d.decodeFuel more rest :=
        fun d => ih d (by omega) (by omega)
      simp only [tail]

theorem frameDecode_line (d : FrameDecoder) {body : Bytes} (clean : newline ∉ body) (rest : Bytes) :
    d.decode (body ++ newline :: rest) =
      match d.takeBytes (body ++ [newline]) with
      | (d, some (.ok frame)) => (d, rest, .ok (some frame))
      | (d, some (.error e)) => (d, rest, .error e)
      | (d, none) => d.decode rest := by
  rw [FrameDecoder.decode, FrameDecoder.decodeFuel, splitLine_line clean]
  have tail : ∀ d : FrameDecoder, d.decodeFuel (body ++ newline :: rest).length rest =
      d.decodeFuel (rest.length + 1) rest :=
    fun d => frameDecodeFuel_enough d (by simp; omega) (by omega)
  simp only [tail]
  rfl

theorem frameDecode_prompt (d : FrameDecoder) {rest : Bytes}
    (unfinished : newline ∉ toUtf8 pwPrompt ++ rest) :
    d.decode (toUtf8 pwPrompt ++ rest) =
      (d, if rest.head? = some carriageReturn then rest.tail else rest,
        .ok (some .passwordPrompt)) := by
  have found : (toUtf8 pwPrompt ++ rest).dropPrefix? (toUtf8 pwPrompt) = some rest := by
    rw [List.dropPrefix?_eq_some_iff]
    exact ⟨toUtf8 pwPrompt, rfl, by simp⟩
  simp only [FrameDecoder.decode, FrameDecoder.decodeFuel, splitLine_open unfinished, found]

theorem frameDecode_open (d : FrameDecoder) {src : Bytes} (unfinished : newline ∉ src)
    (other : ¬ toUtf8 pwPrompt <+: src) : d.decode src = (d, src, .ok none) := by
  have missing : src.dropPrefix? (toUtf8 pwPrompt) = none := by
    cases h : src.dropPrefix? (toUtf8 pwPrompt) with
    | none => rfl
    | some rest =>
      obtain ⟨start, whole, same⟩ := List.dropPrefix?_eq_some_iff.mp h
      exact absurd ⟨rest, by rw [whole, eq_of_beq same]⟩ other
  simp only [FrameDecoder.decode, FrameDecoder.decodeFuel, splitLine_open unfinished, missing]

theorem frameDecode_open_cases (d : FrameDecoder) {src : Bytes} (unfinished : newline ∉ src) :
    (∃ rest, src = toUtf8 pwPrompt ++ rest) ∨ d.decode src = (d, src, .ok none) := by
  by_cases prompt : toUtf8 pwPrompt <+: src
  · obtain ⟨rest, whole⟩ := prompt
    exact Or.inl ⟨rest, whole.symm⟩
  · exact Or.inr (frameDecode_open d unfinished prompt)

theorem pwPrompt_length : (toUtf8 pwPrompt).length = 15 := by
  simp only [pwPrompt, lit_eq]
  decide

theorem frameDecode_shrinks {d after : FrameDecoder} {src rest : Bytes}
    {out : Except IoError (Option Frame)} (step : d.decode src = (after, rest, out))
    (result : out ≠ .ok none) : rest.length < src.length := by
  induction h : src.length using Nat.strongRecOn generalizing d src with
  | ind n ih =>
    rcases open_or_line newline src with unfinished | ⟨body, more, clean, rfl⟩
    · rcases frameDecode_open_cases d unfinished with ⟨tail, rfl⟩ | same
      · rw [frameDecode_prompt d unfinished] at step
        obtain ⟨-, rfl, -⟩ := step
        have := pwPrompt_length
        simp only [List.length_append] at h
        split <;> simp <;> omega
      · rw [same] at step
        obtain ⟨-, -, rfl⟩ := step
        contradiction
    · simp only [List.length_append, List.length_cons] at h
      rw [frameDecode_line d clean] at step
      split at step
      · obtain ⟨-, rfl, -⟩ := step
        omega
      · obtain ⟨-, rfl, -⟩ := step
        omega
      · have := ih more.length (by omega) step rfl
        omega

end MgmtFrame
