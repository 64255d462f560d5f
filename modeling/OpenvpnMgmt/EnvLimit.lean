import OpenvpnMgmt.ClientBlocks

/-!
When the limit on the entries of a CLIENT block fires. The decoder compares the limit with the
entries it has before it stores the next one, so a line that only replaces a value is refused by
a full block.
-/
namespace MgmtEnvLimit
open TextOps Utf8Text LineFraming MgmtEncoder MgmtMessage MgmtFrame MgmtServerStream
  MgmtClientBlocks

structure Joins (t : FrameDecoder × Bytes) (accum : ClientEnvAccumulator) (rest : Text) : Prop where
  opened : t.1.clientNotification = some accum
  inside : (lineText t.2).bind envRest = some rest
  entry : rest ≠ lit "END"

def stored (accum : ClientEnvAccumulator) (rest : Text) : Env :=
  accum.env.insert (entryOf rest).1 (entryOf rest).2

def limitError (n : Nat) : IoError := .accumulationLimitExceeded (lit "client ENV") n

/- The call of `decode` that comes to the line returns the error. -/
def Refuses (n : Nat) (t : FrameDecoder × Bytes) : Prop :=
  ∀ rest, (t.1.decode (t.2 ++ rest)).2 = (rest, .error (limitError n))

/- The line is refused exactly when it would take the block over the limit. -/
def FiresExactly (n : Nat) (t : FrameDecoder × Bytes) : Prop :=
  ∀ accum rest, Joins t accum rest → (Refuses n t ↔ n < (stored accum rest).size)

def NewOrRoom (n : Nat) (t : FrameDecoder × Bytes) : Prop :=
  ∀ accum rest, Joins t accum rest → (entryOf rest).1 ∉ accum.env ∨ accum.env.size < n

/-! One line -/

theorem takeBytes_joins {n : Nat} {t : FrameDecoder × Bytes} {accum : ClientEnvAccumulator}
    {rest : Text} (config : t.1.maxClientEnvEntries = .max n) (joins : Joins t accum rest) :
    (t.1.takeBytes t.2).2 = if n ≤ accum.env.size then some (.error (limitError n)) else none := by
  obtain ⟨opened, inside, entry⟩ := joins
  obtain ⟨line, text, env⟩ := Option.bind_eq_some_iff.mp inside
  rw [takeBytes_lineText t.1 text]
  rcases takeLine_cases t.1 line with ⟨accum', rest', opened', env', taken⟩ | ⟨outside, -⟩
  · rw [opened] at opened'
    rw [env] at env'
    cases opened'
    cases env'
    rw [taken, FrameDecoder.takeEnv, if_neg entry]
    simp only [checkAccumulationLimit, config]
    by_cases full : n ≤ accum.env.size
    · simp only [if_pos full, limitError]
    · simp only [if_neg full]
  · rcases outside with closed | other
    · rw [opened] at closed
      cases closed
    · rw [env] at other
      cases other

theorem refuses_iff {n : Nat} {t : FrameDecoder × Bytes} {accum : ClientEnvAccumulator}
    {rest : Text} (config : t.1.maxClientEnvEntries = .max n) (joins : Joins t accum rest)
    (whole : IsLine newline t.2) : Refuses n t ↔ n ≤ accum.env.size := by
  have taken := takeBytes_joins config joins
  obtain ⟨body, shape, clean⟩ := whole
  have whole : ∀ more, t.2 ++ more = body ++ newline :: more := by
    intro more
    rw [shape, List.append_assoc]
    rfl
  have call := frameDecode_line t.1 clean
  rw [← shape] at call
  rcases line : t.1.takeBytes t.2 with ⟨after, out⟩
  rw [line] at taken
  simp only at taken
  constructor
  · intro refused
    by_contra room
    have quiet := refused []
    rw [whole, call, line, taken, if_neg room] at quiet
    simp only at quiet
    have waits : after.decode [] = (after, [], .ok none) := frameDecode_open after (by simp) (by
      simp only [List.prefix_nil]
      intro empty
      have size := pwPrompt_length
      rw [empty] at size
      cases size)
    rw [waits] at quiet
    cases quiet
  · intro full more
    rw [whole, call, line, taken, if_pos full]

theorem stored_size (accum : ClientEnvAccumulator) (rest : Text) :
    (stored accum rest).size =
      if (entryOf rest).1 ∈ accum.env then accum.env.size else accum.env.size + 1 :=
  Std.ExtTreeMap.size_insert

/-! A run -/

theorem recorded_size {n : Nat} {entries : List Entry} {env : Env}
    (recorded : Recorded (.max n) entries env) : env.size ≤ n := by
  induction recorded with
  | empty => exact Nat.zero_le n
  | kept before room key value ih =>
    have small := room n rfl
    have grown := Std.ExtTreeMap.size_insert_le (t := ‹Env›) (k := key) (v := value)
    omega
  | refused before full key value ih => exact ih

theorem history_isLine (r : Reading) (steps : List ReadStep) :
    ∀ t ∈ history r steps, IsLine newline t.2 := by
  induction steps generalizing r with
  | nil => simp [history]
  | cons s more ih =>
    cases s with
    | receive chunk => exact ih (readStep r (.receive chunk)).1
    | poll =>
      intro t member
      rcases List.mem_append.mp member with here | later
      · exact rounds_isLine FrameDecoder.takeBytes r.decoder r.buffer t here
      · exact ih (readStep r .poll).1 t later

theorem history_decoder {n : Nat} {steps : List ReadStep} {t : FrameDecoder × Bytes}
    (member : t ∈ history (startReading (.max n)) steps) :
    t.1.maxClientEnvEntries = .max n ∧
      ∀ accum, t.1.clientNotification = some accum → accum.env.size ≤ n := by
  obtain ⟨front, back, shape⟩ := List.append_of_mem member
  have chain := read_history (startReading (.max n)) steps
  rw [shape] at chain
  obtain ⟨mid, before, after⟩ := chained_split chain
  obtain ⟨tracks, config⟩ := chained_tracks before .closed rfl
  cases after with
  | cons rest =>
    refine ⟨config, ?_⟩
    intro accum opened
    rw [opened] at tracks
    generalize front.foldl gather none = block at tracks
    cases tracks with
    | opened event args recorded => exact recorded_size recorded

theorem firesExactly_iff {n : Nat} {steps : List ReadStep} {t : FrameDecoder × Bytes}
    (member : t ∈ history (startReading (.max n)) steps) : FiresExactly n t ↔ NewOrRoom n t := by
  obtain ⟨config, bounded⟩ := history_decoder member
  have whole := history_isLine _ steps t member
  unfold FiresExactly NewOrRoom
  apply forall_congr'
  intro accum
  apply forall_congr'
  intro rest
  apply imp_congr_right
  intro joins
  have small := bounded accum joins.opened
  rw [refuses_iff config joins whole, stored_size]
  split
  · rename_i known
    simp only [known, not_true_eq_false, false_or]
    omega
  · rename_i new
    simp only [new, not_false_eq_true, true_or, iff_true]
    omega

/-- Over a run, the limit fires on the lines that would exceed it and on no others exactly when no
    key is repeated while its block is full. -/
theorem env_limit_exact_iff (n : Nat) (steps : List ReadStep) :
    let lines := history (startReading (.max n)) steps
    (∀ t ∈ lines, FiresExactly n t) ↔ ∀ t ∈ lines, NewOrRoom n t := by
  intro lines
  apply forall₂_congr
  intro t member
  exact firesExactly_iff member

def repeatedKey : List ReadStep :=
  [.receive (wire [lit ">CLIENT:CONNECT,1", lit ">CLIENT:ENV,a=1", lit ">CLIENT:ENV,a=2",
    lit ">CLIENT:ENV,END"]), .poll]

/-- With room for one key, the second value of that key is refused. -/
theorem repeated_key_refused :
    ∃ t ∈ history (startReading (.max 1)) repeatedKey, ∃ accum rest, Joins t accum rest ∧
      (entryOf rest).1 ∈ accum.env ∧ Refuses 1 t ∧ ¬ 1 < (stored accum rest).size := by
  let accum : ClientEnvAccumulator := ⟨lit "CONNECT", ['1'], lastWins [⟨['a'], ['1'], false⟩]⟩
  let t : FrameDecoder × Bytes :=
    (⟨some accum, .max 1, false⟩, toUtf8 (lit ">CLIENT:ENV,a=2") ++ [newline])
  have member : t ∈ history (startReading (.max 1)) repeatedKey := by decide +kernel
  have joins : Joins t accum (lit "a=2") := ⟨rfl, by decide +kernel, by decide +kernel⟩
  refine ⟨t, member, accum, lit "a=2", joins, by decide +kernel, ?_, by decide +kernel⟩
  rw [refuses_iff rfl joins (history_isLine _ repeatedKey t member)]
  decide +kernel

end MgmtEnvLimit
