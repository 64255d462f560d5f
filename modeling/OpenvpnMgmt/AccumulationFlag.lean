import OpenvpnMgmt.Calls
import OpenvpnMgmt.ClientBlocks
import OpenvpnMgmt.Progress

/-!
The flag that shadows the open CLIENT block. The codec raises it when the frame decoder consumes
bytes without giving a frame, which is only seen behind the last line of a call; it lowers it at
every frame error. A header in front of another frame, and an entry refused for the limit, leave
the flag down beside an open block.
-/
namespace MgmtAccumulationFlag
open TextOps Utf8Text LineFraming MgmtEncoder MgmtCommand MgmtMessage MgmtFrame MgmtNotifications
  MgmtCodec MgmtDraining MgmtProgress MgmtServerStream MgmtMatching MgmtBlocks MgmtClientBlocks

def blockOpen (c : OvpnCodec) : Bool := c.frameDecoder.clientNotification.isSome

def Truthful (c : OvpnCodec) : Prop := c.frameDecoderAccumulating = true ↔ blockOpen c = true

instance (c : OvpnCodec) : Decidable (Truthful c) := inferInstanceAs (Decidable (_ ↔ _))

def RaisedInside (c : OvpnCodec) : Prop := c.frameDecoderAccumulating = true → blockOpen c = true

inductive Role where
  | header
  | entry
  | refused
  | last
  | foreign
  deriving DecidableEq

/- A line that is no UTF-8 ends the block as END does. -/
def roleOf (d : FrameDecoder) (lineBytes : Bytes) : Role :=
  match lineText lineBytes with
  | none => .last
  | some line =>
    match d.clientNotification, envRest line with
    | some accum, some rest =>
      if rest = lit "END" then .last
      else if Room d.maxClientEnvEntries accum.env.size then .entry
      else .refused
    | _, _ => if (header line).isSome then .header else .foreign

def roles (c : OvpnCodec) (src : Bytes) : List Role :=
  (taken c src).map fun t => roleOf t.1.frameDecoder t.2

def lastRole (c : OvpnCodec) (src : Bytes) : Option Role := (roles c src).getLast?

def behind (c : OvpnCodec) (src : Bytes) : Bytes :=
  src.drop ((taken c src).map Prod.snd).flatten.length

/- The last line of the call is the header of a block or an entry, and no prompt is behind it. -/
def StopsInside (c : OvpnCodec) (src : Bytes) : Prop :=
  (lastRole c src = some .header ∨ lastRole c src = some .entry) ∧
    ¬ toUtf8 pwPrompt <+: behind c src

instance (c : OvpnCodec) (src : Bytes) : Decidable (StopsInside c src) :=
  inferInstanceAs (Decidable (_ ∧ _))

/- The call refuses no entry, and if it takes a header with no block open before, it stops inside
   the block or ends with it. -/
def Followed (c : OvpnCodec) (src : Bytes) : Prop :=
  lastRole c src ≠ some .refused ∧
    (blockOpen c = false → .header ∈ roles c src →
      StopsInside c src ∨ lastRole c src = some .last)

instance (c : OvpnCodec) (src : Bytes) : Decidable (Followed c src) :=
  inferInstanceAs (Decidable (_ ∧ _))

/-! One line -/

inductive Effect (c : OvpnCodec) (lineBytes : Bytes) : Prop
  | joins (role : roleOf c.frameDecoder lineBytes = .header ∨
      roleOf c.frameDecoder lineBytes = .entry ∧ blockOpen c = true)
    (opened : blockOpen (c.takeBytes lineBytes).1 = true)
    (kept : (c.takeBytes lineBytes).1.frameDecoderAccumulating = c.frameDecoderAccumulating)
    (silent : (c.frameDecoder.takeBytes lineBytes).2 = none)
  | ends (role : roleOf c.frameDecoder lineBytes = .last)
    (closed : blockOpen (c.takeBytes lineBytes).1 = false)
    (lowered : (c.takeBytes lineBytes).1.frameDecoderAccumulating = false)
    (result : (c.takeBytes lineBytes).2 ≠ none)
  | refuses (role : roleOf c.frameDecoder lineBytes = .refused) (opened : blockOpen c = true)
    (same : blockOpen (c.takeBytes lineBytes).1 = true)
    (lowered : (c.takeBytes lineBytes).1.frameDecoderAccumulating = false)
    (result : (c.takeBytes lineBytes).2 ≠ none)
  | passes (role : roleOf c.frameDecoder lineBytes = .foreign)
    (same : blockOpen (c.takeBytes lineBytes).1 = blockOpen c)
    (kept : (c.takeBytes lineBytes).1.frameDecoderAccumulating = c.frameDecoderAccumulating)
    (framed : (c.frameDecoder.takeBytes lineBytes).2 ≠ none)

theorem roleOf_outside {d : FrameDecoder} {lineBytes : Bytes} {line : Text}
    (text : lineText lineBytes = some line)
    (outside : d.clientNotification = none ∨ envRest line = none) :
    roleOf d lineBytes = if (header line).isSome then .header else .foreign := by
  rcases outside with closed | missing
  · simp only [roleOf, text, closed]
  · cases opened : d.clientNotification with
    | none => simp only [roleOf, text, opened]
    | some accum => simp only [roleOf, text, opened, missing]

theorem roleOf_inside {d : FrameDecoder} {lineBytes : Bytes} {line rest : Text}
    {accum : ClientEnvAccumulator} (text : lineText lineBytes = some line)
    (opened : d.clientNotification = some accum) (inside : envRest line = some rest) :
    roleOf d lineBytes =
      if rest = lit "END" then .last
      else if Room d.maxClientEnvEntries accum.env.size then .entry
      else .refused := by
  simp only [roleOf, text, opened, inside]

theorem takeFrame_flag (c : OvpnCodec) {frame : Frame} (other : ¬ IsClientEnv frame) :
    (c.takeFrame frame).1.frameDecoderAccumulating = c.frameDecoderAccumulating := by
  cases frame with
  | clientEnv event args env => exact absurd trivial other
  | line line =>
    simp only [OvpnCodec.takeFrame, OvpnCodec.takeLine]
    repeat' split
    all_goals rfl
  | endMarker =>
    simp only [OvpnCodec.takeFrame, OvpnCodec.takeEnd]
    repeat' split
    all_goals rfl
  | _ => rfl

theorem takeBytes_effect (c : OvpnCodec) (lineBytes : Bytes) : Effect c lineBytes := by
  cases takeBytes_block c.frameDecoder lineBytes with
  | drops unreadable closed result =>
    have taken := takeBytes_failed result
    apply Effect.ends
    · simp only [roleOf, unreadable]
    · simp [taken, blockOpen, OvpnCodec.reset, OvpnCodec.withFrames, closed]
    · simp [taken, OvpnCodec.reset]
    · simp [taken]
  | closes text opened inside closed result =>
    have taken := takeBytes_framed result
    apply Effect.ends
    · rw [roleOf_inside text opened inside, if_pos rfl]
    · simp [taken, blockOpen, takeFrame_keeps, OvpnCodec.withFrames, closed]
    · simp [taken, OvpnCodec.takeFrame]
    · simp [taken, OvpnCodec.takeFrame]
  | grows text opened inside entry room grown silent =>
    have taken := takeBytes_silent silent
    apply Effect.joins
    · rw [roleOf_inside text opened inside, if_neg entry, if_pos room]
      simp [blockOpen, opened]
    · simp [taken, blockOpen, OvpnCodec.withFrames, grown]
    · simp [taken, OvpnCodec.withFrames]
    · exact silent
  | refuses text opened inside entry full same result =>
    have taken := takeBytes_failed result
    apply Effect.refuses
    · rw [roleOf_inside text opened inside, if_neg entry, if_neg full]
    · simp [blockOpen, opened]
    · simp [taken, blockOpen, OvpnCodec.reset, OvpnCodec.withFrames, same, opened]
    · simp [taken, OvpnCodec.reset]
    · simp [taken]
  | opens text outside first fresh silent =>
    have taken := takeBytes_silent silent
    apply Effect.joins
    · rw [roleOf_outside text outside, first]
      exact Or.inl rfl
    · simp [taken, blockOpen, OvpnCodec.withFrames, fresh]
    · simp [taken, OvpnCodec.withFrames]
    · exact silent
  | passes text outside plain same result other =>
    have taken := takeBytes_framed result
    apply Effect.passes
    · rw [roleOf_outside text outside, plain]
      rfl
    · simp [taken, blockOpen, takeFrame_keeps, OvpnCodec.withFrames, same]
    · rw [taken, takeFrame_flag _ other]
      rfl
    · simp [result]

/-- What a line without a result does: it keeps the flag, and is of the block only if it gives no
    frame either. -/
structure Silent (c : OvpnCodec) (lineBytes : Bytes) : Prop where
  kept : (c.takeBytes lineBytes).1.frameDecoderAccumulating = c.frameDecoderAccumulating
  opened : blockOpen (c.takeBytes lineBytes).1 = true ↔
    blockOpen c = true ∨ roleOf c.frameDecoder lineBytes = .header
  notLast : roleOf c.frameDecoder lineBytes ≠ .last
  notRefused : roleOf c.frameDecoder lineBytes ≠ .refused
  inside : roleOf c.frameDecoder lineBytes = .entry → blockOpen c = true
  frameless : roleOf c.frameDecoder lineBytes = .foreign ∨
    (c.frameDecoder.takeBytes lineBytes).2 = none

theorem takeBytes_quiet {c : OvpnCodec} {lineBytes : Bytes}
    (line : (c.takeBytes lineBytes).2 = none) : Silent c lineBytes := by
  cases takeBytes_effect c lineBytes with
  | ends role closed lowered result => exact absurd line result
  | refuses role opened same lowered result => exact absurd line result
  | joins role opened kept silent =>
    rcases role with first | ⟨entry, inside⟩
    · constructor <;> simp [kept, opened, first, silent]
    · constructor <;> simp [kept, opened, entry, inside, silent]
  | passes role same kept framed => constructor <;> simp [kept, same, role]

/-! One call -/

theorem decode_silent (c : OvpnCodec) {body rest : Bytes} (clean : newline ∉ body)
    (line : (c.frameDecoder.takeBytes (body ++ [newline])).2 = none)
    (more : newline ∈ rest ∨ toUtf8 pwPrompt <+: rest) :
    c.decode (body ++ newline :: rest) = (c.takeBytes (body ++ [newline])).1.decode rest := by
  have step := takeBytes_split line
  rw [takeBytes_silent line]
  generalize (c.frameDecoder.takeBytes (body ++ [newline])).1 = d at step
  have carried (next : FrameDecoder) : (c.withFrames d).withFrames next = c.withFrames next := rfl
  have inner : (c.withFrames d).frameDecoder = d := rfl
  have consumed := frameDecode_consumes d more
  have longer : rest.length < (body ++ newline :: rest).length := by simp; omega
  rw [decode_round, frameDecode_line _ clean, step, decode_round (c.withFrames d) rest, inner]
  simp only [carried]
  rcases frames : d.decode rest with ⟨last, left, e | _ | frame⟩
  · rfl
  · rw [frames] at consumed
    simp only [decide_eq_true consumed, decide_eq_true (Nat.lt_trans consumed longer), Bool.or_true]
  · rfl

theorem decode_raises (c : OvpnCodec) {body rest : Bytes} (clean : newline ∉ body)
    (line : (c.frameDecoder.takeBytes (body ++ [newline])).2 = none)
    (unfinished : newline ∉ rest) (other : ¬ toUtf8 pwPrompt <+: rest) :
    (c.decode (body ++ newline :: rest)).1 =
      { (c.takeBytes (body ++ [newline])).1 with frameDecoderAccumulating := true } := by
  have step := takeBytes_split line
  rw [takeBytes_silent line]
  generalize (c.frameDecoder.takeBytes (body ++ [newline])).1 = d at step
  have longer : rest.length < (body ++ newline :: rest).length := by simp; omega
  rw [decode_round, frameDecode_line _ clean, step]
  simp only [frameDecode_open d unfinished other, decide_eq_true longer, Bool.or_true]

section Framed
variable (c : OvpnCodec) {body rest : Bytes} (clean : newline ∉ body)
  (framed : (c.frameDecoder.takeBytes (body ++ [newline])).2 ≠ none)

include clean framed

theorem decode_framed :
    c.decode (body ++ newline :: rest) =
      match c.takeBytes (body ++ [newline]) with
      | (c, some out) => (c, rest, out.map some)
      | (c, none) => c.decode rest := by
  rw [decode_round, frameDecode_line _ clean, OvpnCodec.takeBytes]
  rcases step : c.frameDecoder.takeBytes (body ++ [newline]) with ⟨d, _ | e | frame⟩
  · rw [step] at framed
    contradiction
  · rfl
  · rfl

theorem decode_skips (line : (c.takeBytes (body ++ [newline])).2 = none) :
    c.decode (body ++ newline :: rest) = (c.takeBytes (body ++ [newline])).1.decode rest := by
  rw [decode_framed c clean framed]
  rcases taken : c.takeBytes (body ++ [newline]) with ⟨after, _ | out⟩
  · rfl
  · simp [taken] at line

theorem decode_returns (line : (c.takeBytes (body ++ [newline])).2 ≠ none) :
    (c.decode (body ++ newline :: rest)).1 = (c.takeBytes (body ++ [newline])).1 := by
  rw [decode_framed c clean framed]
  rcases taken : c.takeBytes (body ++ [newline]) with ⟨after, _ | out⟩
  · simp [taken] at line
  · rfl

end Framed

inductive Trace : OvpnCodec → Bytes → OvpnCodec → Prop
  | quiet {c : OvpnCodec} {src : Bytes} (unfinished : newline ∉ src) : Trace c src c
  | result {c : OvpnCodec} {body rest : Bytes} (clean : newline ∉ body)
    (line : (c.takeBytes (body ++ [newline])).2 ≠ none) :
    Trace c (body ++ newline :: rest) (c.takeBytes (body ++ [newline])).1
  | raises {c : OvpnCodec} {body rest : Bytes} (clean : newline ∉ body)
    (line : (c.frameDecoder.takeBytes (body ++ [newline])).2 = none)
    (unfinished : newline ∉ rest) (other : ¬ toUtf8 pwPrompt <+: rest) :
    Trace c (body ++ newline :: rest)
      { (c.takeBytes (body ++ [newline])).1 with frameDecoderAccumulating := true }
  | silent {c last : OvpnCodec} {body rest : Bytes} (clean : newline ∉ body)
    (line : (c.takeBytes (body ++ [newline])).2 = none)
    (more : (c.frameDecoder.takeBytes (body ++ [newline])).2 = none →
      newline ∈ rest ∨ toUtf8 pwPrompt <+: rest)
    (later : Trace (c.takeBytes (body ++ [newline])).1 rest last) :
    Trace c (body ++ newline :: rest) last

theorem decode_trace (c : OvpnCodec) (src : Bytes) : Trace c src (c.decode src).1 := by
  induction h : src.length using Nat.strongRecOn generalizing c src with
  | ind n ih =>
    rcases open_or_line newline src with unfinished | ⟨body, rest, clean, rfl⟩
    · rw [decode_unfinished c unfinished]
      exact .quiet unfinished
    · simp only [List.length_append, List.length_cons] at h
      have later := ih rest.length (by omega) (c.takeBytes (body ++ [newline])).1 rest rfl
      by_cases framed : (c.frameDecoder.takeBytes (body ++ [newline])).2 = none
      · by_cases more : newline ∈ rest ∨ toUtf8 pwPrompt <+: rest
        · rw [decode_silent c clean framed more]
          have line := congrArg Prod.snd (takeBytes_silent framed)
          exact .silent clean line (fun _ => more) later
        · rw [not_or] at more
          rw [decode_raises c clean framed more.1 more.2]
          exact .raises clean framed more.1 more.2
      · by_cases line : (c.takeBytes (body ++ [newline])).2 = none
        · rw [decode_skips c clean framed line]
          exact .silent clean line (fun silent => absurd silent framed) later
        · rw [decode_returns c clean framed line]
          exact .result clean line

/-! What a call does to the flag -/

theorem roles_open (c : OvpnCodec) {src : Bytes} (unfinished : newline ∉ src) :
    roles c src = [] := by
  rw [roles, taken_open c unfinished]
  rfl

theorem behind_open (c : OvpnCodec) {src : Bytes} (unfinished : newline ∉ src) :
    behind c src = src := by
  rw [behind, taken_open c unfinished]
  rfl

section Behind
variable (c : OvpnCodec) {body rest : Bytes} (clean : newline ∉ body)

include clean

theorem roles_result (line : (c.takeBytes (body ++ [newline])).2 ≠ none) :
    roles c (body ++ newline :: rest) = [roleOf c.frameDecoder (body ++ [newline])] := by
  rw [roles, taken_line c clean]
  rcases taken : c.takeBytes (body ++ [newline]) with ⟨after, _ | out⟩
  · simp [taken] at line
  · rfl

variable (line : (c.takeBytes (body ++ [newline])).2 = none)

include line

theorem taken_silent :
    taken c (body ++ newline :: rest) =
      (c, body ++ [newline]) :: taken (c.takeBytes (body ++ [newline])).1 rest := by
  rw [taken_line c clean]
  rcases taken : c.takeBytes (body ++ [newline]) with ⟨after, _ | out⟩
  · rfl
  · simp [taken] at line

theorem roles_silent :
    roles c (body ++ newline :: rest) =
      roleOf c.frameDecoder (body ++ [newline]) ::
        roles (c.takeBytes (body ++ [newline])).1 rest := by
  rw [roles, taken_silent c clean line]
  rfl

theorem behind_silent :
    behind c (body ++ newline :: rest) = behind (c.takeBytes (body ++ [newline])).1 rest := by
  have front : body ++ newline :: rest = (body ++ [newline]) ++ rest := by simp
  rw [behind, taken_silent c clean line, behind, front, List.map_cons, List.flatten_cons,
    List.length_append, List.drop_length_add_append]

theorem begun_silent :
    (blockOpen c = true ∨ .header ∈ roles c (body ++ newline :: rest)) ↔
      (blockOpen (c.takeBytes (body ++ [newline])).1 = true ∨
        .header ∈ roles (c.takeBytes (body ++ [newline])).1 rest) := by
  rw [roles_silent c clean line, (takeBytes_quiet line).opened, List.mem_cons, or_assoc,
    eq_comm (a := Role.header)]

theorem lastRole_silent :
    lastRole c (body ++ newline :: rest) =
      some ((lastRole (c.takeBytes (body ++ [newline])).1 rest).getD
        (roleOf c.frameDecoder (body ++ [newline]))) := by
  rw [lastRole, roles_silent c clean line, List.getLast?_cons]
  rfl

theorem stopsInside_later {role : Role}
    (later : lastRole (c.takeBytes (body ++ [newline])).1 rest = some role) :
    StopsInside c (body ++ newline :: rest) ↔
      StopsInside (c.takeBytes (body ++ [newline])).1 rest := by
  rw [StopsInside, StopsInside, lastRole_silent c clean line, behind_silent c clean line, later,
    Option.getD_some]

end Behind

theorem lastRole_open (c : OvpnCodec) (src : Bytes) :
    lastRole c src = none ↔ newline ∉ src := by
  rw [lastRole, List.getLast?_eq_none_iff, roles, List.map_eq_nil_iff]
  constructor
  · intro nothing
    rcases open_or_line newline src with unfinished | ⟨body, rest, clean, rfl⟩
    · exact unfinished
    · rw [taken_line c clean] at nothing
      cases nothing
  · exact taken_open c

/-- The flag and the block behind a call, from the roles of its lines. -/
structure CallLaw (c : OvpnCodec) (src : Bytes) (after : OvpnCodec) : Prop where
  flag : after.frameDecoderAccumulating = true ↔
    c.frameDecoderAccumulating = true ∧ lastRole c src ≠ some .last ∧
      lastRole c src ≠ some .refused ∨ StopsInside c src
  block : blockOpen after = true ↔
    (blockOpen c = true ∨ .header ∈ roles c src) ∧ lastRole c src ≠ some .last
  inside : lastRole c src = some .entry ∨ lastRole c src = some .refused →
    blockOpen c = true ∨ .header ∈ roles c src

section Laws
variable {c : OvpnCodec} {body rest : Bytes} (clean : newline ∉ body)

theorem law_quiet {src : Bytes} (unfinished : newline ∉ src) : CallLaw c src c := by
  have nothing := (lastRole_open c src).mpr unfinished
  constructor
  · simp [StopsInside, nothing]
  · simp [nothing, roles_open c unfinished]
  · simp [nothing]

include clean

theorem law_result (line : (c.takeBytes (body ++ [newline])).2 ≠ none) :
    CallLaw c (body ++ newline :: rest) (c.takeBytes (body ++ [newline])).1 := by
  have only : roles c (body ++ newline :: rest) = _ := roles_result c clean line
  have final : lastRole c (body ++ newline :: rest) = _ := congrArg List.getLast? only
  rw [List.getLast?_singleton] at final
  cases takeBytes_effect c (body ++ [newline]) with
  | joins role opened kept silent => exact absurd (congrArg Prod.snd (takeBytes_silent silent)) line
  | ends role closed lowered result =>
    rw [role] at final
    constructor <;> simp [StopsInside, final, lowered, closed]
  | refuses role opened same lowered result =>
    rw [role] at final
    constructor <;> simp [StopsInside, final, lowered, same, opened]
  | passes role same kept framed =>
    rw [role] at only final
    constructor <;> simp [StopsInside, only, final, same, kept]

theorem law_raises (line : (c.frameDecoder.takeBytes (body ++ [newline])).2 = none)
    (unfinished : newline ∉ rest) (other : ¬ toUtf8 pwPrompt <+: rest) :
    CallLaw c (body ++ newline :: rest)
      { (c.takeBytes (body ++ [newline])).1 with frameDecoderAccumulating := true } := by
  have silently := congrArg Prod.snd (takeBytes_silent line)
  have only : roles c (body ++ newline :: rest) = _ := roles_silent c clean silently
  have final : lastRole c (body ++ newline :: rest) = _ := lastRole_silent c clean silently
  have left : behind c (body ++ newline :: rest) = _ := behind_silent c clean silently
  rw [roles_open _ unfinished] at only
  rw [(lastRole_open _ rest).mpr unfinished, Option.getD_none] at final
  rw [behind_open _ unfinished] at left
  cases takeBytes_effect c (body ++ [newline]) with
  | joins role opened kept silent =>
    have opened : blockOpen { (c.takeBytes (body ++ [newline])).1 with
        frameDecoderAccumulating := true } = true := opened
    rcases role with first | ⟨entry, inside⟩
    · rw [first] at only final
      constructor <;> simp [StopsInside, only, final, left, other, opened]
    · rw [entry] at only final
      constructor <;> simp [StopsInside, final, left, other, opened, inside]
  | ends role closed lowered result => exact absurd silently result
  | refuses role opened same lowered result => exact absurd silently result
  | passes role same kept framed => exact absurd line framed

theorem law_silent {last : OvpnCodec} (line : (c.takeBytes (body ++ [newline])).2 = none)
    (more : (c.frameDecoder.takeBytes (body ++ [newline])).2 = none →
      newline ∈ rest ∨ toUtf8 pwPrompt <+: rest)
    (law : CallLaw (c.takeBytes (body ++ [newline])).1 rest last) :
    CallLaw c (body ++ newline :: rest) last := by
  obtain ⟨flag, block, inside⟩ := law
  have quiet := takeBytes_quiet line
  have final : lastRole c (body ++ newline :: rest) = _ := lastRole_silent c clean line
  rw [quiet.kept] at flag
  rw [← begun_silent c clean line] at block inside
  cases later : lastRole (c.takeBytes (body ++ [newline])).1 rest with
  | some role =>
    have stops := stopsInside_later c clean line later
    rw [later, Option.getD_some] at final
    rw [later, ← final, ← stops] at flag
    rw [later, ← final] at block inside
    exact ⟨flag, block, inside⟩
  | none =>
    -- The line is the last one. If it is of the block, only a prompt can be behind it.
    have unfinished := (lastRole_open _ rest).mp later
    have left : behind c (body ++ newline :: rest) = _ := behind_silent c clean line
    rw [behind_open _ unfinished] at left
    rw [later, Option.getD_none] at final
    have stays : ¬ StopsInside c (body ++ newline :: rest) := by
      rcases quiet.frameless with foreign | frameless
      · simp [StopsInside, final, foreign]
      · have prompt := (more frameless).resolve_left unfinished
        simp [StopsInside, left, prompt]
    have apart : ¬ StopsInside (c.takeBytes (body ++ [newline])).1 rest := by
      simp [StopsInside, later]
    constructor
    · simp [flag, later, final, stays, apart, quiet.notLast, quiet.notRefused]
    · simp [block, later, final, quiet.notLast]
    · rw [final]
      rintro (entry | refused)
      · exact Or.inl (quiet.inside (Option.some.inj entry))
      · exact absurd (Option.some.inj refused) quiet.notRefused

end Laws

theorem trace_law {c after : OvpnCodec} {src : Bytes} (trace : Trace c src after) :
    CallLaw c src after := by
  induction trace with
  | quiet unfinished => exact law_quiet unfinished
  | result clean line => exact law_result clean line
  | raises clean line unfinished other => exact law_raises clean line unfinished other
  | silent clean line more later ih => exact law_silent clean line more ih

theorem decode_law (c : OvpnCodec) (src : Bytes) : CallLaw c src (c.decode src).1 :=
  trace_law (decode_trace c src)

theorem stopsInside_open {c after : OvpnCodec} {src : Bytes} (law : CallLaw c src after)
    (stops : StopsInside c src) :
    (blockOpen c = true ∨ .header ∈ roles c src) ∧ lastRole c src ≠ some .last ∧
      lastRole c src ≠ some .refused := by
  rcases stops.1 with first | entry
  · exact ⟨Or.inr (List.mem_of_getLast? first), by simp [first], by simp [first]⟩
  · exact ⟨law.inside (Or.inl entry), by simp [entry], by simp [entry]⟩

theorem truthful_call {c : OvpnCodec} (truthful : Truthful c) (src : Bytes) :
    Truthful (c.decode src).1 ↔ Followed c src := by
  have law := decode_law c src
  have stops := stopsInside_open law
  have refusal := fun refused => law.inside (Or.inr refused)
  have before : c.frameDecoderAccumulating = true ↔ blockOpen c = true := truthful
  rw [Truthful, law.flag, law.block, before, Followed]
  constructor
  · intro same
    have kept : lastRole c src ≠ some .refused := by
      intro refused
      have opened := refusal refused
      rcases same.mpr ⟨opened, by simp [refused]⟩ with ⟨-, -, other⟩ | stopped
      · exact other refused
      · exact (stops stopped).2.2 refused
    refine ⟨kept, fun closed first => ?_⟩
    by_cases ended : lastRole c src = some .last
    · exact Or.inr ended
    · rcases same.mpr ⟨Or.inr first, ended⟩ with ⟨opened, -⟩ | stopped
      · simp [closed] at opened
      · exact Or.inl stopped
  · rintro ⟨kept, follows⟩
    constructor
    · rintro (⟨opened, other, -⟩ | stopped)
      · exact ⟨Or.inl opened, other⟩
      · exact ⟨(stops stopped).1, (stops stopped).2.1⟩
    · rintro ⟨opened, other⟩
      cases block : blockOpen c with
      | true => exact Or.inl ⟨rfl, other, kept⟩
      | false =>
        have first := opened.resolve_left (by simp [block])
        exact Or.inr ((follows block first).resolve_right other)

/-- Whatever the lines, a raised flag stands beside an open block. -/
theorem raised_call {c : OvpnCodec} (inside : RaisedInside c) (src : Bytes) :
    RaisedInside (c.decode src).1 := by
  intro raised
  have law := decode_law c src
  rw [law.block]
  rcases law.flag.mp raised with ⟨before, other, -⟩ | stopped
  · exact ⟨Or.inl (inside before), other⟩
  · have opened := stopsInside_open law stopped
    exact ⟨opened.1, opened.2.1⟩

/-! Runs of calls -/

inductive CodecCall where
  | encode (item : OvpnCommand) (dst : Bytes)
  | decode (src : Bytes)

section Runs
variable (engine : Bytes → Text)

def callOn (c : OvpnCodec) : CodecCall → OvpnCodec
  | .encode item dst => (c.encode engine item dst).1
  | .decode src => (c.decode src).1

def codecAfter (c : OvpnCodec) (calls : List CodecCall) : OvpnCodec := calls.foldl (callOn engine) c

theorem codecAfter_snoc (c : OvpnCodec) (calls : List CodecCall) (call : CodecCall) :
    codecAfter engine c (calls ++ [call]) = callOn engine (codecAfter engine c calls) call := by
  simp [codecAfter]

theorem codecAfter_keeps {inv : OvpnCodec → Prop} {start : OvpnCodec} (begins : inv start)
    (encodes : ∀ {c} item dst, inv c → inv (c.encode engine item dst).1) (calls : List CodecCall)
    (decodes : ∀ front src back, calls = front ++ .decode src :: back →
      inv (codecAfter engine start front) → inv ((codecAfter engine start front).decode src).1) :
    inv (codecAfter engine start calls) := by
  induction calls using List.reverseRecOn with
  | nil => exact begins
  | append_singleton earlier call ih =>
    have before : inv (codecAfter engine start earlier) := by
      apply ih
      intro front src back shape
      exact decodes front src (back ++ [call]) (by simp [shape])
    rw [codecAfter_snoc]
    cases call with
    | encode item dst => exact encodes item dst before
    | decode src => exact decodes earlier src [] rfl before

theorem encode_truthful {c : OvpnCodec} (item : OvpnCommand) (dst : Bytes)
    (truthful : Truthful c) : Truthful (c.encode engine item dst).1 := by
  rw [encode_codec]
  exact truthful

/-- In every run the flag is truthful at every return of `decode` exactly if every call of `decode`
    follows the block. -/
theorem flag_truthful_iff (limit envLimit : AccumulationLimit) (mode : EncoderMode)
    (calls : List CodecCall) :
    let start := ((OvpnCodec.new.withMaxMultiLineLines limit).withMaxClientEnvEntries
      envLimit).withEncoderMode mode
    (∀ front src back, calls = front ++ .decode src :: back →
        Truthful ((codecAfter engine start front).decode src).1) ↔
      ∀ front src back, calls = front ++ .decode src :: back →
        Followed (codecAfter engine start front) src := by
  intro start
  have begins : Truthful start := ⟨fun raised => (by cases raised), fun opened => (by cases opened)⟩
  constructor
  · intro truthful front src back shape
    have before : Truthful (codecAfter engine start front) := by
      apply codecAfter_keeps engine begins (encode_truthful engine)
      intro earlier inner more parts _
      exact truthful earlier inner (more ++ .decode src :: back) (by simp [shape, parts])
    exact (truthful_call before src).mp (truthful front src back shape)
  · intro followed front src back shape
    have before : Truthful (codecAfter engine start front) := by
      apply codecAfter_keeps engine begins (encode_truthful engine)
      intro earlier inner more parts truthful
      have follows := followed earlier inner (more ++ .decode src :: back) (by simp [shape, parts])
      exact (truthful_call truthful inner).mpr follows
    exact (truthful_call before src).mpr (followed front src back shape)

theorem raised_inside_run (limit envLimit : AccumulationLimit) (mode : EncoderMode)
    (calls : List CodecCall) :
    RaisedInside (codecAfter engine (((OvpnCodec.new.withMaxMultiLineLines
      limit).withMaxClientEnvEntries envLimit).withEncoderMode mode) calls) := by
  apply codecAfter_keeps engine (fun raised => (by cases raised))
  · intro c item dst inside
    rw [encode_codec]
    exact inside
  · intro front src back _ inside
    exact raised_call inside src

def callsOf : Endpoint → List Step → List CodecCall
  | _, [] => []
  | e, .encode cmd :: more => .encode cmd e.sent :: callsOf (step engine e (.encode cmd)).1 more
  | e, .receive chunk :: more => callsOf (step engine e (.receive chunk)).1 more
  | e, .poll :: more => .decode e.buffer :: callsOf (step engine e .poll).1 more

theorem run_codec (e : Endpoint) (steps : List Step) :
    (run engine e steps).1.codec = codecAfter engine e.codec (callsOf engine e steps) := by
  induction steps generalizing e with
  | nil => rfl
  | cons s more ih =>
    rw [run]
    cases s with
    | encode cmd => exact ih _
    | receive chunk => exact ih _
    | poll => exact ih _

theorem raised_inside_endpoint (limit envLimit : AccumulationLimit) (mode : EncoderMode)
    (steps : List Step) :
    RaisedInside (run engine ⟨((OvpnCodec.new.withMaxMultiLineLines limit).withMaxClientEnvEntries
      envLimit).withEncoderMode mode, [], []⟩ steps).1.codec := by
  rw [run_codec]
  exact raised_inside_run engine limit envLimit mode _

end Runs

/-- A header in front of another notification, and an entry refused by a block that has no room:
    `decode` returns with a block open and the flag down. -/
theorem open_block_unflagged :
    let first := codecAfter (fun _ => []) OvpnCodec.new
      [.decode (wire [lit ">CLIENT:CONNECT,0,1", lit ">HOLD:Waiting"])]
    let second := codecAfter (fun _ => []) (OvpnCodec.new.withMaxClientEnvEntries (.max 0))
      [.decode (wire [lit ">CLIENT:CONNECT,0,1", lit ">CLIENT:ENV,n_clients=0"])]
    ¬ Truthful first ∧ blockOpen first = true ∧ ¬ Truthful second ∧ blockOpen second = true := by
  decide +kernel

end MgmtAccumulationFlag
