import OpenvpnMgmt.Pipelining

/-!
Multi-line blocks: which body lines reach a block unharmed. And the lines that one call of
`decode` takes, whichever they are.
-/
namespace MgmtBlocks
open TextOps Utf8Text LineFraming MgmtEncoder MgmtValues MgmtCommand MgmtMessage MgmtFrame
  MgmtNotifications MgmtCodec MgmtDraining MgmtServerStream MgmtMatching MgmtPipelining

/-! One block, received whole -/

/-- The body lines of the statement: one line each, no marker, no notification. -/
structure BodyText (line : Text) : Prop where
  oneLine : '\n' ∉ line
  noReturn : line.getLast? ≠ some '\r'
  notEnd : line ≠ endMarker
  notNotice : line.head? ≠ some '>'

theorem trimLineEnd_bodyText {line : Text} (body : BodyText line) : trimLineEnd line = line :=
  trimLineEnd_whole ⟨body.oneLine, body.noReturn⟩

/- Lines the frame decoder hands out as something else than a line of a block. -/
def Captured (line : Text) : Prop := IsSingle line ∨ line = pwPrompt

instance (line : Text) : Decidable (Captured line) := inferInstanceAs (Decidable (_ ∨ _))

theorem unclaimed_of_not_captured {line : Text} (body : BodyText line) (free : ¬ Captured line) :
    Unclaimed line :=
  ⟨body.notNotice, fun success => free (Or.inl (Or.inl success)),
    fun error => free (Or.inl (Or.inr error)), fun prompt => free (Or.inr prompt), body.notEnd⟩

/-- Unclaimed lines gather in the block, and END hands it out. -/
theorem drained_block {lines : List Text} (c : OvpnCodec)
    (bodies : ∀ line ∈ lines, BodyText line) (plain : ∀ line ∈ lines, Unclaimed line)
    (front : c.expectedFront = .multiLine)
    (fits : ∀ most, c.maxMultiLineLines = .max most →
      (c.multiLineBuf.getD []).length + lines.length ≤ most) :
    drained c (wire (lines ++ [endMarker])) =
      (forget { c with multiLineBuf := none }.consumeExpected, [],
        [.ok (.multiLine (c.multiLineBuf.getD [] ++ lines))]) := by
  induction lines generalizing c with
  | nil =>
    rw [List.nil_append, drained_raw c (by decide), takeBytes_end (by decide) (Or.inr front)]
    simp [drained_nil, report]
  | cons line later ih =>
    have body := bodies line (by simp)
    have trimmed := trimLineEnd_bodyText body
    have unclaimed : Unclaimed (trimLineEnd line) := by
      rw [trimmed]
      exact plain line (by simp)
    have taken := takeBytes_body unclaimed (Or.inr front) (within_room fits)
    rw [trimmed] at taken
    have tail := ih { c with multiLineBuf := some (c.multiLineBuf.getD [] ++ [line]) }
      (fun l member => bodies l (by simp [member])) (fun l member => plain l (by simp [member]))
      front
      (fun most most_eq => by
        have := fits most most_eq
        simp at this ⊢
        omega)
    rw [List.cons_append, drained_raw c body.oneLine, taken]
    simp only [tail, report]
    simp

theorem takeBytes_captured (c : OvpnCodec) {line : Text} (captured : Captured line)
    (trimmed : trimLineEnd line = line) :
    ∃ after message, c.takeBytes (toUtf8 line ++ [newline]) = (after, some (.ok message)) ∧
      ∀ lines, message ≠ .multiLine lines := by
  rw [takeBytes_raw, trimmed]
  rcases captured with single | rfl
  · obtain ⟨taken, ⟨text, frame⟩ | ⟨text, frame⟩⟩ := takeLine_single c.frameDecoder single
    · exact ⟨_, .success text, by simp only [taken, frame]; rfl, by simp⟩
    · exact ⟨_, .error text, by simp only [taken, frame]; rfl, by simp⟩
  · exact ⟨_, .passwordPrompt, by simp only [takeLine_prompt]; rfl, by simp⟩

theorem drained_captured {line : Text} (captured : Captured line) (body : BodyText line)
    {lines : List Text} (bodies : ∀ l ∈ lines, '\n' ∉ l) (member : line ∈ lines) (c : OvpnCodec) :
    ∃ message, .ok message ∈ (drained c (wire lines)).2.2 ∧ ∀ ls, message ≠ .multiLine ls := by
  induction lines generalizing c with
  | nil => simp at member
  | cons first later ih =>
    rw [drained_raw c (bodies first (by simp))]
    rcases List.mem_cons.mp member with rfl | deeper
    · obtain ⟨after, message, taken, other⟩ :=
        takeBytes_captured c captured (trimLineEnd_bodyText body)
      exact ⟨message, by simp [taken, report], other⟩
    · obtain ⟨message, found, other⟩ := ih (fun l m => bodies l (by simp [m])) deeper
        (c.takeBytes (toUtf8 first ++ [newline])).1
      exact ⟨message, List.mem_append_right _ found, other⟩

/-- The law of the block: the body comes back as it was sent exactly when the frame decoder takes
    none of its lines for an answer or a prompt. -/
theorem block_integrity (engine : Bytes → Text) {limit : AccumulationLimit} {cmd : OvpnCommand}
    {lines : List Text} (expects : cmd.expectedResponse = .multiLine)
    (bodies : ∀ line ∈ lines, BodyText line) (fits : Within limit lines) :
    let c := ((OvpnCodec.new.withMaxMultiLineLines limit).encode engine cmd []).1
    let r := drain c (wire (lines ++ [endMarker]))
    (r.2.2 = [.ok (.multiLine lines)] ∧ r.1.expectedQueue = [] ∧ r.1.multiLineBuf = none) ↔
      ∀ line ∈ lines, ¬ Captured line := by
  intro c r
  have start : c = { OvpnCodec.new.withMaxMultiLineLines limit with
      expectedQueue := [.multiLine] } := by
    simp only [c, encode_codec, expects]
    rfl
  have clean : ∀ line ∈ lines ++ [endMarker], '\n' ∉ line := by
    intro line member
    rcases List.mem_append.mp member with body | last
    · exact (bodies line body).oneLine
    · rw [List.mem_singleton.mp last]
      decide
  constructor
  · rintro ⟨only, -, -⟩ line member captured
    obtain ⟨message, found, other⟩ :=
      drained_captured captured (bodies line member) clean (List.mem_append_left _ member) c
    have found : .ok message ∈ r.2.2 := found
    rw [only] at found
    exact other lines (by simpa using found)
  · intro free
    have plain : ∀ line ∈ lines, Unclaimed line := fun line member =>
      unclaimed_of_not_captured (bodies line member) (free line member)
    have decoded := drained_block c bodies plain (by rw [start]; rfl) (by
      rw [start]
      intro most most_eq
      have := fits most most_eq
      simpa [OvpnCodec.new, OvpnCodec.withMaxMultiLineLines] using this)
    rw [drained, Prod.mk.injEq] at decoded
    obtain ⟨codec, out⟩ := decoded
    obtain ⟨queue, block, -, -⟩ := forget_fields codec
    refine ⟨?_, ?_, ?_⟩
    · rw [show r.2 = _ from out, start]
      rfl
    · rw [show r.1.expectedQueue = _ from queue, start]
      rfl
    · rw [show r.1.multiLineBuf = _ from block]
      rfl

/-- A status row whose client is named `SUCCESS`-something: the row leaves the block. -/
theorem block_integrity_common_name :
    let lines := [lit "SUCCESS:x,10.0.0.1:1194", lit "ROUTING TABLE"]
    let c := (OvpnCodec.new.encode (fun _ => []) (.status .v1) []).1
    (∀ line ∈ lines, BodyText line) ∧
      (drain c (wire (lines ++ [endMarker]))).2.2 ≠ [.ok (.multiLine lines)] := by
  refine ⟨?_, by decide +kernel⟩
  intro line member
  simp only [List.mem_cons, List.not_mem_nil, or_false] at member
  rcases member with rfl | rfl <;>
    exact ⟨by decide +kernel, by decide +kernel, by decide +kernel, by decide +kernel⟩

theorem block_integrity_history :
    let c := ((OvpnCodec.new.withMaxMultiLineLines (.max 1)).encode (fun _ => []) .state []).1
    let r := drain c (wire [lit "1,CONNECTED", endMarker])
    r.2.2 = [.ok (.multiLine [lit "1,CONNECTED"])] ∧ r.1.expectedQueue = [] ∧
      r.1.multiLineBuf = none := by
  have body : BodyText (lit "1,CONNECTED") :=
    ⟨by decide +kernel, by decide +kernel, by decide +kernel, by decide +kernel⟩
  have fits : Within (.max 1) [lit "1,CONNECTED"] := by
    rintro most ⟨⟩
    exact Nat.le_refl 1
  have bodies : ∀ line ∈ [lit "1,CONNECTED"], BodyText line := by simpa using body
  have law := block_integrity (fun _ => [])
    (rfl : OvpnCommand.state.expectedResponse = .multiLine) bodies fits
  exact law.mpr (by decide +kernel)

/-! The lines of a call -/

def takenFuel : Nat → OvpnCodec → Bytes → List (OvpnCodec × Bytes)
  | 0, _, _ => []
  | fuel + 1, c, src =>
    match splitLine newline src with
    | none => []
    | some (line, rest) =>
      (c, line) ::
        match c.takeBytes line with
        | (after, none) => takenFuel fuel after rest
        | (_, some _) => []

def taken (c : OvpnCodec) (src : Bytes) : List (OvpnCodec × Bytes) :=
  takenFuel (src.length + 1) c src

theorem takenFuel_enough {fuel more : Nat} (c : OvpnCodec) {src : Bytes}
    (enough : src.length < fuel) (also : src.length < more) :
    takenFuel fuel c src = takenFuel more c src := by
  induction fuel generalizing c src more with
  | zero => omega
  | succ fuel ih =>
    obtain ⟨more, rfl⟩ : ∃ n, more = n + 1 := ⟨more - 1, by omega⟩
    rcases open_or_line newline src with unfinished | ⟨body, rest, clean, rfl⟩
    · simp only [takenFuel, splitLine_open unfinished]
    · simp only [List.length_append, List.length_cons] at enough also
      simp only [takenFuel, splitLine_line clean]
      have tail : ∀ c, takenFuel fuel c rest = takenFuel more c rest :=
        fun c => ih c (by omega) (by omega)
      simp only [tail]

theorem taken_open (c : OvpnCodec) {src : Bytes} (unfinished : newline ∉ src) :
    taken c src = [] := by
  simp only [taken, takenFuel, splitLine_open unfinished]

theorem taken_line (c : OvpnCodec) {body : Bytes} (clean : newline ∉ body) (rest : Bytes) :
    taken c (body ++ newline :: rest) =
      (c, body ++ [newline]) ::
        match c.takeBytes (body ++ [newline]) with
        | (after, none) => taken after rest
        | (_, some _) => [] := by
  have tail : ∀ c, takenFuel (body ++ newline :: rest).length c rest = taken c rest :=
    fun c => takenFuel_enough c (by simp; omega) (by omega)
  rw [taken, takenFuel, splitLine_line clean]
  simp only [tail]

end MgmtBlocks
