import OpenvpnMgmt.NotificationRoundTrip
import OpenvpnMgmt.Session
import OpenvpnMgmt.Statistics
import OpenvpnMgmt.StatusRoundTrip
import OpenvpnMgmt.StatusSections

/-!
The typed methods of a session. Each hands its command to a helper and parses what comes back, so a
parse that fails does not put the session out of step. The parsers of `version`, `pid`, `hold` and
`state` are here; those of `status` and of the statistics have modules of their own.
-/
namespace MgmtSession
open TextOps Utf8Text MgmtEncoder MgmtValues MgmtCommand MgmtMessage MgmtFrame MgmtServerStream
  MgmtMatching MgmtPipelining MgmtEventStream MgmtParsedResponse MgmtStatistics MgmtStatus
  MgmtNotificationRoundTrip MgmtStatusSections
open MgmtStatusRoundTrip (statusRows Writable written_read)

/-! The answer to `version` -/

structure VersionInfo where
  managementVersion : Option U32
  openvpnVersionLine : Option Text
  rawLines : List Text
  deriving DecidableEq, Repr

/- `to_ascii_lowercase` -/
def toAsciiLowercase (t : Text) : Text := t.map Char.toLower

/- Any line that begins with "management" and has "version" in it. -/
def isManagement (line : Text) : Bool :=
  decide (lit "management" <+: toAsciiLowercase line ∧ lit "version" <:+: toAsciiLowercase line)

def isOpenvpn (line : Text) : Bool := decide (lit "openvpn version" <+: toAsciiLowercase line)

def notDigit (c : Char) : Bool := !c.isDigit

def trailing (line : Text) : Option Text := (line.splitOnP notDigit).reverse.find? (· ≠ [])

def managementNumber (line : Text) : Except ParseResponseError (Option U32) :=
  match trailing line with
  | none => .ok none
  | some part =>
    match parseUInt 32 part with
    | some n => .ok (some n)
    | none => .error (.invalidManagementVersion part)

/- The first management line counts, and the last line of the program's own version. -/
def versionLine (found : Option (Option U32) × Option Text) (line : Text) :
    Except ParseResponseError (Option (Option U32) × Option Text) :=
  if found.1.isNone && isManagement line then do
    let number ← managementNumber line
    return (some number, found.2)
  else if isOpenvpn line then .ok (found.1, some line)
  else .ok found

def VersionInfo.parse (lines : List Text) : Except ParseResponseError VersionInfo := do
  let (managementVersion, openvpnVersionLine) ← lines.foldlM versionLine (none, none)
  return ⟨managementVersion.join, openvpnVersionLine, lines⟩

theorem isOpenvpn_not_management {line : Text} (openvpn : isOpenvpn line = true) :
    isManagement line = false := by
  simp only [isOpenvpn, decide_eq_true_eq] at openvpn
  simp only [isManagement, decide_eq_false_iff_not]
  rintro ⟨⟨rest, same⟩, _⟩
  obtain ⟨other, shape⟩ := openvpn
  rw [← shape, lit_eq, lit_eq] at same
  simp at same

theorem lastOpenvpn_cons (line : Text) (lines : List Text) (found : Option Text) :
    ((line :: lines).reverse.find? isOpenvpn).or found =
      (lines.reverse.find? isOpenvpn).or (if isOpenvpn line then some line else found) := by
  rw [List.reverse_cons, List.find?_append, Option.or_assoc]
  congr 1
  cases openvpn : isOpenvpn line <;> simp [openvpn]

theorem versionLine_found (number : Option U32) (found : Option Text) (lines : List Text) :
    lines.foldlM versionLine (some number, found) =
      .ok (some number, (lines.reverse.find? isOpenvpn).or found) := by
  induction lines generalizing found with
  | nil => rfl
  | cons line more ih =>
    rw [lastOpenvpn_cons, List.foldlM_cons]
    cases openvpn : isOpenvpn line with
    | true =>
      simp only [versionLine, openvpn, Option.isNone_some, Bool.false_and]
      exact ih (some line)
    | false =>
      simp only [versionLine, openvpn, Option.isNone_some, Bool.false_and]
      exact ih found

theorem versionLine_fold (found : Option Text) (lines : List Text) :
    lines.foldlM versionLine (none, found) =
      match lines.find? isManagement with
      | none => .ok (none, (lines.reverse.find? isOpenvpn).or found)
      | some line => (managementNumber line).map fun number =>
        (some number, (lines.reverse.find? isOpenvpn).or found) := by
  induction lines generalizing found with
  | nil => rfl
  | cons line more ih =>
    rw [lastOpenvpn_cons, List.foldlM_cons]
    cases management : isManagement line with
    | true =>
      have other : isOpenvpn line = false := by
        rw [Bool.eq_false_iff]
        intro openvpn
        rw [isOpenvpn_not_management openvpn] at management
        cases management
      rw [List.find?_cons_of_pos management]
      simp only [versionLine, management, other, Option.isNone_none, Bool.true_and, if_true]
      cases managementNumber line with
      | error e => rfl
      | ok number => exact versionLine_found number found more
    | false =>
      rw [List.find?_cons_of_neg (by simp [management])]
      cases openvpn : isOpenvpn line with
      | true =>
        simp only [versionLine, management, openvpn, Bool.and_false]
        exact ih (some line)
      | false =>
        simp only [versionLine, management, openvpn, Bool.and_false]
        exact ih found

/-- A run of digits with none behind it, and not part of a longer one. -/
structure LastRun (line part : Text) : Prop where
  nonempty : part ≠ []
  digits : ∀ c ∈ part, c.isDigit = true
  inside : ∃ before after, line = before ++ part ++ after ∧
    (∀ c ∈ before.getLast?, c.isDigit = false) ∧ ∀ c ∈ after, c.isDigit = false

theorem trailing_skip (front : Text) {after : Text} (plain : ∀ c ∈ after, c.isDigit = false) :
    trailing (front ++ after) = trailing front := by
  induction after using List.reverseRecOn with
  | nil => rw [List.append_nil]
  | append_singleton init c ih =>
    have last : notDigit c = true := by simp [notDigit, plain c (by simp)]
    rw [← List.append_assoc, ← ih (fun d member => plain d (by simp [member]))]
    unfold trailing
    rw [List.splitOnP_append_cons _ [] last]
    simp

theorem trailing_run {before part : Text} (nonempty : part ≠ [])
    (digits : ∀ c ∈ part, c.isDigit = true) (ends : ∀ c ∈ before.getLast?, c.isDigit = false) :
    trailing (before ++ part) = some part := by
  have whole : part.splitOnP notDigit = [part] := by
    apply List.splitOnP_eq_singleton
    intro c member
    simp [notDigit, digits c member]
  unfold trailing
  induction before using List.reverseRecOn with
  | nil => simp [whole, nonempty]
  | append_singleton init c _ =>
    have last : notDigit c = true := by simp [notDigit, ends c (by simp)]
    rw [List.append_assoc, List.singleton_append, List.splitOnP_append_cons _ _ last, whole]
    simp [nonempty]

theorem lastRun_trailing {line part : Text} (run : LastRun line part) :
    trailing line = some part := by
  obtain ⟨nonempty, digits, before, after, rfl, ends, plain⟩ := run
  rw [trailing_skip _ plain, trailing_run nonempty digits ends]

theorem lastRun_or_none (line : Text) :
    (∃ part, LastRun line part) ∨ ∀ c ∈ line, c.isDigit = false := by
  induction line using List.reverseRecOn with
  | nil => exact Or.inr (by simp)
  | append_singleton init c ih =>
    cases digit : c.isDigit with
    | false =>
      rcases ih with ⟨part, nonempty, digits, before, after, rfl, ends, plain⟩ | plain
      · refine Or.inl ⟨part, nonempty, digits, before, after ++ [c], by simp, ends, ?_⟩
        intro d member
        rcases List.mem_append.mp member with earlier | last
        · exact plain d earlier
        · rw [List.mem_singleton.mp last]
          exact digit
      · refine Or.inr ?_
        intro d member
        rcases List.mem_append.mp member with earlier | last
        · exact plain d earlier
        · rw [List.mem_singleton.mp last]
          exact digit
    | true =>
      by_cases ends : ∀ d ∈ init.getLast?, d.isDigit = false
      · exact Or.inl ⟨[c], by simp, by simpa using digit, init, [], by simp, ends, by simp⟩
      · -- The run goes on.
        rcases ih with ⟨part, nonempty, digits, before, after, rfl, starts, plain⟩ | plain
        · cases after using List.reverseRecOn with
          | nil =>
            refine Or.inl ⟨part ++ [c], by simp, ?_, before, [], by simp, starts, by simp⟩
            intro d member
            rcases List.mem_append.mp member with earlier | last
            · exact digits d earlier
            · rw [List.mem_singleton.mp last]
              exact digit
          | append_singleton more d _ =>
            refine absurd ?_ ends
            intro e member
            rw [← List.append_assoc, List.getLast?_append] at member
            simp only [List.getLast?_singleton, Option.some_or, Option.mem_def,
              Option.some.injEq] at member
            exact plain e (by simp [← member])
        · exact absurd (fun d member => plain d (List.mem_of_getLast? member)) ends

theorem trailing_eq_some (line part : Text) : trailing line = some part ↔ LastRun line part := by
  constructor
  · intro found
    rcases lastRun_or_none line with ⟨other, run⟩ | plain
    · rw [lastRun_trailing run] at found
      cases found
      exact run
    · rw [← List.nil_append line, trailing_skip [] plain] at found
      cases found
  · exact lastRun_trailing

theorem trailing_eq_none (line : Text) : trailing line = none ↔ ∀ c ∈ line, c.isDigit = false := by
  constructor
  · intro found
    rcases lastRun_or_none line with ⟨part, run⟩ | plain
    · rw [lastRun_trailing run] at found
      cases found
    · exact plain
  · intro plain
    rw [← List.nil_append line, trailing_skip [] plain]
    rfl

theorem parse_digits {part : Text} (nonempty : part ≠ []) (digits : ∀ c ∈ part, c.isDigit = true) :
    parseUInt 32 part = if Nat.ofDigitChars 10 part 0 < 2 ^ 32 then
      some (BitVec.ofNat 32 (Nat.ofDigitChars 10 part 0)) else none := by
  have unsigned : part.head? ≠ some '+' := by
    intro sign
    have digit := digits '+' (List.mem_of_mem_head? sign)
    simp [Char.isDigit] at digit
  have all : part.all Char.isDigit = true := List.all_eq_true.mpr digits
  simp only [parseUInt, if_neg unsigned, all, nonempty, ne_eq, not_false_eq_true, true_and]

/-- What `version` reads: the number at the end of the first management line, the last line of the
    program's version, and all lines. It fails exactly if that number does not fit into 32 bits. -/
theorem version_exact (lines : List Text) :
    (∀ line part, lines.find? isManagement = some line → LastRun line part →
      VersionInfo.parse lines =
        if Nat.ofDigitChars 10 part 0 < 2 ^ 32 then
          .ok ⟨some (BitVec.ofNat 32 (Nat.ofDigitChars 10 part 0)),
            lines.reverse.find? isOpenvpn, lines⟩
        else .error (.invalidManagementVersion part)) ∧
      ((∀ line, lines.find? isManagement = some line → ∀ c ∈ line, c.isDigit = false) →
        VersionInfo.parse lines = .ok ⟨none, lines.reverse.find? isOpenvpn, lines⟩) := by
  have folded := versionLine_fold none lines
  rw [Option.or_none] at folded
  refine ⟨?_, ?_⟩
  · intro line part first run
    rw [VersionInfo.parse, folded, first]
    simp only [managementNumber, lastRun_trailing run, parse_digits run.nonempty run.digits]
    by_cases fits : Nat.ofDigitChars 10 part 0 < 2 ^ 32
    · rw [if_pos fits, if_pos fits]
      rfl
    · rw [if_neg fits, if_neg fits]
      rfl
  · intro plain
    rw [VersionInfo.parse, folded]
    cases first : lines.find? isManagement with
    | none => rfl
    | some line =>
      simp only [managementNumber, (trailing_eq_none line).mpr (plain line first)]
      rfl

theorem version_exact_old :
    VersionInfo.parse [lit "OpenVPN Version: 2.6.9", lit "Management Interface Version: 5"] =
      .ok ⟨some 5, some (lit "OpenVPN Version: 2.6.9"),
        [lit "OpenVPN Version: 2.6.9", lit "Management Interface Version: 5"]⟩ := by
  have run : LastRun (lit "Management Interface Version: 5") (lit "5") :=
    (trailing_eq_some _ _).mp (by decide +kernel)
  rw [(version_exact _).1 (lit "Management Interface Version: 5") (lit "5") (by decide +kernel) run]
  decide +kernel

/-! Payloads -/

def parsePid (payload : Text) : Except ParseResponseError U32 :=
  match stripPrefix payload (lit "pid=") with
  | none => .error (.missingPidPrefix payload)
  | some val =>
    match parseUInt 32 val with
    | some pid => .ok pid
    | none => .error (.invalidInteger (lit "pid") val)

def parseHold (payload : Text) : Except ParseResponseError Bool :=
  match stripPrefix payload (lit "hold=") with
  | none => .error (.missingHoldPrefix payload)
  | some val =>
    if val = lit "1" then .ok true
    else if val = lit "0" then .ok false
    else .error (.invalidHoldValue val)

def parseStateHistory (lines : List Text) : Except ParseResponseError (List StateEntry) :=
  lines.mapM parseStateEntry

def parseCurrentState (lines : List Text) : Except ParseResponseError StateEntry := do
  let entries ← parseStateHistory lines
  match entries.getLast? with
  | some entry => .ok entry
  | none => .error .emptyStateHistory

/-! The methods -/

inductive MethodError where
  | session (e : SessionError)
  | parseResponse (e : ParseResponseError)
  | parseStatus (e : ParseStatusError)
  deriving DecidableEq

section Methods
variable {σ : Type} (framed : Framed σ)

/- `?` on the helper's result, and the parse behind it. -/
def parsed {α β : Type} (parse : α → Except MethodError β)
    (received : ManagementSession σ × Except SessionError α) :
    ManagementSession σ × Except MethodError β :=
  (received.1, received.2.mapError .session >>= parse)

def asResponse {α β : Type} (parse : α → Except ParseResponseError β) (a : α) :
    Except MethodError β := (parse a).mapError .parseResponse

def asStatus {α β : Type} (parse : α → Except ParseStatusError β) (a : α) : Except MethodError β :=
  (parse a).mapError .parseStatus

def ManagementSession.statusRaw (s : ManagementSession σ) (format : StatusFormat) :
    ManagementSession σ × Except SessionError (List Text) :=
  s.sendExpectMultiLine framed (.status format)

def ManagementSession.status (s : ManagementSession σ) (format : StatusFormat) :
    ManagementSession σ × Except MethodError StatusResponse :=
  parsed (asStatus parseStatus) (s.statusRaw framed format)

def ManagementSession.clientStatistics (s : ManagementSession σ) (format : StatusFormat) :
    ManagementSession σ × Except MethodError ClientStatistics :=
  parsed (asStatus parseClientStatistics) (s.statusRaw framed format)

def ManagementSession.state (s : ManagementSession σ) :
    ManagementSession σ × Except MethodError (List StateEntry) :=
  parsed (asResponse parseStateHistory) (s.sendExpectMultiLine framed .state)

def ManagementSession.currentState (s : ManagementSession σ) :
    ManagementSession σ × Except MethodError StateEntry :=
  parsed (asResponse parseCurrentState) (s.sendExpectMultiLine framed .state)

def ManagementSession.sendStreamCommand (s : ManagementSession σ) (mode : StreamMode)
    (cmd : OvpnCommand) : ManagementSession σ × Except SessionError (Option (List Text)) :=
  if mode.returnsHistory then (s.sendExpectMultiLine framed cmd).map id (·.map some)
  else (s.sendExpectOk framed cmd).map id (·.map fun _ => none)

def ManagementSession.stateStream (s : ManagementSession σ) (mode : StreamMode) :
    ManagementSession σ × Except MethodError (Option (List StateEntry)) :=
  parsed
    (fun
      | some lines => (asResponse parseStateHistory lines).map some
      | none => .ok none)
    (s.sendStreamCommand framed mode (.stateStream mode))

def ManagementSession.version (s : ManagementSession σ) :
    ManagementSession σ × Except MethodError VersionInfo :=
  parsed (asResponse VersionInfo.parse) (s.sendExpectMultiLine framed .version)

def ManagementSession.pid (s : ManagementSession σ) :
    ManagementSession σ × Except MethodError U32 :=
  parsed (asResponse parsePid) (s.sendExpectSuccess framed .pid)

def ManagementSession.holdQuery (s : ManagementSession σ) :
    ManagementSession σ × Except MethodError Bool :=
  parsed (asResponse parseHold) (s.sendExpectSuccess framed .holdQuery)

def ManagementSession.loadStats (s : ManagementSession σ) :
    ManagementSession σ × Except MethodError LoadStats :=
  parsed (asResponse parseLoadStats) (s.sendExpectSuccess framed .loadStats)

end Methods

/-! Any method that waits for an answer -/

/-- The methods that parse, and the others by their call. -/
inductive Query where
  | status (format : StatusFormat)
  | clientStatistics (format : StatusFormat)
  | state
  | currentState
  | stateStream (mode : StreamMode)
  | version
  | pid
  | holdQuery
  | loadStats
  | plain (c : Call)

inductive Value where
  | status (status : StatusResponse)
  | clientStatistics (stats : ClientStatistics)
  | states (entries : List StateEntry)
  | state (entry : StateEntry)
  | history (entries : Option (List StateEntry))
  | version (info : VersionInfo)
  | pid (pid : U32)
  | hold (held : Bool)
  | loadStats (stats : LoadStats)
  | plain (content : Content)
  deriving DecidableEq

abbrev Answered := Except MethodError Value

section Queries
variable {σ : Type} (framed : Framed σ)

def ManagementSession.query (s : ManagementSession σ) : Query → ManagementSession σ × Answered
  | .status format => (s.status framed format).map id (·.map .status)
  | .clientStatistics format => (s.clientStatistics framed format).map id (·.map .clientStatistics)
  | .state => (s.state framed).map id (·.map .states)
  | .currentState => (s.currentState framed).map id (·.map .state)
  | .stateStream mode => (s.stateStream framed mode).map id (·.map .history)
  | .version => (s.version framed).map id (·.map .version)
  | .pid => (s.pid framed).map id (·.map .pid)
  | .holdQuery => (s.holdQuery framed).map id (·.map .hold)
  | .loadStats => (s.loadStats framed).map id (·.map .loadStats)
  | .plain c => (s.call framed c).map id fun r => (r.mapError .session).map .plain

def ManagementSession.queries (s : ManagementSession σ) :
    List Query → ManagementSession σ × List Answered
  | [] => (s, [])
  | q :: more =>
    let (s, answered) := s.query framed q
    let (s, others) := s.queries more
    (s, answered :: others)

end Queries

def Query.cmd : Query → OvpnCommand
  | .status format => .status format
  | .clientStatistics format => .status format
  | .state => .state
  | .currentState => .state
  | .stateStream mode => .stateStream mode
  | .version => .version
  | .pid => .pid
  | .holdQuery => .holdQuery
  | .loadStats => .loadStats
  | .plain c => c.cmd

def Query.helper : Query → Helper
  | .status _ | .clientStatistics _ | .state | .currentState | .version => .expectMultiLine
  | .stateStream mode => streamHelper mode
  | .pid | .holdQuery | .loadStats => .expectSuccess
  | .plain c => c.helper

theorem Query.offered (q : Query) : helperOf q.cmd = some q.helper := by
  cases q with
  | plain c => exact c.offered
  | _ => rfl

def Query.call (q : Query) : Call := ⟨q.cmd, q.helper, q.offered⟩

/- What a query makes of a payload or of lines; a call gives it only what it expects. -/
def Query.read : Query → Content → Answered
  | .status _, .lines lines => (asStatus parseStatus lines).map .status
  | .clientStatistics _, .lines lines =>
    (asStatus parseClientStatistics lines).map .clientStatistics
  | .state, .lines lines => (asResponse parseStateHistory lines).map .states
  | .currentState, .lines lines => (asResponse parseCurrentState lines).map .state
  | .stateStream _, .lines lines =>
    (asResponse parseStateHistory lines).map fun entries => .history (some entries)
  | .stateStream _, .done => .ok (.history none)
  | .version, .lines lines => (asResponse VersionInfo.parse lines).map .version
  | .pid, .payload text => (asResponse parsePid text).map .pid
  | .holdQuery, .payload text => (asResponse parseHold text).map .hold
  | .loadStats, .payload text => (asResponse parseLoadStats text).map .loadStats
  | _, content => .ok (.plain content)

theorem parsed_lines {σ β : Type} (parse : List Text → Except MethodError β) (wrap : β → Value)
    (received : ManagementSession σ × Except SessionError (List Text)) (read : Content → Answered)
    (same : ∀ lines, read (.lines lines) = (parse lines).map wrap) :
    (parsed parse received).map id (·.map wrap) =
      (received.1, (received.2.map Content.lines).mapError .session >>= read) := by
  obtain ⟨s, e | lines⟩ := received
  · rfl
  · exact congrArg (Prod.mk s) (same lines).symm

theorem parsed_payload {σ β : Type} (parse : Text → Except MethodError β) (wrap : β → Value)
    (received : ManagementSession σ × Except SessionError Text) (read : Content → Answered)
    (same : ∀ text, read (.payload text) = (parse text).map wrap) :
    (parsed parse received).map id (·.map wrap) =
      (received.1, (received.2.map Content.payload).mapError .session >>= read) := by
  obtain ⟨s, e | text⟩ := received
  · rfl
  · exact congrArg (Prod.mk s) (same text).symm

/-- A query is its call, and the parse of what comes back. -/
theorem query_call {σ : Type} (framed : Framed σ) (s : ManagementSession σ) (q : Query) :
    s.query framed q =
      ((s.call framed q.call).1, (s.call framed q.call).2.mapError .session >>= q.read) := by
  cases q with
  | status format => exact parsed_lines _ _ _ _ fun _ => rfl
  | clientStatistics format => exact parsed_lines _ _ _ _ fun _ => rfl
  | state => exact parsed_lines _ _ _ _ fun _ => rfl
  | currentState => exact parsed_lines _ _ _ _ fun _ => rfl
  | version => exact parsed_lines _ _ _ _ fun _ => rfl
  | pid => exact parsed_payload _ _ _ _ fun _ => rfl
  | holdQuery => exact parsed_payload _ _ _ _ fun _ => rfl
  | loadStats => exact parsed_payload _ _ _ _ fun _ => rfl
  | stateStream mode =>
    simp only [ManagementSession.query, ManagementSession.stateStream,
      ManagementSession.sendStreamCommand, Query.call, Query.cmd, Query.helper,
      ManagementSession.call, streamHelper]
    cases mode.returnsHistory with
    | true =>
      rcases s.sendExpectMultiLine framed (.stateStream mode) with ⟨after, e | lines⟩
      · rfl
      · cases history : asResponse parseStateHistory lines <;>
          simp [parsed, Query.read, history, Except.map, Except.mapError, bind, Except.bind]
    | false =>
      rcases s.sendExpectOk framed (.stateStream mode) with ⟨after, e | done⟩
      · rfl
      · rfl
  | plain c =>
    have own : (Query.plain c).call = c := rfl
    rw [own, ManagementSession.query]
    rcases s.call framed c with ⟨after, e | content⟩
    · rfl
    · cases content <;> rfl

theorem queries_calls {σ : Type} (framed : Framed σ) (s : ManagementSession σ) (qs : List Query) :
    (s.queries framed qs).2 = List.zipWith (fun q r => r.mapError .session >>= q.read) qs
      (s.calls framed (qs.map Query.call)).2 := by
  induction qs generalizing s with
  | nil => rfl
  | cons q more ih =>
    simp only [ManagementSession.queries, query_call, ih]
    rfl

/-! What the server means by its answers -/

def pidPayload (val : Text) : Text := lit "pid=" ++ val

def flag (held : Bool) : Text := if held then lit "1" else lit "0"

def holdPayload (val : Text) : Text := lit "hold=" ++ val

def loadStatsPayload (stats : LoadStats) : Text :=
  lit "nclients=" ++ (display stats.nclients ++ ',' :: (lit "bytesin=" ++ (display stats.bytesin ++
    ',' :: (lit "bytesout=" ++ display stats.bytesout))))

def numberLine (interface : Bool) (digits : Text) : Text :=
  (if interface then lit "Management Interface Version: " else lit "Management Version: ") ++ digits

def versionLines (title : Text) (interface : Bool) (digits : Text) : List Text :=
  [lit "OpenVPN Version: " ++ title, numberLine interface digits]

/- An entry whose line reads back: its state is known and its fields have no commas. -/
structure PlainEntry (entry : StateEntry) : Prop where
  known : Known entry.name
  description : ',' ∉ entry.description
  localIp : ',' ∉ entry.localIp
  remoteIp : ',' ∉ entry.remoteIp
  localAddr : ',' ∉ entry.localAddr

/-- What the caller is to get for an answer: the value that the server wrote, its refusal, or the
    error that says what is missing. -/
inductive Means : Query → Answer → Answered → Prop
  | refused (q : Query) (text : Text) :
    Means q (.error text) (.error (.session (.serverError text)))
  | status (format : StatusFormat) {sep : Char} (kind : sep = ',' ∨ sep = '\t')
    {r : StatusResponse} (writable : Writable sep r) :
    Means (.status format) (.block ((statusRows r).map (SeparatedRows.join sep))) (.ok (.status r))
  | statusV1 (format : StatusFormat) (t : Text) {clients : List ClientV1} (routes : List RouteV1)
    (queue : U64) (others : ∀ c ∈ clients, c.commonName ≠ lit "Updated") :
    Means (.status format) (.block (statusV1 t clients routes queue))
      (.ok (.status ⟨none, none, some t, clients.map ClientV1.client, routes.map RouteV1.entry,
        ⟨some queue, none⟩⟩))
  | clientStatistics (format : StatusFormat) (updated : Text) (stats : ClientStatistics) :
    Means (.clientStatistics format) (.block (statisticsLines updated stats))
      (.ok (.clientStatistics stats))
  | states {entries : List StateEntry} (plain : ∀ entry ∈ entries, PlainEntry entry) :
    Means .state (.block (entries.map statePayload)) (.ok (.states entries))
  | currentState {entries : List StateEntry} {last : StateEntry}
    (plain : ∀ entry ∈ entries ++ [last], PlainEntry entry) :
    Means .currentState (.block ((entries ++ [last]).map statePayload)) (.ok (.state last))
  | noState : Means .currentState (.block []) (.error (.parseResponse .emptyStateHistory))
  | history {mode : StreamMode} (dumps : mode.returnsHistory = true) {entries : List StateEntry}
    (plain : ∀ entry ∈ entries, PlainEntry entry) :
    Means (.stateStream mode) (.block (entries.map statePayload)) (.ok (.history (some entries)))
  | streaming {mode : StreamMode} (quiet : mode.returnsHistory = false) (text : Text) :
    Means (.stateStream mode) (.success text) (.ok (.history none))
  | version (title : Text) (interface : Bool) (number : U32) :
    Means .version (.block (versionLines title interface (display number)))
      (.ok (.version ⟨some number, some (lit "OpenVPN Version: " ++ title),
        versionLines title interface (display number)⟩))
  | longVersion (title : Text) (interface : Bool) {digits : Text} (nonempty : digits ≠ [])
    (all : ∀ c ∈ digits, c.isDigit = true) (large : 2 ^ 32 ≤ Nat.ofDigitChars 10 digits 0) :
    Means .version (.block (versionLines title interface digits))
      (.error (.parseResponse (.invalidManagementVersion digits)))
  | pid (pid : U32) : Means .pid (.success (pidPayload (display pid))) (.ok (.pid pid))
  | noPid {text : Text} (other : ¬ lit "pid=" <+: text) :
    Means .pid (.success text) (.error (.parseResponse (.missingPidPrefix text)))
  | badPid {val : Text} {c : Char} (member : c ∈ val) (letter : c.isDigit = false)
    (unsigned : val.head? ≠ some '+') :
    Means .pid (.success (pidPayload val)) (.error (.parseResponse (.invalidInteger (lit "pid") val)))
  | hold (held : Bool) : Means .holdQuery (.success (holdPayload (flag held))) (.ok (.hold held))
  | noHold {text : Text} (other : ¬ lit "hold=" <+: text) :
    Means .holdQuery (.success text) (.error (.parseResponse (.missingHoldPrefix text)))
  | badHold {val : Text} (neither : ∀ held, val ≠ flag held) :
    Means .holdQuery (.success (holdPayload val)) (.error (.parseResponse (.invalidHoldValue val)))
  | loadStats (stats : LoadStats) :
    Means .loadStats (.success (loadStatsPayload stats)) (.ok (.loadStats stats))
  | plain (c : Call) {answer : Answer} {content : Content} (owed : c.owed answer = .ok content) :
    Means (.plain c) answer (.ok (.plain content))

theorem parsePid_payload (pid : U32) : parsePid (pidPayload (display pid)) = .ok pid := by
  simp only [parsePid, pidPayload, stripPrefix_append, parseUInt_display]

theorem parsePid_bad {val : Text} {c : Char} (member : c ∈ val) (letter : c.isDigit = false)
    (unsigned : val.head? ≠ some '+') :
    parsePid (pidPayload val) = .error (.invalidInteger (lit "pid") val) := by
  have digits : val.all Char.isDigit = false := by
    rw [List.all_eq_false]
    exact ⟨c, member, by simp [letter]⟩
  have unread : parseUInt 32 val = none := by simp [parseUInt, unsigned, digits]
  simp only [parsePid, pidPayload, stripPrefix_append, unread]

theorem parseHold_payload (held : Bool) : parseHold (holdPayload (flag held)) = .ok held := by
  simp only [parseHold, holdPayload, stripPrefix_append]
  cases held <;> simp [flag]

theorem parseHold_bad {val : Text} (neither : ∀ held, val ≠ flag held) :
    parseHold (holdPayload val) = .error (.invalidHoldValue val) := by
  have one : val ≠ lit "1" := neither true
  have zero : val ≠ lit "0" := neither false
  simp only [parseHold, holdPayload, stripPrefix_append, one, zero, if_false]

theorem split_comma {front : Text} (plain : ',' ∉ front) (rest : Text) :
    SeparatedRows.split ',' (front ++ ',' :: rest) = front :: SeparatedRows.split ',' rest :=
  List.splitOnP_append_cons_of_forall_mem (free_of plain) ',' (by simp) rest

theorem take_part {key : Text} (plain : '=' ∉ key) (n : U64) {set : U64 → LoadReading → LoadReading}
    {field : String} (known : loadStats.field key = some (loadField field set)) (r : LoadReading) :
    loadStats.take r (key ++ '=' :: display n) = .ok (set n r) := by
  have entry : loadStats.entry (key ++ '=' :: display n) = some (key, display n) :=
    splitOnce_append (free_of plain) (by simp)
  simp only [KeyValues.Format.take, KeyValues.Format.update, entry, known, loadField,
    parseUInt_display]
  rfl

theorem comma_not_mem_part {key : Text} (plain : ',' ∉ key) (n : U64) :
    ',' ∉ key ++ '=' :: display n := by
  simpa [plain] using comma_not_mem_display n

theorem parseLoadStats_payload (stats : LoadStats) :
    parseLoadStats (loadStatsPayload stats) = .ok stats := by
  have shape : loadStatsPayload stats =
      (lit "nclients" ++ '=' :: display stats.nclients) ++ ',' ::
        ((lit "bytesin" ++ '=' :: display stats.bytesin) ++ ',' ::
          (lit "bytesout" ++ '=' :: display stats.bytesout)) := by
    simp [loadStatsPayload, lit_eq]
  have parts : SeparatedRows.split ',' (loadStatsPayload stats) =
      [lit "nclients" ++ '=' :: display stats.nclients,
        lit "bytesin" ++ '=' :: display stats.bytesin,
        lit "bytesout" ++ '=' :: display stats.bytesout] := by
    rw [shape, split_comma (comma_not_mem_part (by simp [lit_eq]) _),
      split_comma (comma_not_mem_part (by simp [lit_eq]) _)]
    congr 2
    exact List.splitOnP_eq_singleton
      (free_of (comma_not_mem_part (by simp [lit_eq]) stats.bytesout))
  have keys : (loadFields.map Prod.fst).Nodup := by decide +kernel
  have clients : loadStats.field (lit "nclients") =
      some (loadField "nclients" fun n r => { r with nclients := some n }) :=
    KeyValues.lookup_of_nodup keys (by simp [loadFields])
  have bytesin : loadStats.field (lit "bytesin") =
      some (loadField "bytesin" fun n r => { r with bytesin := some n }) :=
    KeyValues.lookup_of_nodup keys (by simp [loadFields])
  have bytesout : loadStats.field (lit "bytesout") =
      some (loadField "bytesout" fun n r => { r with bytesout := some n }) :=
    KeyValues.lookup_of_nodup keys (by simp [loadFields])
  rw [parseLoadStats, parts, List.foldlM_cons, take_part (by simp [lit_eq]) _ clients,
    Results.ok_bind, List.foldlM_cons, take_part (by simp [lit_eq]) _ bytesin, Results.ok_bind,
    List.foldlM_cons, take_part (by simp [lit_eq]) _ bytesout, Results.ok_bind]
  rfl

theorem stateFields_payload {entry : StateEntry} (plain : PlainEntry entry) :
    stateFields (statePayload entry) =
      [display entry.timestamp.seconds, entry.name.toText, entry.description, entry.localIp,
        entry.remoteIp, portText entry.remotePort, entry.localAddr, portText entry.localPort,
        entry.localIpv6] := by
  have name : ',' ∉ entry.name.toText := by
    have known := plain.known
    cases same : entry.name with
    | unknown name => exact absurd same (known name)
    | _ => simp [OpenVpnState.toText, lit_eq]
  rw [stateFields, statePayload, splitn_comma 7 (comma_not_mem_display _), splitn_comma 6 name,
    splitn_comma 5 plain.description, splitn_comma 4 plain.localIp, splitn_comma 3 plain.remoteIp,
    splitn_comma 2 (comma_not_mem_portText _), splitn_comma 1 plain.localAddr,
    splitn_comma 0 (comma_not_mem_portText _)]
  rfl

theorem fromStr_toText {state : OpenVpnState} (known : Known state) :
    OpenVpnState.fromStr state.toText = .ok state := by
  cases state with
  | unknown name => exact absurd rfl (known name)
  | _ => simp [OpenVpnState.toText, OpenVpnState.fromStr]

theorem getPort_portText {fields : List Text} {index : Nat} {port : Option U16}
    (field : fields[index]? = some (portText port)) : getPort fields index = port := by
  rw [getPort, field]
  cases port with
  | none => rfl
  | some n => simp [portText, display_ne_nil, parseUInt_display]

theorem parseStateEntry_payload {entry : StateEntry} (plain : PlainEntry entry) :
    parseStateEntry (statePayload entry) = .ok entry := by
  have fields := stateFields_payload plain
  rw [parseStateEntry_fields (by rw [fields]; simp), fields]
  simp only [List.getD_cons_zero, parseUInt_display, List.getD_cons_succ,
    fromStr_toText plain.known]
  have remote : getPort [display entry.timestamp.seconds, entry.name.toText, entry.description,
      entry.localIp, entry.remoteIp, portText entry.remotePort, entry.localAddr,
      portText entry.localPort, entry.localIpv6] 5 = entry.remotePort := getPort_portText rfl
  have localPort : getPort [display entry.timestamp.seconds, entry.name.toText, entry.description,
      entry.localIp, entry.remoteIp, portText entry.remotePort, entry.localAddr,
      portText entry.localPort, entry.localIpv6] 7 = entry.localPort := getPort_portText rfl
  rw [answered, remote, localPort]
  rfl

theorem history_payload {entries : List StateEntry} (plain : ∀ entry ∈ entries, PlainEntry entry) :
    parseStateHistory (entries.map statePayload) = .ok entries := by
  unfold parseStateHistory
  induction entries with
  | nil => rfl
  | cons entry more ih =>
    rw [List.map_cons, List.mapM_cons, parseStateEntry_payload (plain entry (by simp)),
      Results.ok_bind, ih fun later member => plain later (by simp [member]), Results.ok_bind]
    rfl

theorem toLower_digit {c : Char} (digit : c.isDigit = true) : c.toLower = c := by
  simp only [Char.isDigit, Bool.and_eq_true, decide_eq_true_eq, ge_iff_le,
    UInt32.le_iff_toNat_le] at digit
  have high : c.toNat ≤ 57 := digit.2
  unfold Char.toLower
  rw [dif_neg]
  simp only [ge_iff_le, UInt32.le_iff_toNat_le, not_and]
  intro low
  have above : 65 ≤ c.toNat := low
  omega

theorem lowercase_digits {digits : Text} (all : ∀ c ∈ digits, c.isDigit = true) :
    toAsciiLowercase digits = digits := by
  unfold toAsciiLowercase
  induction digits with
  | nil => rfl
  | cons c more ih =>
    rw [List.map_cons, toLower_digit (all c (by simp)), ih fun d member => all d (by simp [member])]

theorem isManagement_number (interface : Bool) {digits : Text}
    (all : ∀ c ∈ digits, c.isDigit = true) : isManagement (numberLine interface digits) = true := by
  have same := lowercase_digits all
  simp only [isManagement, decide_eq_true_eq]
  cases interface with
  | true =>
    have lower : toAsciiLowercase (numberLine true digits) =
        lit "management" ++ (lit " interface " ++ (lit "version" ++ (lit ": " ++ digits))) := by
      simp only [numberLine, toAsciiLowercase, List.map_append] at same ⊢
      rw [same]
      simp [lit_eq]
    rw [lower]
    exact ⟨List.prefix_append _ _, lit "management" ++ lit " interface ", lit ": " ++ digits,
      by simp⟩
  | false =>
    have lower : toAsciiLowercase (numberLine false digits) =
        lit "management" ++ (lit " " ++ (lit "version" ++ (lit ": " ++ digits))) := by
      simp only [numberLine, toAsciiLowercase, List.map_append] at same ⊢
      rw [same]
      simp [lit_eq]
    rw [lower]
    exact ⟨List.prefix_append _ _, lit "management" ++ lit " ", lit ": " ++ digits, by simp⟩

theorem isOpenvpn_title (title : Text) : isOpenvpn (lit "OpenVPN Version: " ++ title) = true := by
  have lower : toAsciiLowercase (lit "OpenVPN Version: " ++ title) =
      lit "openvpn version" ++ (lit ": " ++ toAsciiLowercase title) := by
    simp [toAsciiLowercase, lit_eq]
  rw [isOpenvpn, lower]
  simp

theorem version_payload (title : Text) (interface : Bool) {digits : Text} (nonempty : digits ≠ [])
    (all : ∀ c ∈ digits, c.isDigit = true) :
    VersionInfo.parse (versionLines title interface digits) =
      match parseUInt 32 digits with
      | some number => .ok ⟨some number, some (lit "OpenVPN Version: " ++ title),
        versionLines title interface digits⟩
      | none => .error (.invalidManagementVersion digits) := by
  have openvpn := isOpenvpn_title title
  have management := isManagement_number interface all
  have other : isOpenvpn (numberLine interface digits) = false := by
    rw [Bool.eq_false_iff]
    intro openvpn
    rw [isOpenvpn_not_management openvpn] at management
    cases management
  have found : trailing (numberLine interface digits) = some digits := by
    apply trailing_run nonempty all
    cases interface <;> simp [lit_eq]
  rw [VersionInfo.parse, versionLine_fold, versionLines]
  simp only [List.find?_cons, isOpenvpn_not_management openvpn, management, managementNumber, found,
    List.reverse_cons, List.reverse_nil, List.nil_append, List.cons_append, other, openvpn]
  cases parseUInt 32 digits <;> rfl

def Query.owed (q : Query) (answer : Answer) : Answered :=
  (q.call.owed answer).mapError .session >>= q.read

theorem owed_means {q : Query} {answer : Answer} {answered : Answered}
    (means : Means q answer answered) : q.owed answer = answered := by
  cases means with
  | refused q text => rfl
  | @status format sep kind r writable =>
    change (asStatus parseStatus ((statusRows r).map (SeparatedRows.join sep))).map
      Value.status = _
    rw [asStatus, written_read kind writable]
    rfl
  | @statusV1 format t clients routes queue others =>
    change (asStatus parseStatus (statusV1 t clients routes queue)).map Value.status = _
    rw [asStatus, parse_statusV1 others]
    rfl
  | clientStatistics format updated stats =>
    change (asStatus parseClientStatistics (statisticsLines updated stats)).map
      Value.clientStatistics = _
    rw [asStatus, parse_statisticsLines]
    rfl
  | @states entries plain =>
    change (asResponse parseStateHistory (entries.map statePayload)).map Value.states = _
    rw [asResponse, history_payload plain]
    rfl
  | @currentState entries last plain =>
    change (asResponse parseCurrentState ((entries ++ [last]).map statePayload)).map
      Value.state = _
    rw [asResponse, parseCurrentState, history_payload plain, Results.ok_bind,
      List.getLast?_concat]
    rfl
  | noState => rfl
  | @history mode dumps entries plain =>
    change ((asResponse parseStateHistory (entries.map statePayload)).map fun entries =>
      Value.history (some entries)) = _
    rw [asResponse, history_payload plain]
    rfl
  | @streaming mode quiet text =>
    have helper : streamHelper mode = .expectOk := by simp [streamHelper, quiet]
    simp only [Query.owed, Query.call, Query.cmd, Query.helper, Call.owed, helper, if_true]
    rfl
  | version title interface number =>
    change (asResponse VersionInfo.parse (versionLines title interface (display number))).map
      Value.version = _
    rw [asResponse, version_payload title interface (display_ne_nil number)
      (display_isDigit number), parseUInt_display]
    rfl
  | @longVersion title interface digits nonempty all large =>
    change (asResponse VersionInfo.parse (versionLines title interface digits)).map
      Value.version = _
    rw [asResponse, version_payload title interface nonempty all, parse_digits nonempty all,
      if_neg (Nat.not_lt.mpr large)]
    rfl
  | pid pid =>
    change (asResponse parsePid (pidPayload (display pid))).map Value.pid = _
    rw [asResponse, parsePid_payload]
    rfl
  | @noPid text other =>
    change (asResponse parsePid text).map Value.pid = _
    rw [asResponse, parsePid, stripPrefix_eq_none.mpr other]
    rfl
  | @badPid val c member letter unsigned =>
    change (asResponse parsePid (pidPayload val)).map Value.pid = _
    rw [asResponse, parsePid_bad member letter unsigned]
    rfl
  | hold held =>
    change (asResponse parseHold (holdPayload (flag held))).map Value.hold = _
    rw [asResponse, parseHold_payload]
    rfl
  | @noHold text other =>
    change (asResponse parseHold text).map Value.hold = _
    rw [asResponse, parseHold, stripPrefix_eq_none.mpr other]
    rfl
  | @badHold val neither =>
    change (asResponse parseHold (holdPayload val)).map Value.hold = _
    rw [asResponse, parseHold_bad neither]
    rfl
  | loadStats stats =>
    change (asResponse parseLoadStats (loadStatsPayload stats)).map Value.loadStats = _
    rw [asResponse, parseLoadStats_payload]
    rfl
  | @plain c answer content owed =>
    have own : (Query.plain c).call = c := rfl
    rw [Query.owed, own, owed]
    cases content <;> rfl

theorem zip_owed (qs : List Query) (answers : List Answer) :
    List.zipWith (fun q r => r.mapError MethodError.session >>= q.read) qs
      (List.zipWith Call.owed (qs.map Query.call) answers) =
      List.zipWith Query.owed qs answers := by
  induction qs generalizing answers with
  | nil => rfl
  | cons q more ih =>
    cases answers with
    | nil => rfl
    | cons answer rest =>
      rw [List.map_cons, List.zipWith_cons_cons, List.zipWith_cons_cons, ih]
      rfl

/-- The typed methods, in any order: when the server answers every query, with notifications in
    between and the bytes cut anywhere, but no prompt, no `>INFO:` line and no well-formed
    `>PKCS11ID-ENTRY:` in front of an answer, every query makes its result of its own answer and of
    nothing else; and whatever the others got, an answer that means something is returned as what
    it means. -/
theorem queries_answered {σ : Type} {engine : Bytes → Text} {framed : Framed σ}
    (lawful : Lawful engine framed) {limit : AccumulationLimit} {qs : List Query}
    {answers : List Answer} {script : List Text} {incoming : List Bytes} {s : ManagementSession σ}
    (start : framed.view s.events.inner = ⟨(fresh limit).codec, [], incoming⟩)
    (serves : Serves limit (qs.map Query.call) answers script incoming)
    (undisturbed : Undisturbed script) :
    (s.queries framed qs).2 = List.zipWith Query.owed qs answers ∧
      ∀ (k : Nat) (q : Query) (answer : Answer) (answered : Answered), qs[k]? = some q →
        answers[k]? = some answer → Means q answer answered →
        (s.queries framed qs).2[k]? = some answered := by
  have results : (s.queries framed qs).2 = List.zipWith Query.owed qs answers := by
    rw [queries_calls, calls_undisturbed lawful start serves undisturbed, zip_owed]
  refine ⟨results, ?_⟩
  intro k q answer answered asked given means
  rw [results, List.getElem?_zipWith, asked, given]
  exact congrArg some (owed_means means)

/- The answers to `version`, `pid` and `hold`, with a notification inside the block. That to `pid`
   has no number. -/
def threeAnswers : List Text :=
  [lit "OpenVPN Version: 2.6.9", lit ">HOLD:Waiting", lit "Management Version: 5", lit "END",
    lit "SUCCESS: pid=none", lit "SUCCESS: hold=1"]

theorem queries_answered_three :
    (ManagementSession.queries (scripted fun _ => [])
        ⟨⟨(fresh (.max 10000)).codec, [], [wire threeAnswers]⟩, []⟩
        [.version, .pid, .holdQuery]).2 =
      [.ok (.version ⟨some 5, some (lit "OpenVPN Version: 2.6.9"),
          [lit "OpenVPN Version: 2.6.9", lit "Management Version: 5"]⟩),
        .error (.parseResponse (.invalidInteger (lit "pid") (lit "none"))), .ok (.hold true)] := by
  have serves : Serves (.max 10000) ([Query.version, .pid, .holdQuery].map Query.call)
      [.block (versionLines (lit "2.6.9") false (display (5 : U32))),
        .success (pidPayload (lit "none")), .success (holdPayload (flag true))]
      threeAnswers [wire threeAnswers] := by
    refine ⟨.cons ⟨by decide +kernel, ?_⟩ (.cons trivial (.cons trivial .nil)), by decide +kernel,
      by decide +kernel, .lines (by simp), by decide +kernel⟩
    rintro most ⟨⟩
    decide
  obtain ⟨results, meant⟩ := queries_answered (scripted_lawful fun _ => []) rfl serves
    (s := ⟨⟨(fresh (.max 10000)).codec, [], [wire threeAnswers]⟩, []⟩) (by decide +kernel)
  have version := meant 0 .version _ _ rfl rfl (.version (lit "2.6.9") false 5)
  have pid := meant 1 .pid _ _ rfl rfl
    (@Means.badPid (lit "none") 'n' (by simp [lit_eq]) (by decide) (by simp [lit_eq]))
  have hold := meant 2 .holdQuery _ _ rfl rfl (.hold true)
  have count := congrArg List.length results
  apply List.ext_getElem?
  intro k
  match k with
  | 0 => exact version.trans (by decide +kernel)
  | 1 => exact pid
  | 2 => exact hold
  | k + 3 => rw [List.getElem?_eq_none (by rw [count]; simp), List.getElem?_eq_none (by simp)]

end MgmtSession
