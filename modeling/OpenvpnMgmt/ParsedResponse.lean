import OpenvpnMgmt.Lib.Results
import OpenvpnMgmt.Notifications

/-!
Typed parsers of response payloads: an entry of the answer to `state`, beside the parser of the
`>STATE:` notification. They read one grammar, but an entry of the answer must have a state name
that is known, and its ports are not trimmed.
-/
namespace MgmtParsedResponse
open TextOps Results MgmtValues MgmtMessage MgmtNotifications

inductive ParseResponseError where
  | missingPidPrefix (payload : Text)
  | missingHoldPrefix (payload : Text)
  | invalidHoldValue (value : Text)
  | invalidInteger (field value : Text)
  | missingField (field : Text)
  | stateTooFewFields (fields : Nat)
  | invalidTimestamp (value : Text)
  | invalidStateName (name : Text)
  | emptyStateHistory
  | invalidManagementVersion (value : Text)
  deriving DecidableEq, Repr

/- A field that is absent, empty or no number gives no port. -/
def getPort (fields : List Text) (index : Nat) : Option U16 :=
  fields[index]?.bind fun field => if field = [] then none else parseUInt 16 field

def parseStateEntry (line : Text) : Except ParseResponseError StateEntry :=
  let fields := splitn 9 (· == ',') line
  if fields.length < 2 then .error (.stateTooFewFields fields.length)
  else match parseUInt 64 (fields.getD 0 []) with
    | none => .error (.invalidTimestamp (fields.getD 0 []))
    | some seconds => do
      let name ← (OpenVpnState.fromStr (fields.getD 1 [])).mapError .invalidStateName
      return {
        timestamp := ⟨seconds⟩, name
        description := fields[2]?.getD [], localIp := fields[3]?.getD []
        remoteIp := fields[4]?.getD [], remotePort := getPort fields 5
        localAddr := fields[6]?.getD [], localPort := getPort fields 7
        localIpv6 := fields[8]?.getD [] }

/-! Both parsers of one line -/

/- A state of the enumeration, not a name kept for later releases. -/
def Known (state : OpenVpnState) : Prop := ∀ name, state ≠ .unknown name

/-- Two readings of one line. A port is compared when no white space stands around it. -/
structure SameEntry (fields : List Text) (e f : StateEntry) : Prop where
  timestamp : e.timestamp = f.timestamp
  name : e.name = f.name
  description : e.description = f.description
  localIp : e.localIp = f.localIp
  remoteIp : e.remoteIp = f.remoteIp
  localAddr : e.localAddr = f.localAddr
  localIpv6 : e.localIpv6 = f.localIpv6
  remotePort : Trimmed (fields[5]?.getD []) → e.remotePort = f.remotePort
  localPort : Trimmed (fields[7]?.getD []) → e.localPort = f.localPort

theorem getPort_trimmed {fields : List Text} {index : Nat}
    (trimmed : Trimmed (fields[index]?.getD [])) :
    getPort fields index = parseOptionalPort (fields[index]?.getD []) := by
  rw [parseOptionalPort, trim_eq_self trimmed, getPort]
  cases fields[index]? <;> rfl

theorem fromStr_known (s : Text) : Ensures Known (OpenVpnState.fromStr s) := by
  unfold OpenVpnState.fromStr
  iterate 12 refine Ensures.ite (ensures_ok (by simp [Known])) fun _ => ?_
  exact ensures_error s

section Lines
variable {line : Text}

def stateFields (line : Text) : List Text := splitn 9 (· == ',') line

def notified (fields : List Text) (seconds : U64) : StateEntry where
  timestamp := ⟨seconds⟩
  name := orUnknown .unknown (OpenVpnState.fromStr (fields.getD 1 []))
  description := fields[2]?.getD []
  localIp := fields[3]?.getD []
  remoteIp := fields[4]?.getD []
  remotePort := parseOptionalPort (fields[5]?.getD [])
  localAddr := fields[6]?.getD []
  localPort := parseOptionalPort (fields[7]?.getD [])
  localIpv6 := fields[8]?.getD []

theorem parseState_fields (five : 5 ≤ (stateFields line).length) :
    parseState line = (parseUInt 64 ((stateFields line).getD 0 [])).map fun seconds =>
      .state (notified (stateFields line) seconds) := by
  unfold stateFields at five ⊢
  match fields : splitn 9 (· == ',') line, five with
  | a :: b :: c :: d :: e :: more, _ =>
    simp only [parseState, fields]
    cases number : parseUInt 64 a with
    | none => simp [number]
    | some seconds => simp [number, notified]

def answered (fields : List Text) (seconds : U64) (name : OpenVpnState) : StateEntry where
  timestamp := ⟨seconds⟩
  name := name
  description := fields[2]?.getD []
  localIp := fields[3]?.getD []
  remoteIp := fields[4]?.getD []
  remotePort := getPort fields 5
  localAddr := fields[6]?.getD []
  localPort := getPort fields 7
  localIpv6 := fields[8]?.getD []

theorem parseStateEntry_fields (two : 2 ≤ (stateFields line).length) :
    parseStateEntry line =
      match parseUInt 64 ((stateFields line).getD 0 []) with
      | none => .error (.invalidTimestamp ((stateFields line).getD 0 []))
      | some seconds =>
        match OpenVpnState.fromStr ((stateFields line).getD 1 []) with
        | .error name => .error (.invalidStateName name)
        | .ok name => .ok (answered (stateFields line) seconds name) := by
  unfold stateFields at two ⊢
  rw [parseStateEntry, if_neg (by omega)]
  split
  · rfl
  · cases OpenVpnState.fromStr ((splitn 9 (· == ',') line).getD 1 []) <;> rfl

theorem notified_same {fields : List Text} {name : OpenVpnState} (seconds : U64)
    (read : OpenVpnState.fromStr (fields.getD 1 []) = .ok name) :
    SameEntry fields (notified fields seconds) (answered fields seconds name) where
  timestamp := rfl
  name := by simp only [notified, answered, read, orUnknown]
  description := rfl
  localIp := rfl
  remoteIp := rfl
  localAddr := rfl
  localIpv6 := rfl
  remotePort trimmed := (getPort_trimmed trimmed).symm
  localPort trimmed := (getPort_trimmed trimmed).symm

/-- The notification takes every line with a time; the answer takes those with a known state, and
    then both read the same entry. -/
theorem state_parsers_agree (line : Text) (five : 5 ≤ (stateFields line).length) :
    (parseState line = none ↔ ∃ value, parseStateEntry line = .error (.invalidTimestamp value)) ∧
      (∀ f, parseStateEntry line = .ok f → ∃ e, parseState line = some (.state e) ∧
        Known e.name ∧ SameEntry (stateFields line) e f) ∧
      ∀ e, parseState line = some (.state e) →
        (Known e.name → ∃ f, parseStateEntry line = .ok f ∧ SameEntry (stateFields line) e f) ∧
          ∀ name, e.name = .unknown name →
            parseStateEntry line = .error (.invalidStateName name) := by
  have notification := parseState_fields five
  have answer := parseStateEntry_fields (Nat.le_trans (by decide) five)
  cases number : parseUInt 64 ((stateFields line).getD 0 []) with
  | none =>
    rw [number] at notification answer
    simp [notification, answer]
  | some seconds =>
    rw [number, Option.map_some] at notification
    cases read : OpenVpnState.fromStr ((stateFields line).getD 1 []) with
    | error name =>
      have kept : (notified (stateFields line) seconds).name = .unknown name := by
        simp only [notified, read, orUnknown]
      rw [number, read] at answer
      refine ⟨by simp [notification, answer], by simp [answer], ?_⟩
      intro e same
      rw [notification] at same
      cases same
      rw [kept]
      refine ⟨fun known => absurd rfl (known name), ?_⟩
      rintro _ ⟨⟩
      exact answer
    | ok name =>
      have same := notified_same seconds read
      have known : Known (notified (stateFields line) seconds).name := by
        rw [same.name]
        exact fromStr_known _ name read
      rw [number, read] at answer
      refine ⟨by simp [notification, answer], ?_, ?_⟩
      · intro f accepted
        rw [answer] at accepted
        cases accepted
        exact ⟨_, notification, known, same⟩
      · intro e found
        rw [notification] at found
        cases found
        exact ⟨fun _ => ⟨_, answer, same⟩, fun other unknown => absurd unknown (known other)⟩

end Lines

theorem state_parsers_agree_connected :
    ∃ e f, parseState (lit "1711234567,CONNECTED,SUCCESS,10.8.0.6,198.51.100.1,1194,,") =
        some (.state e) ∧
      parseStateEntry (lit "1711234567,CONNECTED,SUCCESS,10.8.0.6,198.51.100.1,1194,,") = .ok f ∧
      SameEntry (stateFields (lit "1711234567,CONNECTED,SUCCESS,10.8.0.6,198.51.100.1,1194,,")) e f := by
  obtain ⟨-, accepted, -⟩ := state_parsers_agree
    (lit "1711234567,CONNECTED,SUCCESS,10.8.0.6,198.51.100.1,1194,,") (by decide +kernel)
  obtain ⟨f, answer⟩ : ∃ f, parseStateEntry
      (lit "1711234567,CONNECTED,SUCCESS,10.8.0.6,198.51.100.1,1194,,") = .ok f := by
    refine ⟨answered (stateFields (lit "1711234567,CONNECTED,SUCCESS,10.8.0.6,198.51.100.1,1194,,"))
      1711234567 .connected, ?_⟩
    decide +kernel
  obtain ⟨e, notification, -, same⟩ := accepted f answer
  exact ⟨e, f, notification, answer, same⟩

def ParsersAgree (line : Text) : Prop :=
  ∀ e, parseState line = some (.state e) ↔ parseStateEntry line = .ok e

/-- A state name of a later release: kept by the notification, refused in the answer. -/
theorem unknown_state_refused :
    5 ≤ (stateFields (lit "1711234567,BOGUS,,,")).length ∧
      ¬ ParsersAgree (lit "1711234567,BOGUS,,,") := by
  refine ⟨by decide +kernel, ?_⟩
  intro agree
  have entry := (agree (notified (stateFields (lit "1711234567,BOGUS,,,")) 1711234567)).mp
    (by decide +kernel)
  exact absurd entry (by decide +kernel)

end MgmtParsedResponse
