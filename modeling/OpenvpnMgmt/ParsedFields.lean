import OpenvpnMgmt.Lib.Results
import OpenvpnMgmt.Tokens

/-!
What the command parser leaves in the fields of an accepted line: no line separators, and the
shape that each keyword gives to its arguments.
-/
namespace MgmtParsedFields
open TextOps Results MgmtEncoder MgmtValues MgmtCommand MgmtEncodeSafety MgmtCommandRoundTrip
  MgmtTokens

def FieldShape : OvpnCommand → Prop
  | .challengeResponse _ _ | .staticChallengeResponse _ _ | .managementPassword _ | .rsaSig _
  | .pkSig _ | .certificate _ => False
  | .username authType _ | .password authType _ => authType.Named
  | .kill (.commonName name) => Solid name ∧ parseKill name = .ok (.kill (.commonName name))
  | .kill (.address protocol ip port) =>
    protocol.Named ∧ ':' ∉ protocol.toText ∧ ':' ∉ ip ∧
      Solid (protocol.toText ++ ':' :: ip ++ ':' :: display port) ∧ WireClean protocol.toText
  | .needOk name _ => Solid name
  | .clientKill _ (some message) => Solid message
  | .remote (.modify host _) | .proxy (.http host _ _) | .proxy (.socks host _) => IsWord host
  | _ => True

/- The field that the parser reads as a token and the encoder does not quote. -/
def unquotedField : OvpnCommand → Option Text
  | .needStr name _ => some name
  | .clientPendingAuth _ _ extra _ => some extra
  | .crResponse response => some response.expose
  | _ => none

structure Plain (c : OvpnCommand) : Prop where
  clean : ∀ s ∈ gatedFields c, WireClean s
  shaped : FieldShape c
  quoted : unquotedField c = none

theorem plain_fieldless {c : OvpnCommand} (fieldless : gatedFields c = []) (shaped : FieldShape c)
    (quoted : unquotedField c = none) : Plain c := ⟨by simp [fieldless], shaped, quoted⟩

theorem clean_of_subset {a b : Text} (clean : WireClean b) (inside : a ⊆ b) : WireClean a :=
  fun c member => clean c (inside member)

theorem nextToken_clean {input token rest : Text} (clean : WireClean input)
    (found : nextToken input = some (token, rest)) : WireClean token ∧ WireClean rest := by
  obtain ⟨first, second⟩ := nextToken_subset found
  exact ⟨clean_of_subset clean first, clean_of_subset clean second⟩

theorem orMissing_eq_ok {α : Type} {message : String} {o : Option α} {a : α} :
    orMissing message o = .ok a ↔ o = some a := by
  cases o <;> simp [orMissing]

theorem authType_spelling (s : Text) :
    (orUnknown .unknown (AuthType.fromStr s)).toText = s ∧
      (orUnknown .unknown (AuthType.fromStr s)).Named := by
  rw [AuthType.fromStr]
  split_ifs with auth key http socks
  · exact ⟨auth.symm, trivial⟩
  · exact ⟨key.symm, trivial⟩
  · exact ⟨http.symm, trivial⟩
  · exact ⟨socks.symm, trivial⟩
  · exact ⟨rfl, by simp [orUnknown, AuthType.Named, AuthType.fromStr, auth, key, http, socks]⟩

/-- A known protocol may be printed in another case than it was typed in. -/
theorem transportProtocol_spelling (s : Text) :
    (orUnknown .unknown (TransportProtocol.fromStr s)).Named ∧
      ((orUnknown .unknown (TransportProtocol.fromStr s)).toText = s ∨
        IsToken (orUnknown .unknown (TransportProtocol.fromStr s)).toText ∧
          ':' ∉ (orUnknown .unknown (TransportProtocol.fromStr s)).toText ∧
          WireClean (orUnknown .unknown (TransportProtocol.fromStr s)).toText) := by
  have udp : IsToken (lit "udp") ∧ ':' ∉ lit "udp" ∧ WireClean (lit "udp") := by
    simp [IsToken, IsWord, NoWhitespace, isWhitespace, lit_eq, wireUnsafe]
  have tcp : IsToken (lit "tcp") ∧ ':' ∉ lit "tcp" ∧ WireClean (lit "tcp") := by
    simp [IsToken, IsWord, NoWhitespace, isWhitespace, lit_eq, wireUnsafe]
  rw [TransportProtocol.fromStr]
  split_ifs with first second third fourth
  · exact ⟨trivial, Or.inr udp⟩
  · exact ⟨trivial, Or.inr udp⟩
  · exact ⟨trivial, Or.inr tcp⟩
  · exact ⟨trivial, Or.inr tcp⟩
  · refine ⟨?_, Or.inl rfl⟩
    simp [orUnknown, TransportProtocol.Named, TransportProtocol.fromStr, first, second, third,
      fourth]

theorem parseCredential_eq_ok {usage : String} {args : Text} {authType : AuthType}
    {value : Redacted} (clean : WireClean args)
    (parsed : parseCredential usage args = .ok (authType, value)) :
    authType.Named ∧ WireClean authType.toText ∧ WireClean value.expose := by
  simp only [parseCredential, bind_eq_ok, orMissing_eq_ok, Prod.exists, pure_ok, Except.ok.injEq,
    Prod.mk.injEq] at parsed
  obtain ⟨name, rest, first, text, after, second, rfl, rfl⟩ := parsed
  obtain ⟨nameClean, restClean⟩ := nextToken_clean clean first
  obtain ⟨spelled, named⟩ := authType_spelling name
  exact ⟨named, spelled.symm ▸ nameClean, (nextToken_clean restClean second).1⟩

section Keywords
variable {args : Text}

theorem fieldless_ok {c : OvpnCommand} (fieldless : gatedFields c = []) (shaped : FieldShape c)
    (quoted : unquotedField c = none) : Ensures Plain (.ok c : Parsed OvpnCommand) :=
  ensures_ok (plain_fieldless fieldless shaped quoted)

theorem parseVersion_plain : Ensures Plain (parseVersion args) :=
  .ite (fieldless_ok rfl trivial rfl) fun _ =>
    ensures_bind fun _ _ => fieldless_ok rfl trivial rfl

theorem parseStatus_plain : Ensures Plain (parseStatus args) :=
  .ite (fieldless_ok rfl trivial rfl) fun _ =>
    .ite (fieldless_ok rfl trivial rfl) fun _ =>
      .ite (fieldless_ok rfl trivial rfl) fun _ => ensures_error _

theorem parseState_plain : Ensures Plain (parseState args) :=
  .ite (fieldless_ok rfl trivial rfl) fun _ =>
    ensures_map fun _ => plain_fieldless rfl trivial rfl

theorem parseVerb_plain : Ensures Plain (parseVerb args) :=
  .ite (fieldless_ok rfl trivial rfl) fun _ =>
    ensures_bind fun _ _ => fieldless_ok rfl trivial rfl

theorem parseMute_plain : Ensures Plain (parseMute args) :=
  .ite (fieldless_ok rfl trivial rfl) fun _ =>
    ensures_bind fun _ _ => fieldless_ok rfl trivial rfl

theorem parseHold_plain : Ensures Plain (parseHold args) :=
  .ite (fieldless_ok rfl trivial rfl) fun _ =>
    .ite (fieldless_ok rfl trivial rfl) fun _ =>
      .ite (fieldless_ok rfl trivial rfl) fun _ =>
        .ite (fieldless_ok rfl trivial rfl) fun _ => ensures_error _

theorem parseEnvFilter_plain : Ensures Plain (parseEnvFilter args) :=
  .ite (fieldless_ok rfl trivial rfl) fun _ =>
    ensures_map fun _ => plain_fieldless rfl trivial rfl

theorem parseClientAuth_plain : Ensures Plain (parseClientAuth args) :=
  ensures_bind fun _ _ => ensures_bind fun _ _ => ensures_bind fun _ _ => ensures_bind fun _ _ =>
    fieldless_ok rfl trivial rfl

theorem parseClientAuthNt_plain : Ensures Plain (parseClientAuthNt args) :=
  ensures_bind fun _ _ => ensures_bind fun _ _ => ensures_bind fun _ _ =>
    fieldless_ok rfl trivial rfl

theorem parseRemoteEntryGet_plain : Ensures Plain (parseRemoteEntryGet args) := by
  refine .ite (ensures_error _) fun _ => .ite (fieldless_ok rfl trivial rfl) fun _ => ?_
  dsimp only
  split
  · exact ensures_error _
  · split
    · exact fieldless_ok rfl trivial rfl
    · split
      · exact ensures_error _
      · exact fieldless_ok rfl trivial rfl

variable (clean : WireClean args)
include clean

theorem parseUsername_plain : Ensures Plain (parseUsername args) :=
  ensures_bind fun _ parsed => by
    obtain ⟨named, authClean, valueClean⟩ := parseCredential_eq_ok clean parsed
    exact ensures_ok ⟨by simp [gatedFields, authClean, valueClean], named, rfl⟩

theorem parsePassword_plain : Ensures Plain (parsePassword args) :=
  ensures_bind fun _ parsed => by
    obtain ⟨named, authClean, valueClean⟩ := parseCredential_eq_ok clean parsed
    exact ensures_ok ⟨by simp [gatedFields, authClean, valueClean], named, rfl⟩

theorem parseClientDeny_plain : Ensures Plain (parseClientDeny args) := by
  intro c parsed
  simp only [parseClientDeny, bind_eq_ok, orMissing_eq_ok, Prod.exists, pure_ok,
    Except.ok.injEq] at parsed
  obtain ⟨cid, afterCid, first, -, -, kid, afterKid, second, -, -, reason, rest, third, rfl⟩ := parsed
  have fromKid := (nextToken_clean clean first).2
  obtain ⟨reasonClean, restClean⟩ := nextToken_clean (nextToken_clean fromKid second).2 third
  refine ⟨?_, trivial, rfl⟩
  cases found : nextToken rest with
  | none => simp [gatedFields, reasonClean]
  | some pair => simp [gatedFields, reasonClean, (nextToken_clean restClean found).1]

theorem parsePushUpdateBroad_plain : Ensures Plain (parsePushUpdateBroad args) := by
  intro c parsed
  simp only [parsePushUpdateBroad, bind_eq_ok, orMissing_eq_ok, Prod.exists, pure_ok,
    Except.ok.injEq] at parsed
  obtain ⟨options, rest, found, rfl⟩ := parsed
  exact ⟨by simp [gatedFields, (nextToken_clean clean found).1], trivial, rfl⟩

theorem parsePushUpdateCid_plain : Ensures Plain (parsePushUpdateCid args) := by
  intro c parsed
  simp only [parsePushUpdateCid, bind_eq_ok, orMissing_eq_ok, Prod.exists, pure_ok,
    Except.ok.injEq] at parsed
  obtain ⟨cid, rest, first, -, -, options, after, second, rfl⟩ := parsed
  have optionsClean := (nextToken_clean (nextToken_clean clean first).2 second).1
  exact ⟨by simp [gatedFields, optionsClean], trivial, rfl⟩

theorem parseRawMl_plain : Ensures Plain (parseRawMl args) :=
  .ite (ensures_error _) fun _ => ensures_ok ⟨by simp [gatedFields, clean], trivial, rfl⟩

theorem host_clean {host : Text} (member : host ∈ splitWhitespace args) :
    IsWord host ∧ WireClean host := by
  obtain ⟨word, inside⟩ := splitWhitespace_words args host member
  exact ⟨word, clean_of_subset clean inside⟩

theorem parseRemote_plain : Ensures Plain (parseRemote args) := by
  rw [parseRemote]
  split
  · exact .ite (fieldless_ok rfl trivial rfl) fun _ => .ite (fieldless_ok rfl trivial rfl) fun _ =>
      ensures_error _
  · exact .ite (ensures_bind fun _ _ => fieldless_ok rfl trivial rfl) fun _ => ensures_error _
  · rename_i action host port eq
    have member : host ∈ splitWhitespace args := by simp [eq]
    obtain ⟨word, hostClean⟩ := host_clean clean member
    exact .ite (ensures_bind fun _ _ => ensures_ok ⟨by simp [gatedFields, hostClean], word, rfl⟩)
      fun _ => ensures_error _
  · exact ensures_error _

theorem parseProxy_plain : Ensures Plain (parseProxy args) := by
  rw [parseProxy]
  split
  · exact .ite (fieldless_ok rfl trivial rfl) fun _ => ensures_error _
  · rename_i action host port eq
    have member : host ∈ splitWhitespace args := by simp [eq]
    obtain ⟨word, hostClean⟩ := host_clean clean member
    refine .ite ?_ fun _ => .ite ?_ fun _ => ensures_error _
    · exact ensures_bind fun _ _ => ensures_ok ⟨by simp [gatedFields, hostClean], word, rfl⟩
    · exact ensures_bind fun _ _ => ensures_ok ⟨by simp [gatedFields, hostClean], word, rfl⟩
  · rename_i action host port flag eq
    have member : host ∈ splitWhitespace args := by simp [eq]
    obtain ⟨word, hostClean⟩ := host_clean clean member
    exact .ite (ensures_bind fun _ _ => ensures_ok ⟨by simp [gatedFields, hostClean], word, rfl⟩)
      fun _ => ensures_error _
  · exact ensures_error _

variable (trimmed : Trimmed args)
include trimmed

theorem parseNeedOk_plain : Ensures Plain (parseNeedOk args) := by
  intro c parsed
  simp only [parseNeedOk, bind_eq_ok, orMissing_eq_ok, Prod.exists, pure_ok,
    Except.ok.injEq] at parsed
  obtain ⟨name, resp, pieces, response, -, rfl⟩ := parsed
  obtain ⟨blank, space, rfl⟩ := rsplitOnce_eq_some pieces
  have nameClean : WireClean (trim name) := by
    refine clean_of_subset clean fun c member => ?_
    simp [(trim_inside name).subset member]
  refine ⟨by simp [gatedFields, nameClean], ?_, rfl⟩
  -- The arguments start with a visible character, so it is the name's.
  cases name with
  | nil =>
    have visible := trimmed.1 blank (by simp)
    rw [space] at visible
    contradiction
  | cons c more => exact solid_trim (List.mem_cons_self) (trimmed.1 c (by simp))

theorem parseClientKill_plain : Ensures Plain (parseClientKill args) := by
  rw [parseClientKill]
  cases pieces : splitOnce isWhitespace args with
  | none => exact ensures_bind fun _ _ => fieldless_ok rfl trivial rfl
  | some pair =>
    obtain ⟨cid, message⟩ := pair
    obtain ⟨blank, space, rfl, -⟩ := splitOnce_eq_some pieces
    have messageClean : WireClean (trim message) := by
      refine clean_of_subset clean fun c member => ?_
      simp [(trim_inside message).subset member]
    refine ensures_bind fun _ _ => ensures_ok ⟨by simp [gatedFields, messageClean], ?_, rfl⟩
    -- They end with a visible character, which is the message's.
    rcases List.eq_nil_or_concat message with rfl | ⟨front, c, rfl⟩
    · have visible := trimmed.2 blank (by simp)
      rw [space] at visible
      contradiction
    · have shape : cid ++ blank :: front.concat c = (cid ++ blank :: front) ++ [c] := by simp
      exact solid_trim (c := c) (by simp) (trimmed.2 c (by rw [shape, List.getLast?_concat]; rfl))

theorem killAddress_plain {protocol ip port : Text} {n : U16}
    (pieces : splitn 3 (· == ':') args = [protocol, ip, port]) :
    Plain (.kill (.address (orUnknown .unknown (TransportProtocol.fromStr protocol)) ip n)) := by
  obtain ⟨rest, first, second⟩ := splitn_three pieces
  obtain ⟨s, colon, rfl, protocolFree⟩ := splitOnce_eq_some first
  obtain ⟨r, -, rfl, ipFree⟩ := splitOnce_eq_some second
  have isColon : s = ':' := by simpa using colon
  subst isColon
  obtain ⟨named, spelling⟩ := transportProtocol_spelling protocol
  generalize orUnknown .unknown (TransportProtocol.fromStr protocol) = printed at named spelling ⊢
  have ipClean : WireClean ip := clean_of_subset clean fun c member => by simp [member]
  have facts : ':' ∉ printed.toText ∧ WireClean printed.toText ∧
      ∀ c ∈ printed.toText.head?, isWhitespace c = false := by
    rcases spelling with same | ⟨token, plain, spelled⟩
    · rw [same]
      refine ⟨fun member => by simpa using protocolFree ':' member,
        clean_of_subset clean fun c member => by simp [member], fun c member => ?_⟩
      exact trimmed.1 c (List.mem_head?_append_of_mem_head? member)
    · exact ⟨plain, spelled, token.1.solid.2.1⟩
  obtain ⟨plain, spelled, head⟩ := facts
  have front : Solid (printed.toText ++ [':']) := by
    refine ⟨by simp, fun c member => ?_, fun c member => ?_⟩
    · cases eq : printed.toText with
      | nil =>
        have : c = ':' := by simpa [eq] using member.symm
        subst this
        decide
      | cons d more => exact head c (by simpa [eq] using member)
    · have : c = ':' := by simpa using member.symm
      subst this
      decide
  have whole := front.append (display_solid n) (ip ++ [':'])
  refine ⟨by simp [gatedFields, ipClean], ⟨named, plain, ?_, by simpa using whole, spelled⟩, rfl⟩
  exact fun member => by simpa using ipFree ':' member

theorem parseKill_plain : Ensures Plain (parseKill args) := by
  intro c parsed
  have name (nonempty : args ≠ []) (whole : parseKill args = .ok (.kill (.commonName args))) :
      Plain (.kill (.commonName args)) := ⟨by simp [gatedFields, clean], ⟨⟨nonempty, trimmed⟩, whole⟩, rfl⟩
  have shape := parsed
  rw [parseKill] at shape
  split at shape
  · cases shape
  · rename_i nonempty
    split at shape
    · rename_i protocol ip port pieces
      split at shape
      · cases shape
        exact killAddress_plain clean trimmed pieces
      · cases shape
        exact name nonempty parsed
    · cases shape
      exact name nonempty parsed

def tokenKeywords : List Text := [lit "needstr", lit "client-pending-auth", lit "cr-response"]

theorem parseCommand_plain {cmd line : Text} (lineClean : WireClean line)
    (other : cmd ∉ tokenKeywords) : Ensures Plain (parseCommand cmd args line) := by
  simp only [tokenKeywords, List.mem_cons, List.not_mem_nil, or_false, not_or] at other
  obtain ⟨notNeedStr, notPendingAuth, notCrResponse⟩ := other
  refine .ite parseVersion_plain fun _ => .ite (fieldless_ok rfl trivial rfl) fun _ => ?_
  refine .ite (fieldless_ok rfl trivial rfl) fun _ => .ite (fieldless_ok rfl trivial rfl) fun _ => ?_
  refine .ite (fieldless_ok rfl trivial rfl) fun _ => .ite parseStatus_plain fun _ => ?_
  refine .ite parseState_plain fun _ => ?_
  refine .ite (ensures_map fun _ => plain_fieldless rfl trivial rfl) fun _ => ?_
  refine .ite (ensures_map fun _ => plain_fieldless rfl trivial rfl) fun _ => ?_
  refine .ite parseVerb_plain fun _ => .ite parseMute_plain fun _ => ?_
  refine .ite (ensures_map fun _ => plain_fieldless rfl trivial rfl) fun _ => ?_
  refine .ite (ensures_map fun _ => plain_fieldless rfl trivial rfl) fun _ => ?_
  refine .ite (parseKill_plain clean trimmed) fun _ => .ite parseHold_plain fun _ => ?_
  refine .ite (parseUsername_plain clean) fun _ => .ite (parsePassword_plain clean) fun _ => ?_
  refine .ite (ensures_map fun _ => plain_fieldless rfl trivial rfl) fun _ => ?_
  refine .ite (fieldless_ok rfl trivial rfl) fun _ => .ite (parseNeedOk_plain clean trimmed) fun _ => ?_
  rw [if_neg notNeedStr]
  refine .ite (fieldless_ok rfl trivial rfl) fun _ => ?_
  refine .ite (ensures_map fun _ => plain_fieldless rfl trivial rfl) fun _ => ?_
  refine .ite parseClientAuth_plain fun _ => .ite parseClientAuthNt_plain fun _ => ?_
  refine .ite (parseClientDeny_plain clean) fun _ => ?_
  refine .ite (parseClientKill_plain clean trimmed) fun _ => .ite (parseRemote_plain clean) fun _ => ?_
  refine .ite (parseProxy_plain clean) fun _ => .ite parseEnvFilter_plain fun _ => ?_
  refine .ite (fieldless_ok rfl trivial rfl) fun _ => .ite parseRemoteEntryGet_plain fun _ => ?_
  refine .ite (parsePushUpdateBroad_plain clean) fun _ => ?_
  refine .ite (parsePushUpdateCid_plain clean) fun _ => ?_
  rw [if_neg notPendingAuth, if_neg notCrResponse]
  refine .ite (parseRawMl_plain clean) fun _ => .ite (fieldless_ok rfl trivial rfl) fun _ => ?_
  refine .ite (fieldless_ok rfl trivial rfl) fun _ => ?_
  exact ensures_ok ⟨by simp [gatedFields, lineClean], trivial, rfl⟩

end Keywords

/-! The token that will not be quoted -/

def tokenField (cmd args : Text) : Option Text :=
  if cmd = lit "needstr" ∨ cmd = lit "cr-response" then (tokens args)[0]?
  else if cmd = lit "client-pending-auth" then (tokens args)[2]?
  else none

def typedField (line : Text) : Option Text :=
  match splitOnce isWhitespace (trim line) with
  | some (cmd, args) => tokenField cmd (trim args)
  | none => none

theorem parseNeedStr_eq_ok {args : Text} {c : OvpnCommand} (parsed : parseNeedStr args = .ok c) :
    ∃ name rest value after, nextToken args = some (name, rest) ∧
      nextToken rest = some (value, after) ∧ c = .needStr name value := by
  simp only [parseNeedStr, bind_eq_ok, orMissing_eq_ok, Prod.exists, pure_ok,
    Except.ok.injEq] at parsed
  obtain ⟨name, rest, first, value, after, second, rfl⟩ := parsed
  exact ⟨name, rest, value, after, first, second, rfl⟩

theorem parseCrResponse_eq_ok {args : Text} {c : OvpnCommand}
    (parsed : parseCrResponse args = .ok c) :
    ∃ response rest, nextToken args = some (response, rest) ∧ c = .crResponse ⟨response⟩ := by
  simp only [parseCrResponse, bind_eq_ok, orMissing_eq_ok, Prod.exists, pure_ok,
    Except.ok.injEq] at parsed
  obtain ⟨response, rest, found, rfl⟩ := parsed
  exact ⟨response, rest, found, rfl⟩

theorem parseClientPendingAuth_eq_ok {args : Text} {c : OvpnCommand}
    (parsed : parseClientPendingAuth args = .ok c) :
    ∃ cidText afterCid kidText afterKid extra rest cid kid timeout,
      nextToken args = some (cidText, afterCid) ∧ nextToken afterCid = some (kidText, afterKid) ∧
        nextToken afterKid = some (extra, rest) ∧ c = .clientPendingAuth cid kid extra timeout := by
  simp only [parseClientPendingAuth, bind_eq_ok, orMissing_eq_ok, Prod.exists, pure_ok,
    Except.ok.injEq] at parsed
  obtain ⟨cidText, afterCid, first, cid, -, kidText, afterKid, second, kid, -, extra, rest, third,
    -, -, -, timeout, -, rfl⟩ := parsed
  exact ⟨cidText, afterCid, kidText, afterKid, extra, rest, cid, kid, timeout, first, second, third,
    rfl⟩

structure Fits (field : Option Text) (c : OvpnCommand) : Prop where
  clean : ∀ s ∈ gatedFields c, WireClean s
  shaped : FieldShape c
  token : unquotedField c = field

theorem parseCommand_fits {cmd args line : Text} (clean : WireClean args) (trimmed : Trimmed args)
    (lineClean : WireClean line) : Ensures (Fits (tokenField cmd args)) (parseCommand cmd args line) := by
  intro c parsed
  by_cases known : cmd ∈ tokenKeywords
  · simp only [tokenKeywords, List.mem_cons, List.not_mem_nil, or_false] at known
    rcases known with rfl | rfl | rfl
    · obtain ⟨name, rest, value, after, first, second, rfl⟩ :=
        parseNeedStr_eq_ok (by simpa [parseCommand] using parsed)
      obtain ⟨nameClean, restClean⟩ := nextToken_clean clean first
      have valueClean := (nextToken_clean restClean second).1
      refine ⟨by simp [gatedFields, nameClean, valueClean], trivial, ?_⟩
      simp [unquotedField, tokenField, tokens_cons first]
    · obtain ⟨cidText, afterCid, kidText, afterKid, extra, rest, cid, kid, timeout, first, second,
        third, rfl⟩ := parseClientPendingAuth_eq_ok (by simpa [parseCommand] using parsed)
      have afterKidClean := (nextToken_clean (nextToken_clean clean first).2 second).2
      have extraClean := (nextToken_clean afterKidClean third).1
      refine ⟨by simp [gatedFields, extraClean], trivial, ?_⟩
      simp [unquotedField, tokenField, tokens_cons first, tokens_cons second, tokens_cons third]
    · obtain ⟨response, rest, found, rfl⟩ :=
        parseCrResponse_eq_ok (by simpa [parseCommand] using parsed)
      refine ⟨by simp [gatedFields, (nextToken_clean clean found).1], trivial, ?_⟩
      simp [unquotedField, tokenField, tokens_cons found]
  · obtain ⟨fields, shaped, quoted⟩ := parseCommand_plain clean trimmed lineClean known c parsed
    refine ⟨fields, shaped, ?_⟩
    simp only [tokenKeywords, List.mem_cons, List.not_mem_nil, or_false, not_or] at known
    simp [quoted, tokenField, known]

theorem fromStr_fits {line : Text} (clean : WireClean line) :
    Ensures (Fits (typedField line)) (OvpnCommand.fromStr line) := by
  have lineClean : WireClean (trim line) := clean_of_subset clean (trim_inside line).subset
  rw [OvpnCommand.fromStr, typedField]
  cases pieces : splitOnce isWhitespace (trim line) with
  | none =>
    intro c parsed
    have fits := parseCommand_fits wireClean_nil (by decide) lineClean c parsed
    have absent : tokenField (trim line) [] = none := by
      rw [tokenField]
      split_ifs <;> simp
    rwa [absent] at fits
  | some pair =>
    obtain ⟨cmd, args⟩ := pair
    obtain ⟨blank, -, whole, -⟩ := splitOnce_eq_some pieces
    have argsClean : WireClean args := by
      refine clean_of_subset lineClean fun c member => ?_
      simp [whole, member]
    exact parseCommand_fits (clean_of_subset argsClean (trim_inside args).subset)
      (trim_trimmed args) lineClean

end MgmtParsedFields
