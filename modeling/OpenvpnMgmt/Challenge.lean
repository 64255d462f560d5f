import OpenvpnMgmt.Tokens
import OpenvpnMgmt.NotificationRoundTrip
import OpenvpnMgmt.Lib.Rows

/-!
CRV1 dynamic challenges from end to end. A server denies a client with the text of a challenge;
the client is told of it in a PASSWORD notification and answers with a `password` command, whose
value the server parses as a response. Base64 is a parameter.
-/
namespace MgmtChallenge
open TextOps Utf8Text Base64Text Results SeparatedRows MgmtEncoder MgmtValues MgmtMessage MgmtCommand MgmtCodec
  MgmtWire MgmtEncodeSafety MgmtCommandRoundTrip MgmtNotificationRoundTrip MgmtTokens

structure Crv1Challenge where
  flags : Text
  stateId : Text
  username : Text
  challengeText : Text
  deriving DecidableEq, Repr

structure Crv1Response where
  flags : Text
  stateId : Text
  username : Text
  response : Text
  deriving DecidableEq, Repr

inductive ParseCrv1ResponseError (ε : Type) where
  | missingPrefix
  | wrongFieldCount (count : Nat)
  | stateIdNotBase64 (source : ε)
  | stateIdNotUtf8 (bytes : Bytes)
  | usernameNotBase64 (source : ε)
  | usernameNotUtf8 (bytes : Bytes)
  deriving DecidableEq, Repr

section Texts
variable {ε : Type} (engine : Engine ε)

def Crv1Challenge.toText (c : Crv1Challenge) : Text :=
  lit "CRV1:" ++ (c.flags ++ ':' :: (engine.encode (toUtf8 c.stateId) ++ ':' ::
    (engine.encode (toUtf8 c.username) ++ ':' :: c.challengeText)))

def Crv1Response.toText (r : Crv1Response) : Text :=
  lit "CRV1:" ++ (r.flags ++ ':' :: (engine.encode (toUtf8 r.stateId) ++ ':' ::
    (engine.encode (toUtf8 r.username) ++ ':' :: r.response)))

/- A segment that is base64 of a text; either step has an error of its own. -/
def decodeSegment (notBase64 : ε → ParseCrv1ResponseError ε)
    (notUtf8 : Bytes → ParseCrv1ResponseError ε) (segment : Text) :
    Except (ParseCrv1ResponseError ε) Text :=
  match engine.decode segment with
  | .error source => .error (notBase64 source)
  | .ok bytes =>
    match fromUtf8 bytes with
    | some text => .ok text
    | none => .error (notUtf8 bytes)

/- The response itself keeps its colons. The count of an error includes the `CRV1` field. -/
def Crv1Response.fromStr (input : Text) : Except (ParseCrv1ResponseError ε) Crv1Response :=
  match stripPrefix input (lit "CRV1:") with
  | none => .error .missingPrefix
  | some rest =>
    match splitn 4 (· == ':') rest with
    | [flags, stateId, username, response] => do
      let stateId ← decodeSegment engine .stateIdNotBase64 .stateIdNotUtf8 stateId
      let username ← decodeSegment engine .usernameNotBase64 .usernameNotUtf8 username
      return ⟨flags, stateId, username, response⟩
    | parts => .error (.wrongFieldCount (parts.length + 1))

variable {engine}

theorem decodeSegment_encode
    (inverse : ∀ bytes, engine.decode (engine.encode bytes) = .ok bytes)
    (notBase64 : ε → ParseCrv1ResponseError ε) (notUtf8 : Bytes → ParseCrv1ResponseError ε)
    (t : Text) : decodeSegment engine notBase64 notUtf8 (engine.encode (toUtf8 t)) = .ok t := by
  simp [decodeSegment, inverse, fromUtf8_toUtf8]

/-- Colons may stand in the response, since it is the last of the four fields. -/
theorem fromStr_display (inverse : ∀ bytes, engine.decode (engine.encode bytes) = .ok bytes)
    (colonless : ∀ bytes, ':' ∉ engine.encode bytes) {r : Crv1Response} (plain : ':' ∉ r.flags) :
    Crv1Response.fromStr engine (r.toText engine) = .ok r := by
  have colon : (':' == ':') = true := by simp
  have state := free_of (colonless (toUtf8 r.stateId))
  have user := free_of (colonless (toUtf8 r.username))
  have fields : splitn 4 (· == ':') (r.flags ++ ':' :: (engine.encode (toUtf8 r.stateId) ++ ':' ::
      (engine.encode (toUtf8 r.username) ++ ':' :: r.response))) =
      [r.flags, engine.encode (toUtf8 r.stateId), engine.encode (toUtf8 r.username),
        r.response] := by
    rw [splitn_cons 2 (free_of plain) colon, splitn_cons 1 state colon, splitn_cons 0 user colon]
    rfl
  rw [Crv1Response.fromStr, Crv1Response.toText, stripPrefix_append]
  simp only [fields, decodeSegment_encode inverse, ok_bind, pure_ok]

theorem crv1Response_roundtrip (lawful : engine.Lawful) {r : Crv1Response} (plain : ':' ∉ r.flags) :
    Crv1Response.fromStr engine (r.toText engine) = .ok r :=
  fromStr_display lawful.inverse (fun bytes => colon_not_mem_base64 (lawful.alphabet bytes)) plain

theorem decodeSegment_ok
    (canonical : ∀ {t bytes}, engine.decode t = .ok bytes → engine.encode bytes = t)
    {notBase64 : ε → ParseCrv1ResponseError ε} {notUtf8 : Bytes → ParseCrv1ResponseError ε}
    {segment text : Text} (accepted : decodeSegment engine notBase64 notUtf8 segment = .ok text) :
    engine.encode (toUtf8 text) = segment := by
  rw [decodeSegment] at accepted
  split at accepted
  · cases accepted
  · rename_i bytes decoded
    split at accepted
    · rename_i read
      cases accepted
      rw [toUtf8_fromUtf8 read]
      exact canonical decoded
    · cases accepted

theorem display_fromStr
    (canonical : ∀ {t bytes}, engine.decode t = .ok bytes → engine.encode bytes = t)
    {s : Text} {r : Crv1Response} (accepted : Crv1Response.fromStr engine s = .ok r) :
    r.toText engine = s := by
  rw [Crv1Response.fromStr] at accepted
  split at accepted
  · cases accepted
  · rename_i rest start
    split at accepted
    · rename_i flags stateId username response parts
      have whole := join_splitn ':' 3 rest
      rw [parts] at whole
      obtain ⟨state, stateRead, accepted⟩ := bind_eq_ok.mp accepted
      obtain ⟨user, userRead, accepted⟩ := bind_eq_ok.mp accepted
      cases accepted
      have stateText := decodeSegment_ok canonical stateRead
      have userText := decodeSegment_ok canonical userRead
      rw [stripPrefix_eq_some.mp start, ← whole, Crv1Response.toText, stateText, userText]
      simp [join_cons]
    · cases accepted

/-- The display reads back, for a challenge too, and every accepted text is a display. -/
theorem crv1_roundtrips (lawful : engine.Canonical) :
    (∀ r : Crv1Response, ':' ∉ r.flags → Crv1Response.fromStr engine (r.toText engine) = .ok r) ∧
      (∀ c : Crv1Challenge, ':' ∉ c.flags →
        Crv1Response.fromStr engine (c.toText engine) =
          .ok ⟨c.flags, c.stateId, c.username, c.challengeText⟩) ∧
      ∀ s r, Crv1Response.fromStr engine s = .ok r → r.toText engine = s := by
  refine ⟨?_, ?_, ?_⟩
  · intro r plain
    exact fromStr_display lawful.inverse lawful.plain plain
  · intro c plain
    exact fromStr_display (r := ⟨c.flags, c.stateId, c.username, c.challengeText⟩) lawful.inverse
      lawful.plain plain
  · intro s r accepted
    exact display_fromStr lawful.canonical accepted

theorem challenge_clean (lawful : engine.Lawful) {c : Crv1Challenge} (flags : WireClean c.flags)
    (text : WireClean c.challengeText) : WireClean (c.toText engine) := by
  have state := base64_clean (lawful.alphabet (toUtf8 c.stateId))
  have user := base64_clean (lawful.alphabet (toUtf8 c.username))
  simp [Crv1Challenge.toText, lit_eq, wireUnsafe, flags, state, user, text]

/-! The three messages -/

theorem clientDeny_sends (lawful : engine.Lawful) {codec : OvpnCodec} {cid kid : U64}
    {reason clientReason : Text} (accepted : codec.encoderMode = .sanitize ∨ WireClean reason)
    (clean : WireClean clientReason) :
    ∃ line, Sends engine.encode codec (.clientDeny ⟨cid, kid, reason, some clientReason⟩) line ∧
      tokens line = [lit "client-deny", display cid, display kid, strip reason, clientReason] := by
  have fromClient : Solid (quote (escape clientReason)) := quote_solid _
  have fromReason := (quote_solid (escape (strip reason))).spaced fromClient
  have fromKid := (display_solid kid).spaced fromReason
  have fromCid := (display_solid cid).spaced fromKid
  refine ⟨lit "client-deny" ++ ' ' :: (display cid ++ ' ' :: (display kid ++ ' ' ::
    (quote (escape (strip reason)) ++ ' ' :: quote (escape clientReason)))), ?_, ?_⟩
  · refine sends_of_wire lawful.alphabet (by simp [ungated]) ?_
    simp [commandWire, clientDenyWire, accepted, clean, strip_of_clean clean, lit_eq, pure_ok]
  · rw [tokens_word (fixedWords_isToken "client-deny" (by decide)) fromCid,
      tokens_word (display_isToken cid) fromKid, tokens_word (display_isToken kid) fromReason,
      tokens_quoted _ fromClient, tokens_quoted_last]

theorem parsePassword_challenge (lawful : engine.Lawful) {c : Crv1Challenge}
    (plain : ':' ∉ c.flags) :
    MgmtNotifications.parsePassword
        (lit "Verification Failed: 'Auth' ['" ++ (c.toText engine ++ lit "']")) =
      some (.password (.dynamicChallenge c.flags (engine.encode (toUtf8 c.stateId))
        (engine.encode (toUtf8 c.username)) c.challengeText)) := by
  have state := colon_not_mem_base64 (lawful.alphabet (toUtf8 c.stateId))
  have user := colon_not_mem_base64 (lawful.alphabet (toUtf8 c.username))
  have shape : lit "Verification Failed: 'Auth' ['" ++ (c.toText engine ++ lit "']") =
      passwordPayload (.dynamicChallenge c.flags (engine.encode (toUtf8 c.stateId))
        (engine.encode (toUtf8 c.username)) c.challengeText) := by
    simp [passwordPayload, Crv1Challenge.toText, lit_eq]
  rw [shape]
  exact parsePassword_payload (.dynamicChallenge _ _ _ _) ⟨plain, state, user⟩

theorem challengeResponse_sends (lawful : engine.Lawful) (codec : OvpnCodec) {stateId : Text}
    {response : Redacted} (stateClean : WireClean stateId) (clean : WireClean response.expose) :
    ∃ line, Sends engine.encode codec (.challengeResponse stateId response) line ∧
      tokens line = [lit "password", lit "Auth",
        lit "CRV1::" ++ (stateId ++ (lit "::" ++ response.expose))] := by
  have quotedAuth : quote (escape (lit "Auth")) = lit "\"Auth\"" := by simp [quote, escape, lit_eq]
  refine ⟨lit "password" ++ ' ' :: (quote (escape (lit "Auth")) ++ ' ' ::
    quote (escape (lit "CRV1::" ++ (stateId ++ (lit "::" ++ response.expose))))), ?_, ?_⟩
  · refine sends_of_wire lawful.alphabet (by simp [ungated]) ?_
    rw [quotedAuth]
    simp [commandWire, stateClean, clean, strip_of_clean stateClean, strip_of_clean clean,
      lit_eq, pure_ok]
  · rw [tokens_word (fixedWords_isToken "password" (by decide))
        ((quote_solid _).spaced (quote_solid _)), tokens_quoted _ (quote_solid _),
      tokens_quoted_last]

theorem challengeResponse_value (lawful : engine.Lawful) (stateId response : Text) :
    lit "CRV1::" ++ (engine.encode (toUtf8 stateId) ++ (lit "::" ++ response)) =
      Crv1Response.toText engine ⟨[], stateId, [], response⟩ := by
  simp [Crv1Response.toText, lawful.empty, lit_eq]

/-- What the server asked is what the client is shown, and the answer comes back with the state of
    the challenge it belongs to. -/
theorem challenge_end_to_end (lawful : engine.Lawful) (c : Crv1Challenge) (plain : ':' ∉ c.flags)
    (clean : ∀ s ∈ [c.flags, c.stateId, c.username, c.challengeText], WireClean s)
    (response : Redacted) (responseClean : WireClean response.expose) (codec : OvpnCodec)
    (cid kid : U64) (reason : Text)
    (accepted : codec.encoderMode = .sanitize ∨ WireClean reason) :
    (∃ line, Sends engine.encode codec
          (.clientDeny ⟨cid, kid, reason, some (c.toText engine)⟩) line ∧
        tokens line =
          [lit "client-deny", display cid, display kid, strip reason, c.toText engine]) ∧
      ∃ stateId usernameB64,
        stateId = engine.encode (toUtf8 c.stateId) ∧
        usernameB64 = engine.encode (toUtf8 c.username) ∧
        MgmtNotifications.parsePassword
            (lit "Verification Failed: 'Auth' ['" ++ (c.toText engine ++ lit "']")) =
          some (.password (.dynamicChallenge c.flags stateId usernameB64 c.challengeText)) ∧
        ∃ line value, Sends engine.encode codec (.challengeResponse stateId response) line ∧
          tokens line = [lit "password", lit "Auth", value] ∧
          Crv1Response.fromStr engine value = .ok ⟨[], c.stateId, [], response.expose⟩ := by
  have flagsClean : WireClean c.flags := clean _ (by simp)
  have textClean : WireClean c.challengeText := clean _ (by simp)
  refine ⟨clientDeny_sends lawful accepted (challenge_clean lawful flagsClean textClean),
    _, _, rfl, rfl, parsePassword_challenge lawful plain, ?_⟩
  obtain ⟨line, sent, words⟩ := challengeResponse_sends lawful codec
    (base64_clean (lawful.alphabet (toUtf8 c.stateId))) responseClean
  refine ⟨line, _, sent, words, ?_⟩
  rw [challengeResponse_value lawful]
  exact crv1Response_roundtrip lawful (by simp)

end Texts

theorem crv1_roundtrips_colons :
    Crv1Response.fromStr standard (lit "CRV1::c2Vzc2lvbg==::abc:def:ghi") =
      .ok ⟨[], lit "session", [], lit "abc:def:ghi"⟩ ∧
      Crv1Response.toText standard ⟨[], lit "session", [], lit "abc:def:ghi"⟩ =
        lit "CRV1::c2Vzc2lvbg==::abc:def:ghi" := by
  obtain ⟨displayed, -, accepted⟩ := crv1_roundtrips standard_canonical
  have shown : Crv1Response.toText standard ⟨[], lit "session", [], lit "abc:def:ghi"⟩ =
      lit "CRV1::c2Vzc2lvbg==::abc:def:ghi" := by decide +kernel
  have read := displayed ⟨[], lit "session", [], lit "abc:def:ghi"⟩ (by simp)
  rw [shown] at read
  exact ⟨read, accepted _ _ read⟩

theorem challenge_end_to_end_quotes :
    ∃ line value, Sends standard.encode OvpnCodec.new
        (.challengeResponse (lit "c3RhdGU6MQ==") ⟨lit "12:\"3\\"⟩) line ∧
      tokens line = [lit "password", lit "Auth", value] ∧
      Crv1Response.fromStr standard value = .ok ⟨[], lit "state:1", [], lit "12:\"3\\"⟩ := by
  obtain ⟨-, stateId, usernameB64, rfl, -, -, answer⟩ := challenge_end_to_end standard_lawful
    ⟨lit "R,E", lit "state:1", lit "j\"doe", lit "PIN: \"one-time\""⟩ (by decide +kernel)
    (by decide +kernel) ⟨lit "12:\"3\\"⟩ (by decide +kernel) OvpnCodec.new 42 0 (lit "pending MFA")
    (Or.inl rfl)
  have encoded : standard.encode (toUtf8 (lit "state:1")) = lit "c3RhdGU6MQ==" := by decide +kernel
  rwa [encoded] at answer

end MgmtChallenge
