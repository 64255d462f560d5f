import OpenvpnMgmt.Matching

/-!
What a server writes for a notification decodes to the notification. Every kind has its own
grammar; a field that is not the last of its line must be free of the separator behind it.
-/
namespace MgmtNotificationRoundTrip
open TextOps Utf8Text LineFraming MgmtEncoder MgmtValues MgmtMessage MgmtFrame MgmtNotifications
  MgmtCodec MgmtDraining MgmtServerStream MgmtMatching

/-! The server's rendering -/

/- `port.to_string()`, or nothing. -/
def portText (port : Option U16) : Text := (port.map display).getD []

def staticFlags (echo responseConcat : Bool) : U32 :=
  (if echo then 1 else 0) ||| ((if responseConcat then 1 else 0) <<< 1)

def statePayload (entry : StateEntry) : Text :=
  display entry.timestamp.seconds ++ ',' :: (entry.name.toText ++ ',' :: (entry.description ++
    ',' :: (entry.localIp ++ ',' :: (entry.remoteIp ++ ',' :: (portText entry.remotePort ++
      ',' :: (entry.localAddr ++ ',' :: (portText entry.localPort ++ ',' :: entry.localIpv6)))))))

def passwordPayload : PasswordNotification → Text
  | .needAuth authType => lit "Need '" ++ (authType.toText ++ lit "' username/password")
  | .needPassword authType => lit "Need '" ++ (authType.toText ++ lit "' password")
  | .verificationFailed authType => lit "Verification Failed: '" ++ (authType.toText ++ lit "'")
  | .staticChallenge echo responseConcat challenge =>
    lit "Need 'Auth' username/password SC:" ++
      (display (staticFlags echo responseConcat) ++ ',' :: challenge)
  | .dynamicChallenge flags stateId usernameB64 challenge =>
    lit "Verification Failed: 'Auth' ['CRV1:" ++ (flags ++ ':' :: (stateId ++ ':' ::
      (usernameB64 ++ ':' :: (challenge ++ lit "']"))))
  | .authToken token => lit "Auth-Token:" ++ token.expose

def clientHeader (event : ClientEvent) (cid : U64) (kid : Option U64) : Text :=
  event.toText ++ ',' :: (display cid ++ match kid with
    | some kid => ',' :: display kid
    | none => [])

def envLine (entry : Text × Text) : Text :=
  noticeLine (lit "CLIENT") (lit "ENV," ++ (entry.1 ++ '=' :: entry.2))

def envEnd : Text := noticeLine (lit "CLIENT") (lit "ENV,END")

/- The lines of a notification, without their newlines. -/
def notificationToWire : Notification → List Text
  | .state entry => [noticeLine (lit "STATE") (statePayload entry)]
  | .byteCount bytesIn bytesOut =>
    [noticeLine (lit "BYTECOUNT") (display bytesIn ++ ',' :: display bytesOut)]
  | .byteCountCli cid bytesIn bytesOut =>
    [noticeLine (lit "BYTECOUNT_CLI")
      (display cid ++ ',' :: (display bytesIn ++ ',' :: display bytesOut))]
  | .log timestamp level message =>
    [noticeLine (lit "LOG") (display timestamp.seconds ++ ',' :: (level.toText ++ ',' :: message))]
  | .echo timestamp param =>
    [noticeLine (lit "ECHO") (display timestamp.seconds ++ ',' :: param)]
  | .hold text => [noticeLine (lit "HOLD") text]
  | .fatal message => [noticeLine (lit "FATAL") message]
  | .pkcs11IdCount count => [noticeLine (lit "PKCS11ID-COUNT") (display count)]
  | .needOk name message =>
    [noticeLine (lit "NEED-OK") (lit "Need '" ++ (name ++ (lit "' confirmation MSG:" ++ message)))]
  | .needStr name message =>
    [noticeLine (lit "NEED-STR") (lit "Need '" ++ (name ++ (lit "' input MSG:" ++ message)))]
  | .rsaSign data => [noticeLine (lit "RSA_SIGN") data]
  | .remote host port protocol =>
    [noticeLine (lit "REMOTE") (host ++ ',' :: (display port ++ ',' :: protocol.toText))]
  | .proxy index proxyType host =>
    [noticeLine (lit "PROXY") (display index ++ ',' :: (proxyType.toText ++ ',' :: host))]
  | .password sub => [noticeLine (lit "PASSWORD") (passwordPayload sub)]
  | .client event cid kid env =>
    noticeLine (lit "CLIENT") (clientHeader event cid kid) :: (env.toList.map envLine ++ [envEnd])
  | .clientAddress cid addr primary =>
    [noticeLine (lit "CLIENT") (lit "ADDRESS," ++ (display cid ++ ',' :: (addr ++
      ',' :: if primary then lit "1" else lit "0")))]
  | .pkSign data (some algorithm) => [noticeLine (lit "PK_SIGN") (data ++ ',' :: algorithm)]
  | .pkSign data none => [noticeLine (lit "PK_SIGN") data]
  | .info message => [noticeLine (lit "INFO") message]
  | .infoMsg extra => [noticeLine (lit "INFOMSG") extra]
  | .needCertificate hint => [noticeLine (lit "NEED-CERTIFICATE") hint]
  | .simple kind payload => [noticeLine kind payload]

def typedKinds : List String :=
  ["STATE", "BYTECOUNT", "BYTECOUNT_CLI", "LOG", "ECHO", "HOLD", "FATAL", "PKCS11ID-COUNT",
    "NEED-OK", "NEED-STR", "RSA_SIGN", "PK_SIGN", "INFOMSG", "NEED-CERTIFICATE", "REMOTE", "PROXY",
    "PASSWORD"]

def recognisedKinds : List Text := ("CLIENT" :: "INFO" :: "PKCS11ID-ENTRY" :: typedKinds).map lit

/- An event whose header opens a block that reads back as the event. -/
def PlainEvent : ClientEvent → Prop
  | .crResponse _ => False
  | .unknown name =>
    ClientEvent.fromStr name = .error name ∧ name ≠ lit "CR_RESPONSE" ∧ name ≠ lit "ADDRESS" ∧
      ',' ∉ name
  | _ => True

def PlainPassword : PasswordNotification → Prop
  | .needAuth authType | .needPassword authType => authType.Named ∧ '\'' ∉ authType.toText
  | .verificationFailed authType =>
    authType.Named ∧ ¬ lit "' ['CRV1:" <:+: authType.toText
  | .dynamicChallenge flags stateId usernameB64 _ =>
    ':' ∉ flags ∧ ':' ∉ stateId ∧ ':' ∉ usernameB64
  | .staticChallenge _ _ _ | .authToken _ => True

/- The separators that the fields of a notification may not hold. -/
def Renderable : Notification → Prop
  | .state entry =>
    entry.name.Named ∧ ',' ∉ entry.name.toText ∧ ',' ∉ entry.description ∧ ',' ∉ entry.localIp ∧
      ',' ∉ entry.remoteIp ∧ ',' ∉ entry.localAddr
  | .log _ level _ => level.Named ∧ ',' ∉ level.toText
  | .needOk name _ | .needStr name _ => '\'' ∉ name
  | .remote host _ protocol => ',' ∉ host ∧ protocol.Named
  | .proxy _ proxyType _ => proxyType.Named ∧ ',' ∉ proxyType.toText
  | .password sub => PlainPassword sub
  | .client event _ _ env => PlainEvent event ∧ ∀ entry ∈ env.toList, '=' ∉ entry.1
  | .clientAddress _ addr _ => ',' ∉ addr
  | .pkSign data (some _) => ',' ∉ data
  | .pkSign data none => ',' ∉ data ∧ data ≠ []
  | .simple kind _ => ':' ∉ kind ∧ kind ∉ recognisedKinds
  | _ => True

/-! Lines of a notification -/

theorem drained_whole (c : OvpnCodec) {line : Text} (whole : WholeLine line) (more : List Text) :
    drained c (wire (line :: more)) =
      match c.frameDecoder.takeLine line with
      | (d, none) => drained (c.withFrames d) (wire more)
      | (d, some (.error e)) => report [.error e] (drained (c.withFrames d).reset (wire more))
      | (d, some (.ok frame)) =>
        report ((c.withFrames d).takeFrame frame).2.toList
          (drained ((c.withFrames d).takeFrame frame).1 (wire more)) := by
  rw [drained_raw c whole.1, takeBytes_raw, trimLineEnd_whole whole]
  rcases c.frameDecoder.takeLine line with ⟨d, none | (e | frame)⟩ <;> rfl

theorem drained_notice (c : OvpnCodec) (idle : c.frameDecoder.clientNotification = none)
    {kind payload : Text} (plain : ':' ∉ kind) (whole : WholeLine (noticeLine kind payload))
    (frame : (c.frameDecoder.takeNotice kind payload).2 = some (.ok (.notification kind payload))) :
    (drained c (wire [noticeLine kind payload])).2 =
      ([], [.ok (parseNotificationFromFrame kind payload)]) := by
  obtain ⟨d, eq⟩ : ∃ d, c.frameDecoder.takeNotice kind payload =
      (d, some (.ok (.notification kind payload))) := ⟨_, Prod.ext rfl frame⟩
  rw [drained_whole c whole, takeLine_takeNotice _ plain _ (Or.inl idle), eq]
  simp [OvpnCodec.takeFrame, drained_nil, report]

/-! Payloads -/

theorem splitOnce_comma {front : Text} (plain : ',' ∉ front) (rest : Text) :
    splitOnce (· == ',') (front ++ ',' :: rest) = some (front, rest) :=
  splitOnce_append (free_of plain) (by simp)

theorem splitn_comma {front : Text} (n : Nat) (plain : ',' ∉ front) (rest : Text) :
    splitn (n + 2) (· == ',') (front ++ ',' :: rest) = front :: splitn (n + 1) (· == ',') rest :=
  splitn_cons n (free_of plain) (by simp)

theorem comma_not_mem_display {w : Nat} (n : BitVec w) : ',' ∉ display n :=
  not_mem_display n (by decide)

theorem comma_not_mem_portText (port : Option U16) : ',' ∉ portText port := by
  cases port with
  | none => simp [portText]
  | some n => simpa [portText] using comma_not_mem_display n

theorem parseOptionalPort_portText (port : Option U16) : parseOptionalPort (portText port) = port := by
  cases port with
  | none => rfl
  | some n =>
    have whole : trim (display n) = display n := trim_eq_self (display_isWord n).solid.2
    simp [parseOptionalPort, portText, whole, display_ne_nil, parseUInt_display]

theorem parseState_payload {entry : StateEntry} (plain : Renderable (.state entry)) :
    parseState (statePayload entry) = some (.state entry) := by
  obtain ⟨named, name, description, localIp, remoteIp, localAddr⟩ := plain
  have pieces : splitn 9 (· == ',') (statePayload entry) =
      [display entry.timestamp.seconds, entry.name.toText, entry.description, entry.localIp,
        entry.remoteIp, portText entry.remotePort, entry.localAddr, portText entry.localPort,
        entry.localIpv6] := by
    rw [statePayload, splitn_comma 7 (comma_not_mem_display _), splitn_comma 6 name,
      splitn_comma 5 description, splitn_comma 4 localIp, splitn_comma 3 remoteIp,
      splitn_comma 2 (comma_not_mem_portText _), splitn_comma 1 localAddr,
      splitn_comma 0 (comma_not_mem_portText _)]
    rfl
  simp [parseState, pieces, parseUInt_display, openVpnState_roundtrip named,
    parseOptionalPort_portText]

theorem parseBytecount_payload (bytesIn bytesOut : U64) :
    parseBytecount (display bytesIn ++ ',' :: display bytesOut) =
      some (.byteCount bytesIn bytesOut) := by
  simp [parseBytecount, splitOnce_comma (comma_not_mem_display bytesIn), parseUInt_display]

theorem parseBytecountCli_payload (cid bytesIn bytesOut : U64) :
    parseBytecountCli (display cid ++ ',' :: (display bytesIn ++ ',' :: display bytesOut)) =
      some (.byteCountCli cid bytesIn bytesOut) := by
  have pieces : splitn 3 (· == ',')
      (display cid ++ ',' :: (display bytesIn ++ ',' :: display bytesOut)) =
      [display cid, display bytesIn, display bytesOut] := by
    rw [splitn_comma 1 (comma_not_mem_display _), splitn_comma 0 (comma_not_mem_display _)]
    rfl
  simp [parseBytecountCli, pieces, parseUInt_display]

theorem parseLog_payload (timestamp : UtcTimestamp) {level : LogLevel} (named : level.Named)
    (plain : ',' ∉ level.toText) (message : Text) :
    parseLog (display timestamp.seconds ++ ',' :: (level.toText ++ ',' :: message)) =
      some (.log timestamp level message) := by
  simp [parseLog, splitOnce_comma (comma_not_mem_display timestamp.seconds),
    splitOnce_comma plain, parseUInt_display, logLevel_roundtrip named]

theorem parseEcho_payload (timestamp : UtcTimestamp) (param : Text) :
    parseEcho (display timestamp.seconds ++ ',' :: param) = some (.echo timestamp param) := by
  simp [parseEcho, splitOnce_comma (comma_not_mem_display timestamp.seconds), parseUInt_display]

theorem parsePkcs11idCount_payload (count : U32) :
    parsePkcs11idCount (display count) = some (.pkcs11IdCount count) := by
  have whole : trim (display count) = display count := trim_eq_self (display_isWord count).solid.2
  simp [parsePkcs11idCount, whole, parseUInt_display]

/-- What stands between the name and the message: a quote, words without the `M` of `MSG:`, and
    `MSG:`. -/
theorem needPrompt_payload {name : Text} (plain : '\'' ∉ name) (words : Text) (between : String)
    (shape : lit between = '\'' :: (words ++ lit "MSG:")) (free : 'M' ∉ words) (message : Text) :
    needPrompt (lit "Need '" ++ (name ++ (lit between ++ message))) = some (name, message) := by
  have named := splitOnce_append (b := words ++ (lit "MSG:" ++ message)) (free_of plain)
    (show ('\'' == '\'') = true by simp)
  have found : splitOnceText (lit "MSG:") (words ++ (lit "MSG:" ++ message)) =
      some (words, message) := by
    rw [lit_eq]
    exact splitOnceText_append free ['S', 'G', ':'] message
  rw [shape, List.cons_append, List.append_assoc]
  simp [needPrompt, stripPrefix_append, named, found]

theorem parsePkSign_payload (data : Text) (algorithm : Option Text)
    (plain : Renderable (.pkSign data algorithm)) :
    parsePkSign (match algorithm with
      | some algorithm => data ++ ',' :: algorithm
      | none => data) = some (.pkSign data algorithm) := by
  cases algorithm with
  | some algorithm => simp [parsePkSign, splitOnce_comma plain]
  | none =>
    have whole : splitOnce (· == ',') data = none := splitOnce_eq_none.mpr (free_of plain.1)
    simp [parsePkSign, plain.2, whole]

theorem parseRemote_payload {host : Text} (plain : ',' ∉ host) (port : U16)
    {protocol : TransportProtocol} (named : protocol.Named) :
    parseRemote (host ++ ',' :: (display port ++ ',' :: protocol.toText)) =
      some (.remote host port protocol) := by
  have pieces : splitn 3 (· == ',') (host ++ ',' :: (display port ++ ',' :: protocol.toText)) =
      [host, display port, protocol.toText] := by
    rw [splitn_comma 1 plain, splitn_comma 0 (comma_not_mem_display _)]
    rfl
  simp [parseRemote, pieces, parseUInt_display, transportProtocol_roundtrip named]

theorem parseProxy_payload (index : U32) {proxyType : TransportProtocol} (named : proxyType.Named)
    (plain : ',' ∉ proxyType.toText) (host : Text) :
    parseProxy (display index ++ ',' :: (proxyType.toText ++ ',' :: host)) =
      some (.proxy index proxyType host) := by
  have pieces : splitn 3 (· == ',') (display index ++ ',' :: (proxyType.toText ++ ',' :: host)) =
      [display index, proxyType.toText, host] := by
    rw [splitn_comma 1 (comma_not_mem_display _), splitn_comma 0 plain]
    rfl
  simp [parseProxy, pieces, parseUInt_display, transportProtocol_roundtrip named]

/-! The PASSWORD family -/

theorem parseAuthType_named {authType : AuthType} (named : authType.Named) :
    parseAuthType authType.toText = authType := authType_roundtrip named

/-- The quote that closes the auth type cannot complete the start of a challenge. -/
theorem no_challenge {name : Text} (plain : ¬ lit "' ['CRV1:" <:+: name) :
    splitOnceText (lit "' ['CRV1:") (name ++ lit "'") = none := by
  refine splitOnceText_eq_none fun inside => ?_
  rw [show lit "'" = ['\''] by simp [lit_eq], List.infix_concat_iff] at inside
  rcases inside with ending | earlier
  · obtain ⟨front, same⟩ := ending
    have last := congrArg List.getLast? same
    simp [lit_eq] at last
  · exact plain earlier

theorem parseVerificationFailed_plain {authType : AuthType} (named : authType.Named)
    (plain : ¬ lit "' ['CRV1:" <:+: authType.toText) :
    parseVerificationFailed (authType.toText ++ lit "'") = some (.verificationFailed authType) := by
  simp [parseVerificationFailed, no_challenge plain, stripSuffix_append,
    parseAuthType_named named]

theorem parseVerificationFailed_challenge {flags stateId usernameB64 : Text} (challenge : Text)
    (plainFlags : ':' ∉ flags) (plainState : ':' ∉ stateId) (plainUser : ':' ∉ usernameB64) :
    parseVerificationFailed (lit "Auth" ++ (lit "' ['CRV1:" ++ (flags ++ ':' :: (stateId ++ ':' ::
        (usernameB64 ++ ':' :: (challenge ++ lit "']")))))) =
      some (.dynamicChallenge flags stateId usernameB64 challenge) := by
  have shape : flags ++ ':' :: (stateId ++ ':' :: (usernameB64 ++ ':' :: (challenge ++ lit "']"))) =
      (flags ++ ':' :: (stateId ++ ':' :: (usernameB64 ++ ':' :: challenge))) ++ lit "']" := by
    simp
  have found : splitOnceText (lit "' ['CRV1:") (lit "Auth" ++ (lit "' ['CRV1:" ++
      ((flags ++ ':' :: (stateId ++ ':' :: (usernameB64 ++ ':' :: challenge))) ++ lit "']"))) =
      some (lit "Auth",
        (flags ++ ':' :: (stateId ++ ':' :: (usernameB64 ++ ':' :: challenge))) ++ lit "']") := by
    have pattern : lit "' ['CRV1:" = '\'' :: [' ', '[', '\'', 'C', 'R', 'V', '1', ':'] := by
      simp [lit_eq]
    rw [pattern]
    exact splitOnceText_append (by simp [lit_eq]) _ _
  have pieces : splitn 4 (· == ':')
      (flags ++ ':' :: (stateId ++ ':' :: (usernameB64 ++ ':' :: challenge))) =
      [flags, stateId, usernameB64, challenge] := by
    rw [splitn_cons 2 (free_of plainFlags) (by simp), splitn_cons 1 (free_of plainState) (by simp),
      splitn_cons 0 (free_of plainUser) (by simp)]
    rfl
  rw [parseVerificationFailed, shape, found]
  generalize flags ++ ':' :: (stateId ++ ':' :: (usernameB64 ++ ':' :: challenge)) = body at pieces ⊢
  simp [stripSuffix_append, pieces]

theorem parsePassword_failed (rest : Text) :
    parsePassword (lit "Verification Failed: '" ++ rest) =
      (parseVerificationFailed rest).map .password := by
  have other : stripPrefix (lit "Verification Failed: '" ++ rest) (lit "Auth-Token:") = none :=
    stripPrefix_lit_head (c := 'A') (by simp) (by simp [lit_eq])
  simp [parsePassword, other, stripPrefix_append]

theorem parsePassword_need {name : Text} (plain : '\'' ∉ name) (rest : Text) :
    parsePassword (lit "Need '" ++ (name ++ '\'' :: rest)) =
      (parseNeedCredential name (trimStart rest)).map .password := by
  have token : stripPrefix (lit "Need '" ++ (name ++ '\'' :: rest)) (lit "Auth-Token:") = none :=
    stripPrefix_lit_head (c := 'A') (by simp) (by simp [lit_eq])
  have failed : stripPrefix (lit "Need '" ++ (name ++ '\'' :: rest))
      (lit "Verification Failed: '") = none :=
    stripPrefix_lit_head (c := 'V') (by simp) (by simp [lit_eq])
  have named := splitOnce_append (b := rest) (free_of plain) (show ('\'' == '\'') = true by simp)
  simp only [parsePassword, token, failed, stripPrefix_append, named, Option.bind_eq_bind,
    Option.bind_some]
  cases parseNeedCredential name (trimStart rest) <;> rfl

theorem staticFlags_bits (echo responseConcat : Bool) :
    decide (staticFlags echo responseConcat &&& 1 ≠ 0) = echo ∧
      decide (staticFlags echo responseConcat &&& 2 ≠ 0) = responseConcat := by
  cases echo <;> cases responseConcat <;> decide

theorem parseNeedCredential_auth (name : Text) :
    parseNeedCredential name (lit "username/password") =
      some (.needAuth (parseAuthType name)) := by
  have whole : stripPrefix (lit "username/password") (lit "username/password") = some [] := by
    simpa using stripPrefix_append (lit "username/password") []
  have rest : stripPrefix (trimStart []) (lit "SC:") = none :=
    stripPrefix_lit_head (c := 'S') (by simp) (by simp [trimStart])
  simp [parseNeedCredential, whole, rest]

theorem parseNeedCredential_password (name : Text) :
    parseNeedCredential name (lit "password") = some (.needPassword (parseAuthType name)) := by
  have other : stripPrefix (lit "password") (lit "username/password") = none :=
    stripPrefix_lit_head (c := 'u') (by simp) (by simp [lit_eq])
  have whole : stripPrefix (lit "password") (lit "password") = some [] := by
    simpa using stripPrefix_append (lit "password") []
  simp [parseNeedCredential, other, whole]

theorem parseNeedCredential_challenge (name : Text) (echo responseConcat : Bool) (challenge : Text) :
    parseNeedCredential name (lit "username/password" ++ ' ' ::
        (lit "SC:" ++ (display (staticFlags echo responseConcat) ++ ',' :: challenge))) =
      some (.staticChallenge echo responseConcat challenge) := by
  have visible : trimStart (' ' :: (lit "SC:" ++ (display (staticFlags echo responseConcat) ++
      ',' :: challenge))) =
      lit "SC:" ++ (display (staticFlags echo responseConcat) ++ ',' :: challenge) := by
    simp [trimStart, lit_eq, isWhitespace]
  have flags := splitOnce_comma (comma_not_mem_display (staticFlags echo responseConcat)) challenge
  have bits := staticFlags_bits echo responseConcat
  simp [parseNeedCredential, stripPrefix_append, visible, flags, parseUInt_display] at bits ⊢
  exact bits

theorem parsePassword_payload (sub : PasswordNotification) (plain : PlainPassword sub) :
    parsePassword (passwordPayload sub) = some (.password sub) := by
  cases sub with
  | needAuth authType =>
    have shape : passwordPayload (.needAuth authType) =
        lit "Need '" ++ (authType.toText ++ '\'' :: lit " username/password") := by
      simp [passwordPayload, lit_eq]
    have visible : trimStart (lit " username/password") = lit "username/password" := by
      simp [trimStart, lit_eq, isWhitespace]
    rw [shape, parsePassword_need plain.2, visible, parseNeedCredential_auth,
      parseAuthType_named plain.1]
    rfl
  | needPassword authType =>
    have shape : passwordPayload (.needPassword authType) =
        lit "Need '" ++ (authType.toText ++ '\'' :: lit " password") := by
      simp [passwordPayload, lit_eq]
    have visible : trimStart (lit " password") = lit "password" := by
      simp [trimStart, lit_eq, isWhitespace]
    rw [shape, parsePassword_need plain.2, visible, parseNeedCredential_password,
      parseAuthType_named plain.1]
    rfl
  | verificationFailed authType =>
    rw [passwordPayload, parsePassword_failed, parseVerificationFailed_plain plain.1 plain.2]
    rfl
  | staticChallenge echo responseConcat challenge =>
    have shape : passwordPayload (.staticChallenge echo responseConcat challenge) =
        lit "Need '" ++ (lit "Auth" ++ '\'' :: (' ' :: (lit "username/password" ++ ' ' ::
          (lit "SC:" ++ (display (staticFlags echo responseConcat) ++ ',' :: challenge))))) := by
      simp [passwordPayload, lit_eq]
    have visible : trimStart (' ' :: (lit "username/password" ++ ' ' ::
        (lit "SC:" ++ (display (staticFlags echo responseConcat) ++ ',' :: challenge)))) =
        lit "username/password" ++ ' ' ::
          (lit "SC:" ++ (display (staticFlags echo responseConcat) ++ ',' :: challenge)) := by
      simp [trimStart, lit_eq, isWhitespace]
    rw [shape, parsePassword_need (by simp [lit_eq]), visible, parseNeedCredential_challenge]
    rfl
  | dynamicChallenge flags stateId usernameB64 challenge =>
    have shape : passwordPayload (.dynamicChallenge flags stateId usernameB64 challenge) =
        lit "Verification Failed: '" ++ (lit "Auth" ++ (lit "' ['CRV1:" ++ (flags ++ ':' ::
          (stateId ++ ':' :: (usernameB64 ++ ':' :: (challenge ++ lit "']")))))) := by
      simp [passwordPayload, lit_eq]
    rw [shape, parsePassword_failed,
      parseVerificationFailed_challenge challenge plain.1 plain.2.1 plain.2.2]
    rfl
  | authToken token => simp [passwordPayload, parsePassword, stripPrefix_append]

/-! CLIENT notifications -/

theorem splitOnce_address (args : Text) :
    splitOnce (· == ',') (lit "ADDRESS," ++ args) = some (lit "ADDRESS", args) := by
  have shape : lit "ADDRESS," ++ args = lit "ADDRESS" ++ ',' :: args := by simp [lit_eq]
  rw [shape]
  exact splitOnce_comma (by simp [lit_eq]) args

theorem parseClientAddress_payload (cid : U64) {addr : Text} (plain : ',' ∉ addr) (primary : Bool) :
    parseClientAddress (lit "ADDRESS," ++ (display cid ++ ',' :: (addr ++
        ',' :: if primary then lit "1" else lit "0"))) = .clientAddress cid addr primary := by
  have pieces : splitn 3 (· == ',')
      (display cid ++ ',' :: (addr ++ ',' :: if primary then lit "1" else lit "0")) =
      [display cid, addr, if primary then lit "1" else lit "0"] := by
    rw [splitn_comma 1 (comma_not_mem_display _), splitn_comma 0 plain]
    rfl
  rw [parseClientAddress, splitOnce_address]
  simp only [Option.getD_some, if_true, pieces]
  cases primary <;> simp [parseUInt_display]

theorem clientEvent_roundtrip {event : ClientEvent} (plain : PlainEvent event) :
    event.toText ≠ lit "CR_RESPONSE" ∧ event.toText ≠ lit "ADDRESS" ∧ ',' ∉ event.toText ∧
      orUnknown .unknown (ClientEvent.fromStr event.toText) = event := by
  cases event with
  | crResponse response => exact plain.elim
  | unknown name =>
    obtain ⟨named, response, address, comma⟩ := plain
    simp [ClientEvent.toText, response, address, comma, named, orUnknown]
  | _ => simp [ClientEvent.toText, ClientEvent.fromStr, orUnknown, lit_eq]

def clientIds (cid : U64) (kid : Option U64) : Text :=
  display cid ++ match kid with
    | some kid => ',' :: display kid
    | none => []

theorem parseClientEnv_ids {event : ClientEvent} (plain : PlainEvent event) (cid : U64)
    (kid : Option U64) (env : Env) :
    parseClientEnv event.toText (clientIds cid kid) env =
      .notification (.client event cid kid env) := by
  obtain ⟨response, -, -, back⟩ := clientEvent_roundtrip plain
  cases kid with
  | none =>
    have pieces : splitn 3 (· == ',') (clientIds cid none) = [display cid] := by
      rw [clientIds, List.append_nil]
      exact splitn_single 2 (free_of (comma_not_mem_display cid))
    simp [parseClientEnv, pieces, response, back, parseUInt_display]
  | some kid =>
    have pieces : splitn 3 (· == ',') (clientIds cid (some kid)) = [display cid, display kid] := by
      rw [clientIds, splitn_comma 1 (comma_not_mem_display _)]
      exact congrArg _ (splitn_single 1 (free_of (comma_not_mem_display kid)))
    simp [parseClientEnv, pieces, response, back, parseUInt_display]

def opening (d : FrameDecoder) (accum : ClientEnvAccumulator) : FrameDecoder :=
  { d with clientNotification := some accum }

theorem takeNotice_header (d : FrameDecoder) {event : ClientEvent} (plain : PlainEvent event)
    (cid : U64) (kid : Option U64) :
    d.takeNotice (lit "CLIENT") (clientHeader event cid kid) =
      (opening d ⟨event.toText, clientIds cid kid, ∅⟩, none) := by
  obtain ⟨-, address, comma, -⟩ := clientEvent_roundtrip plain
  have pieces : splitOnce (· == ',') (clientHeader event cid kid) =
      some (event.toText, clientIds cid kid) := splitOnce_comma comma _
  simp [FrameDecoder.takeNotice, pieces, address, opening]

theorem takeLine_env {d : FrameDecoder} {accum : ClientEnvAccumulator}
    (opened : d.clientNotification = some accum) (rest : Text) :
    d.takeLine (noticeLine (lit "CLIENT") (lit "ENV," ++ rest)) = d.takeEnv accum rest := by
  have shape : noticeLine (lit "CLIENT") (lit "ENV," ++ rest) = lit ">CLIENT:ENV," ++ rest := by
    simp [noticeLine, lit_eq]
  rw [shape, FrameDecoder.takeLine, if_neg (by simp [lit_eq]), opened, stripPrefix_append]

def joined (accum : ClientEnvAccumulator) (entry : Text × Text) : ClientEnvAccumulator :=
  { accum with env := accum.env.insert entry.1 entry.2 }

theorem takeEnv_entry {d : FrameDecoder} {accum : ClientEnvAccumulator} {entry : Text × Text}
    (plain : '=' ∉ entry.1)
    (room : ∀ most, d.maxClientEnvEntries = .max most → accum.env.size < most) :
    d.takeEnv accum (entry.1 ++ '=' :: entry.2) =
      (opening d (joined accum entry), none) := by
  have notEnd : entry.1 ++ '=' :: entry.2 ≠ lit "END" := by
    intro same
    have member : '=' ∈ entry.1 ++ '=' :: entry.2 := by simp
    rw [same, lit_eq] at member
    simp at member
  have pieces : splitOnce (· == '=') (entry.1 ++ '=' :: entry.2) = some entry :=
    splitOnce_append (free_of plain) (by simp)
  have allowed : checkAccumulationLimit accum.env.size d.maxClientEnvEntries (lit "client ENV") =
      .ok () := by
    cases limit : d.maxClientEnvEntries with
    | unlimited => rfl
    | max most =>
      have := room most limit
      rw [checkAccumulationLimit, if_neg (by omega)]
  simp [FrameDecoder.takeEnv, notEnd, pieces, allowed, joined, opening]

theorem drained_env (c : OvpnCodec) {accum : ClientEnvAccumulator} (entries : List (Text × Text))
    (opened : c.frameDecoder.clientNotification = some accum)
    (room : ∀ most, c.frameDecoder.maxClientEnvEntries = .max most →
      accum.env.size + entries.length ≤ most)
    (plain : ∀ entry ∈ entries, '=' ∉ entry.1)
    (whole : ∀ entry ∈ entries, WholeLine (envLine entry)) :
    (drained c (wire (entries.map envLine ++ [envEnd]))).2 =
      ([], [.ok (parseClientEnv accum.event accum.args (accum.env.insertMany entries))]) := by
  induction entries generalizing c accum with
  | nil =>
    have line : WholeLine envEnd := by decide +kernel
    have shape : envEnd = noticeLine (lit "CLIENT") (lit "ENV," ++ lit "END") := by
      simp [envEnd, lit_eq]
    have taken := takeLine_env opened (lit "END")
    rw [← shape, FrameDecoder.takeEnv, if_pos rfl] at taken
    rw [List.map_nil, List.nil_append, drained_whole c line, taken]
    simp [OvpnCodec.takeFrame, drained_nil, report]
  | cons entry more ih =>
    have first : accum.env.size < accum.env.size + (entry :: more).length := by simp
    have taken := takeLine_env opened (entry.1 ++ '=' :: entry.2)
    rw [takeEnv_entry (plain entry (by simp)) fun most limit => by have := room most limit; omega]
      at taken
    have later := ih (c.withFrames (opening c.frameDecoder (joined accum entry))) rfl
      (fun most limit => by
        have all := room most limit
        have grown := Std.ExtTreeMap.size_insert_le (t := accum.env) (k := entry.1) (v := entry.2)
        simp only [List.length_cons] at all
        simp only [joined]
        omega)
      (fun e member => plain e (by simp [member])) (fun e member => whole e (by simp [member]))
    have merged : accum.env.insertMany (entry :: more) = (joined accum entry).env.insertMany more :=
      Std.ExtTreeMap.insertMany_cons
    rw [List.map_cons, List.cons_append, drained_whole c (whole entry (by simp)), envLine, taken,
      merged]
    exact later

theorem insertMany_toList (env : Env) : (∅ : Env).insertMany env.toList = env := by
  refine Std.ExtTreeMap.ext_getElem? fun key => ?_
  cases found : env[key]? with
  | some value =>
    have member := Std.ExtTreeMap.mem_toList_iff_getElem?_eq_some.mpr found
    exact Std.ExtTreeMap.getElem?_insertMany_list_of_mem (by simp [Std.ReflCmp.compare_self])
      Std.ExtTreeMap.distinct_keys_toList member
  | none =>
    rw [Std.ExtTreeMap.getElem?_insertMany_list_of_contains_eq_false]
    · simp
    · simpa [Std.ExtTreeMap.map_fst_toList_eq_keys] using found

/-! All notifications -/

structure Ready (c : OvpnCodec) (n : Notification) : Prop where
  idle : c.frameDecoder.clientNotification = none
  room : ∀ event cid kid env most, n = .client event cid kid env →
    c.frameDecoder.maxClientEnvEntries = .max most → env.size ≤ most
  banner : ∀ message, n = .info message → c.frameDecoder.seenInfo = true

theorem client_roundtrip {c : OvpnCodec} {event : ClientEvent} {cid : U64} {kid : Option U64}
    {env : Env} (ready : Ready c (.client event cid kid env))
    (renderable : Renderable (.client event cid kid env))
    (whole : ∀ line ∈ notificationToWire (.client event cid kid env), WholeLine line) :
    (drained c (wire (notificationToWire (.client event cid kid env)))).2 =
      ([], [.ok (.notification (.client event cid kid env))]) := by
  obtain ⟨plain, keys⟩ := renderable
  have line : WholeLine (noticeLine (lit "CLIENT") (clientHeader event cid kid)) :=
    whole _ (by simp [notificationToWire])
  have colon : ':' ∉ lit "CLIENT" := by simp [lit_eq]
  have block := drained_env
    (c.withFrames (opening c.frameDecoder ⟨event.toText, clientIds cid kid, ∅⟩)) env.toList rfl
    (fun most limit => by
      have := ready.room event cid kid env most rfl limit
      simpa [Std.ExtTreeMap.length_toList] using this)
    keys (fun entry member => whole _ (by
      simp only [notificationToWire, List.mem_cons, List.mem_append, List.mem_map]
      exact Or.inr (Or.inl ⟨entry, member, rfl⟩)))
  rw [notificationToWire, drained_whole c line, takeLine_takeNotice _ colon _ (Or.inl ready.idle),
    takeNotice_header _ plain]
  simpa only [insertMany_toList, parseClientEnv_ids plain] using block

theorem simple_unrecognised {kind : Text} (other : kind ∉ recognisedKinds) (payload : Text) :
    parseNotificationFromFrame kind payload = .notification (.simple kind payload) := by
  simp only [recognisedKinds, typedKinds, List.map_cons, List.map_nil, List.mem_cons,
    List.not_mem_nil, or_false, not_or] at other
  simp [parseNotificationFromFrame, parseTyped, other]

theorem typedKinds_passed : ∀ kind ∈ typedKinds, ':' ∉ lit kind ∧ lit kind ≠ lit "INFO" ∧
    lit kind ≠ lit "CLIENT" ∧ lit kind ≠ lit "PKCS11ID-ENTRY" := by
  decide +kernel

theorem typed_roundtrip {c : OvpnCodec} {n : Notification} (ready : Ready c n) (kind : String)
    (known : kind ∈ typedKinds) {payload : Text}
    (form : notificationToWire n = [noticeLine (lit kind) payload])
    (whole : ∀ line ∈ notificationToWire n, WholeLine line)
    (parsed : parseTyped (lit kind) payload = some n) :
    (drained c (wire (notificationToWire n))).2 = ([], [.ok (.notification n)]) := by
  obtain ⟨colon, notInfo, notClient, notEntry⟩ := typedKinds_passed kind known
  rw [form] at whole ⊢
  rw [drained_notice c ready.idle colon (whole _ (by simp))]
  · simp only [parseNotificationFromFrame, notInfo, notClient, notEntry, if_false, parsed,
      Option.getD_some]
  · simp only [FrameDecoder.takeNotice, notInfo, notClient, if_false]

theorem simple_roundtrip {c : OvpnCodec} {kind payload : Text}
    (ready : Ready c (.simple kind payload))
    (renderable : Renderable (.simple kind payload))
    (whole : WholeLine (noticeLine kind payload)) :
    (drained c (wire [noticeLine kind payload])).2 =
      ([], [.ok (.notification (.simple kind payload))]) := by
  obtain ⟨colon, other⟩ := renderable
  have notInfo : kind ≠ lit "INFO" := fun same => other (by simp [recognisedKinds, same])
  have notClient : kind ≠ lit "CLIENT" := fun same => other (by simp [recognisedKinds, same])
  rw [drained_notice c ready.idle colon whole, simple_unrecognised other]
  simp only [FrameDecoder.takeNotice, notInfo, notClient, if_false]

theorem clientAddress_roundtrip {c : OvpnCodec} {cid : U64} {addr : Text} {primary : Bool}
    (ready : Ready c (.clientAddress cid addr primary)) (plain : ',' ∉ addr)
    (whole : ∀ line ∈ notificationToWire (.clientAddress cid addr primary), WholeLine line) :
    (drained c (wire (notificationToWire (.clientAddress cid addr primary)))).2 =
      ([], [.ok (.notification (.clientAddress cid addr primary))]) := by
  have colon : ':' ∉ lit "CLIENT" := by simp [lit_eq]
  rw [notificationToWire, drained_notice c ready.idle colon (whole _ (List.mem_singleton_self _))]
  · simp only [parseNotificationFromFrame, if_true, parseClientAddress_payload cid plain]
  · simp [FrameDecoder.takeNotice, splitOnce_address]

/-- A rendered notification decodes to itself and nothing else, whatever block or queue the codec
    has open beside it. -/
theorem notification_roundtrip (c : OvpnCodec) (n : Notification) (ready : Ready c n)
    (renderable : Renderable n) (whole : ∀ line ∈ notificationToWire n, WholeLine line) :
    (drain c (wire (notificationToWire n))).2 = ([], [.ok (.notification n)]) := by
  change (drained c (wire (notificationToWire n))).2 = ([], [.ok (.notification n)])
  cases n with
  | client event cid kid env => exact client_roundtrip ready renderable whole
  | clientAddress cid addr primary => exact clientAddress_roundtrip ready renderable whole
  | info message =>
    have colon : ':' ∉ lit "INFO" := by simp [lit_eq]
    rw [notificationToWire, drained_notice c ready.idle colon (whole _ (List.mem_singleton_self _))]
    · simp [parseNotificationFromFrame]
    · simp [FrameDecoder.takeNotice, ready.banner message rfl]
  | simple kind payload =>
    exact simple_roundtrip ready renderable (whole _ (List.mem_singleton_self _))
  | state entry =>
    exact typed_roundtrip ready "STATE" (by decide) rfl whole
      (by simp [parseTyped, parseState_payload renderable])
  | byteCount bytesIn bytesOut =>
    exact typed_roundtrip ready "BYTECOUNT" (by decide) rfl whole
      (by simp [parseTyped, parseBytecount_payload])
  | byteCountCli cid bytesIn bytesOut =>
    exact typed_roundtrip ready "BYTECOUNT_CLI" (by decide) rfl whole
      (by simp [parseTyped, parseBytecountCli_payload])
  | log timestamp level message =>
    exact typed_roundtrip ready "LOG" (by decide) rfl whole
      (by simp [parseTyped, parseLog_payload timestamp renderable.1 renderable.2])
  | echo timestamp param =>
    exact typed_roundtrip ready "ECHO" (by decide) rfl whole
      (by simp [parseTyped, parseEcho_payload])
  | hold text =>
    exact typed_roundtrip ready "HOLD" (by decide) rfl whole (by simp [parseTyped])
  | fatal message =>
    exact typed_roundtrip ready "FATAL" (by decide) rfl whole (by simp [parseTyped])
  | pkcs11IdCount count =>
    exact typed_roundtrip ready "PKCS11ID-COUNT" (by decide) rfl whole
      (by simp [parseTyped, parsePkcs11idCount_payload])
  | needOk name message =>
    have prompt := needPrompt_payload renderable (lit " confirmation ") "' confirmation MSG:"
      (by simp [lit_eq]) (by simp [lit_eq]) message
    exact typed_roundtrip ready "NEED-OK" (by decide) rfl whole
      (by simp [parseTyped, parseNeedOk, prompt])
  | needStr name message =>
    have prompt := needPrompt_payload renderable (lit " input ") "' input MSG:"
      (by simp [lit_eq]) (by simp [lit_eq]) message
    exact typed_roundtrip ready "NEED-STR" (by decide) rfl whole
      (by simp [parseTyped, parseNeedStr, prompt])
  | rsaSign data =>
    exact typed_roundtrip ready "RSA_SIGN" (by decide) rfl whole (by simp [parseTyped])
  | pkSign data algorithm =>
    have parsed := parsePkSign_payload data algorithm renderable
    cases algorithm with
    | some algorithm =>
      exact typed_roundtrip ready "PK_SIGN" (by decide) rfl whole (by simpa [parseTyped] using parsed)
    | none =>
      exact typed_roundtrip ready "PK_SIGN" (by decide) rfl whole (by simpa [parseTyped] using parsed)
  | infoMsg extra =>
    exact typed_roundtrip ready "INFOMSG" (by decide) rfl whole (by simp [parseTyped])
  | needCertificate hint =>
    exact typed_roundtrip ready "NEED-CERTIFICATE" (by decide) rfl whole (by simp [parseTyped])
  | remote host port protocol =>
    exact typed_roundtrip ready "REMOTE" (by decide) rfl whole
      (by simp [parseTyped, parseRemote_payload renderable.1 port renderable.2])
  | proxy index proxyType host =>
    exact typed_roundtrip ready "PROXY" (by decide) rfl whole
      (by simp [parseTyped, parseProxy_payload index renderable.1 renderable.2])
  | password sub =>
    exact typed_roundtrip ready "PASSWORD" (by decide) rfl whole
      (by simp [parseTyped, parsePassword_payload sub renderable])

theorem clientConnect_roundtrip :
    (drain OvpnCodec.new (wire (notificationToWire (.client .connect 5 (some 7)
        (.ofList [(lit "common_name", lit "a=b"), (lit "", lit "END")]))))).2 =
      ([], [.ok (.notification (.client .connect 5 (some 7)
        (.ofList [(lit "common_name", lit "a=b"), (lit "", lit "END")])))]) := by
  refine notification_roundtrip OvpnCodec.new _ ⟨rfl, ?_, ?_⟩ ⟨trivial, by decide +kernel⟩
    (by decide +kernel)
  · rintro _ _ _ _ _ - ⟨⟩
  · rintro _ ⟨⟩

end MgmtNotificationRoundTrip
