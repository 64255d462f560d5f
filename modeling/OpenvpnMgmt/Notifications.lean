import OpenvpnMgmt.Message

/-!
The notification parsers. Each takes the payload behind `>KIND:` and gives `none` when it does
not have the documented shape; the caller then keeps kind and payload as they are.
-/
namespace MgmtNotifications
open TextOps MgmtValues MgmtMessage

/- An empty port and one that is no number both read as absent. -/
def parseOptionalPort (input : Text) : Option U16 :=
  if trim input = [] then none else parseUInt 16 (trim input)

def parseState (payload : Text) : Option Notification := do
  let parts := splitn 9 (· == ',') payload
  let timestamp ← parseUInt 64 (← parts[0]?)
  let state ← parts[1]?
  let description ← parts[2]?
  let localIp ← parts[3]?
  let remoteIp ← parts[4]?
  return .state {
    timestamp := ⟨timestamp⟩
    name := orUnknown .unknown (OpenVpnState.fromStr state)
    description, localIp, remoteIp
    remotePort := parseOptionalPort (parts[5]?.getD [])
    localAddr := parts[6]?.getD []
    localPort := parseOptionalPort (parts[7]?.getD [])
    localIpv6 := parts[8]?.getD [] }

def parseBytecount (payload : Text) : Option Notification := do
  let (a, b) ← splitOnce (· == ',') payload
  return .byteCount (← parseUInt 64 a) (← parseUInt 64 b)

def parseBytecountCli (payload : Text) : Option Notification := do
  let parts := splitn 3 (· == ',') payload
  let cid ← parseUInt 64 (← parts[0]?)
  let bytesIn ← parseUInt 64 (← parts[1]?)
  let bytesOut ← parseUInt 64 (← parts[2]?)
  return .byteCountCli cid bytesIn bytesOut

def parseLog (payload : Text) : Option Notification := do
  let (ts, rest) ← splitOnce (· == ',') payload
  let timestamp ← parseUInt 64 ts
  let (level, message) ← splitOnce (· == ',') rest
  return .log ⟨timestamp⟩ (orUnknown .unknown (LogLevel.fromStr level)) message

def parseEcho (payload : Text) : Option Notification := do
  let (ts, param) ← splitOnce (· == ',') payload
  let timestamp ← parseUInt 64 ts
  return .echo ⟨timestamp⟩ param

def parsePkcs11idCount (payload : Text) : Option Notification := do
  return .pkcs11IdCount (← parseUInt 32 (trim payload))

/- The one parser whose result is not a notification: the entry answers `pkcs11-id-get`. -/
def parsePkcs11idEntryNotif (payload : Text) : Option OvpnMessage := do
  let rest ← stripPrefix payload (lit "'")
  let (index, rest) ← splitOnceText (lit "', ID:'") rest
  let (id, rest) ← splitOnceText (lit "', BLOB:'") rest
  let blob ← stripSuffix rest (lit "'")
  return .pkcs11IdEntry index id blob

def needPrompt (payload : Text) : Option (Text × Text) := do
  let rest ← stripPrefix payload (lit "Need '")
  let (name, rest) ← splitOnce (· == '\'') rest
  let (_, message) ← splitOnceText (lit "MSG:") rest
  return (name, message)

def parseNeedOk (payload : Text) : Option Notification := do
  let (name, message) ← needPrompt payload
  return .needOk name message

def parseNeedStr (payload : Text) : Option Notification := do
  let (name, message) ← needPrompt payload
  return .needStr name message

def parsePkSign (payload : Text) : Option Notification :=
  if payload = [] then none
  else match splitOnce (· == ',') payload with
    | some (data, algorithm) => some (.pkSign data (some algorithm))
    | none => some (.pkSign payload none)

def parseRemote (payload : Text) : Option Notification := do
  let parts := splitn 3 (· == ',') payload
  let host ← parts[0]?
  let port ← parseUInt 16 (← parts[1]?)
  let protocol ← parts[2]?
  return .remote host port (orUnknown .unknown (TransportProtocol.fromStr protocol))

def parseProxy (payload : Text) : Option Notification := do
  let parts := splitn 3 (· == ',') payload
  let index ← parseUInt 32 (← parts[0]?)
  let proxyType ← parts[1]?
  let host ← parts[2]?
  return .proxy index (orUnknown .unknown (TransportProtocol.fromStr proxyType)) host

def parseAuthType (s : Text) : AuthType := orUnknown .unknown (AuthType.fromStr s)

/- What follows `Verification Failed: '`: a CRV1 challenge, or just the failed credential. -/
def parseVerificationFailed (rest : Text) : Option PasswordNotification :=
  match splitOnceText (lit "' ['CRV1:") rest with
  | some (_, crv1) => do
    let parts := splitn 4 (· == ':') (← stripSuffix crv1 (lit "']"))
    let flags ← parts[0]?
    let stateId ← parts[1]?
    let usernameB64 ← parts[2]?
    let challenge ← parts[3]?
    return .dynamicChallenge flags stateId usernameB64 challenge
  | none => do
    return .verificationFailed (parseAuthType (← stripSuffix rest (lit "'")))

/- What follows `Need 'type'`. Bit 0 of a static challenge's flag is ECHO, bit 1 CONCAT. -/
def parseNeedCredential (authType rest : Text) : Option PasswordNotification :=
  match stripPrefix rest (lit "username/password") with
  | some afterUp =>
    match stripPrefix (trimStart afterUp) (lit "SC:") with
    | some sc => do
      let (flag, challenge) ← splitOnce (· == ',') sc
      let flags ← parseUInt 32 flag
      return .staticChallenge (flags &&& 1 ≠ 0) (flags &&& 2 ≠ 0) challenge
    | none => some (.needAuth (parseAuthType authType))
  | none =>
    if (stripPrefix rest (lit "password")).isSome then some (.needPassword (parseAuthType authType))
    else none

def parsePassword (payload : Text) : Option Notification :=
  match stripPrefix payload (lit "Auth-Token:") with
  | some token => some (.password (.authToken ⟨token⟩))
  | none =>
  match stripPrefix payload (lit "Verification Failed: '") with
  | some rest => (parseVerificationFailed rest).map .password
  | none => do
    let rest ← stripPrefix payload (lit "Need '")
    let (authType, rest) ← splitOnce (· == '\'') rest
    return .password (← parseNeedCredential authType (trimStart rest))

def parseTyped (kind payload : Text) : Option Notification :=
  if kind = lit "STATE" then parseState payload
  else if kind = lit "BYTECOUNT" then parseBytecount payload
  else if kind = lit "BYTECOUNT_CLI" then parseBytecountCli payload
  else if kind = lit "LOG" then parseLog payload
  else if kind = lit "ECHO" then parseEcho payload
  else if kind = lit "HOLD" then some (.hold payload)
  else if kind = lit "FATAL" then some (.fatal payload)
  else if kind = lit "PKCS11ID-COUNT" then parsePkcs11idCount payload
  else if kind = lit "NEED-OK" then parseNeedOk payload
  else if kind = lit "NEED-STR" then parseNeedStr payload
  else if kind = lit "RSA_SIGN" then some (.rsaSign payload)
  else if kind = lit "PK_SIGN" then parsePkSign payload
  else if kind = lit "INFOMSG" then some (.infoMsg payload)
  else if kind = lit "NEED-CERTIFICATE" then some (.needCertificate payload)
  else if kind = lit "REMOTE" then parseRemote payload
  else if kind = lit "PROXY" then parseProxy payload
  else if kind = lit "PASSWORD" then parsePassword payload
  else none

/- The CLIENT kind reaches this only as ADDRESS; a number that does not parse reads as 0. -/
def parseClientAddress (payload : Text) : Notification :=
  let (event, args) := (splitOnce (· == ',') payload).getD (payload, [])
  if event = lit "ADDRESS" then
    let parts := splitn 3 (· == ',') args
    .clientAddress ((parts[0]?.bind (parseUInt 64)).getD 0) (parts[1]?.getD [])
      (parts[2]? = some (lit "1"))
  else .simple (lit "CLIENT") payload

def parseNotificationFromFrame (kind payload : Text) : OvpnMessage :=
  if kind = lit "CLIENT" then .notification (parseClientAddress payload)
  else if kind = lit "INFO" then .notification (.info payload)
  else if kind = lit "PKCS11ID-ENTRY" then
    (parsePkcs11idEntryNotif payload).getD (.notification (.simple kind payload))
  else .notification ((parseTyped kind payload).getD (.simple kind payload))

/- CR_RESPONSE carries its answer as a third field of the header. -/
def parseClientEnv (event args : Text) (env : Env) : OvpnMessage :=
  let idParts := splitn 3 (· == ',') args
  let cid := (idParts[0]?.bind (parseUInt 64)).getD 0
  let kid := idParts[1]?.bind (parseUInt 64)
  let parsedEvent :=
    if event = lit "CR_RESPONSE" then .crResponse (idParts[2]?.getD [])
    else orUnknown .unknown (ClientEvent.fromStr event)
  .notification (.client parsedEvent cid kid env)

end MgmtNotifications
