import OpenvpnMgmt.Encoder
import OpenvpnMgmt.Command

/-!
The wire form of every command: one line, or a header with a block of lines behind it. Every
user string passes the gate of the encoder mode; the error of the first one that fails is the
error of the command. Base64 comes from outside and is a parameter.
-/
namespace MgmtWire
open TextOps Utf8Text MgmtEncoder MgmtValues MgmtCommand

inductive Wire where
  | line (text : Text)
  | block (header : Text) (lines : List Text)
  deriving DecidableEq, Repr

abbrev Encoded := Except EncodeError

/- `quote(&escape(&wire_safe(s, field, mode)?))`. -/
def quoted (s : Text) (field : String) (mode : EncoderMode) : Encoded Text := do
  return quote (escape (← wireSafe s (lit field) mode))

def killWire (mode : EncoderMode) : KillTarget → Encoded Wire
  | .commonName name => do
    return .line (lit "kill " ++ (← wireSafe name (lit "kill CN") mode))
  | .address protocol ip port => do
    let ip ← wireSafe ip (lit "kill address ip") mode
    return .line (lit "kill " ++ protocol.toText ++ ':' :: ip ++ ':' :: display port)

def credentialWire (keyword authField valueField : String) (mode : EncoderMode)
    (authType : AuthType) (value : Redacted) : Encoded Wire := do
  let auth ← quoted authType.toText authField mode
  let value ← quoted value.expose valueField mode
  return .line (lit keyword ++ ' ' :: auth ++ ' ' :: value)

def clientDenyWire (mode : EncoderMode) (deny : ClientDeny) : Encoded Wire := do
  let reason ← quoted deny.reason "client-deny reason" mode
  let ids := display deny.cid ++ ' ' :: display deny.kid
  match deny.clientReason with
  | some clientReason => do
    let clientReason ← quoted clientReason "client-deny client_reason" mode
    return .line (lit "client-deny " ++ ids ++ ' ' :: reason ++ ' ' :: clientReason)
  | none => return .line (lit "client-deny " ++ ids ++ ' ' :: reason)

def clientKillWire (mode : EncoderMode) (cid : U64) : Option Text → Encoded Wire
  | some msg => do
    return .line (lit "client-kill " ++ display cid ++ ' ' ::
      (← wireSafe msg (lit "client-kill message") mode))
  | none => return .line (lit "client-kill " ++ display cid)

def remoteWire (mode : EncoderMode) : RemoteAction → Encoded Wire
  | .accept => return .line (lit "remote ACCEPT")
  | .skip => return .line (lit "remote SKIP")
  | .skipN n => return .line (lit "remote SKIP " ++ display n)
  | .modify host port => do
    let host ← wireSafe host (lit "remote MOD host") mode
    return .line (lit "remote MOD " ++ host ++ ' ' :: display port)

def proxyWire (mode : EncoderMode) : ProxyAction → Encoded Wire
  | .none => return .line (lit "proxy NONE")
  | .http host port nonCleartextOnly => do
    let nct := if nonCleartextOnly then lit " nct" else []
    let host ← wireSafe host (lit "proxy HTTP host") mode
    return .line (lit "proxy HTTP " ++ host ++ ' ' :: display port ++ nct)
  | .socks host port => do
    let host ← wireSafe host (lit "proxy SOCKS host") mode
    return .line (lit "proxy SOCKS " ++ host ++ ' ' :: display port)

def commandWire (engine : Bytes → Text) (mode : EncoderMode) : OvpnCommand → Encoded Wire
  | .status .v1 => return .line (lit "status")
  | .status format => return .line (lit "status " ++ format.toText)
  | .state => return .line (lit "state")
  | .stateStream m => return .line (lit "state " ++ m.toText)
  | .version => return .line (lit "version")
  | .setVersion n => return .line (lit "version " ++ display n)
  | .pid => return .line (lit "pid")
  | .help => return .line (lit "help")
  | .net => return .line (lit "net")
  | .verb (some n) => return .line (lit "verb " ++ display n)
  | .verb none => return .line (lit "verb")
  | .mute (some n) => return .line (lit "mute " ++ display n)
  | .mute none => return .line (lit "mute")
  | .log m => return .line (lit "log " ++ m.toText)
  | .echo m => return .line (lit "echo " ++ m.toText)
  | .byteCount n => return .line (lit "bytecount " ++ display n)
  | .signal sig => return .line (lit "signal " ++ sig.toText)
  | .kill target => killWire mode target
  | .holdQuery => return .line (lit "hold")
  | .holdOn => return .line (lit "hold on")
  | .holdOff => return .line (lit "hold off")
  | .holdRelease => return .line (lit "hold release")
  | .username authType value =>
    credentialWire "username" "username auth_type" "username value" mode authType value
  | .password authType value =>
    credentialWire "password" "password auth_type" "password value" mode authType value
  | .authRetry m => return .line (lit "auth-retry " ++ m.toText)
  | .forgetPasswords => return .line (lit "forget-passwords")
  | .challengeResponse stateId response => do
    let sid ← wireSafe stateId (lit "challenge-response state_id") mode
    let resp ← wireSafe response.expose (lit "challenge-response response") mode
    let value := lit "CRV1::" ++ sid ++ lit "::" ++ resp
    return .line (lit "password \"Auth\" " ++ quote (escape value))
  | .staticChallengeResponse password response => do
    -- No gate here: the values are base64.
    let passwordB64 := engine (toUtf8 password.expose)
    let responseB64 := engine (toUtf8 response.expose)
    let value := lit "SCRV1:" ++ passwordB64 ++ ':' :: responseB64
    return .line (lit "password \"Auth\" " ++ quote (escape value))
  | .needOk name response => do
    let name ← wireSafe name (lit "needok name") mode
    return .line (lit "needok " ++ name ++ ' ' :: response.toText)
  | .needStr name value => do
    let name ← wireSafe name (lit "needstr name") mode
    let value ← quoted value "needstr value" mode
    return .line (lit "needstr " ++ name ++ ' ' :: value)
  | .pkcs11IdCount => return .line (lit "pkcs11-id-count")
  | .pkcs11IdGet index => return .line (lit "pkcs11-id-get " ++ display index)
  | .rsaSig base64Lines => return .block (lit "rsa-sig") base64Lines
  | .pkSig base64Lines => return .block (lit "pk-sig") base64Lines
  | .envFilter level => return .line (lit "env-filter " ++ display level)
  | .remoteEntryCount => return .line (lit "remote-entry-count")
  | .remoteEntryGet range => return .line (lit "remote-entry-get " ++ range.toText)
  | .pushUpdateBroad options => do
    let opts ← quoted options "push-update-broad options" mode
    return .line (lit "push-update-broad " ++ opts)
  | .pushUpdateCid cid options => do
    let opts ← quoted options "push-update-cid options" mode
    return .line (lit "push-update-cid " ++ display cid ++ ' ' :: opts)
  | .clientAuth cid kid configLines =>
    return .block (lit "client-auth " ++ display cid ++ ' ' :: display kid) configLines
  | .clientAuthNt cid kid =>
    return .line (lit "client-auth-nt " ++ display cid ++ ' ' :: display kid)
  | .clientDeny deny => clientDenyWire mode deny
  | .clientKill cid message => clientKillWire mode cid message
  | .loadStats => return .line (lit "load-stats")
  | .clientPendingAuth cid kid extra timeout => do
    let extra ← wireSafe extra (lit "client-pending-auth extra") mode
    return .line (lit "client-pending-auth " ++ display cid ++ ' ' :: display kid ++
      ' ' :: extra ++ ' ' :: display timeout)
  | .crResponse response => do
    return .line (lit "cr-response " ++ (← wireSafe response.expose (lit "cr-response") mode))
  | .certificate pemLines => return .block (lit "certificate") pemLines
  | .remote action => remoteWire mode action
  | .proxy action => proxyWire mode action
  | .managementPassword pw => do
    return .line (← wireSafe pw.expose (lit "management password") mode)
  | .exit => return .line (lit "exit")
  | .quit => return .line (lit "quit")
  | .raw cmd | .rawMultiLine cmd => do
    return .line (← wireSafe cmd (lit "raw command") mode)

end MgmtWire
