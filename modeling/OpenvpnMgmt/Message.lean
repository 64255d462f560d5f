import OpenvpnMgmt.Values

/-!
What the decoder hands out: notifications in their typed form and the messages that carry them
together with the responses.
-/
namespace MgmtMessage
open TextOps MgmtValues

/- An ordered map of texts; a later value for a key replaces the earlier one. -/
abbrev Env := Std.ExtTreeMap Text Text compare

instance : DecidableEq Env := inferInstance

structure StateEntry where
  timestamp : UtcTimestamp
  name : OpenVpnState
  description : Text
  localIp : Text
  remoteIp : Text
  remotePort : Option U16
  localAddr : Text
  localPort : Option U16
  localIpv6 : Text
  deriving DecidableEq, Repr

inductive PasswordNotification where
  | needAuth (authType : AuthType)
  | needPassword (authType : AuthType)
  | verificationFailed (authType : AuthType)
  | staticChallenge (echo responseConcat : Bool) (challenge : Text)
  | authToken (token : Redacted)
  | dynamicChallenge (flags stateId usernameB64 challenge : Text)
  deriving DecidableEq, Repr

inductive Notification where
  | client (event : ClientEvent) (cid : U64) (kid : Option U64) (env : Env)
  | clientAddress (cid : U64) (addr : Text) (primary : Bool)
  | state (entry : StateEntry)
  | byteCount (bytesIn bytesOut : U64)
  | byteCountCli (cid bytesIn bytesOut : U64)
  | log (timestamp : UtcTimestamp) (level : LogLevel) (message : Text)
  | echo (timestamp : UtcTimestamp) (param : Text)
  | hold (text : Text)
  | fatal (message : Text)
  | pkcs11IdCount (count : U32)
  | needOk (name message : Text)
  | needStr (name message : Text)
  | rsaSign (data : Text)
  | pkSign (data : Text) (algorithm : Option Text)
  | infoMsg (extra : Text)
  | needCertificate (hint : Text)
  | info (message : Text)
  | remote (host : Text) (port : U16) (protocol : TransportProtocol)
  | proxy (index : U32) (proxyType : TransportProtocol) (host : Text)
  | password (sub : PasswordNotification)
  | simple (kind payload : Text)
  deriving DecidableEq

inductive UnrecognizedKind where
  | malformedNotification
  | unexpectedLine
  deriving DecidableEq, Repr

inductive OvpnMessage where
  | success (text : Text)
  | error (text : Text)
  | multiLine (lines : List Text)
  | pkcs11IdEntry (index id blob : Text)
  | notification (n : Notification)
  | info (payload : Text)
  | passwordPrompt
  | unrecognized (line : Text) (kind : UnrecognizedKind)
  deriving DecidableEq

end MgmtMessage
