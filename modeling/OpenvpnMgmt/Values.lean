import OpenvpnMgmt.Lib.Text

/-!
The small value types of commands and notifications, each with its wire spelling (`toText`,
the Display text) and its parser (`fromStr`; the error carries the rejected input). Types with
an `unknown` variant print the text they carry and are never parsed back to it: callers fall
back to `unknown` themselves (`orUnknown`).
-/
namespace MgmtValues
open TextOps

abbrev U8 := BitVec 8
abbrev U16 := BitVec 16
abbrev U32 := BitVec 32
abbrev U64 := BitVec 64

/-- A string that is masked in debug output; `expose` is what goes on the wire. -/
structure Redacted where
  expose : Text
  deriving DecidableEq, Repr

structure UtcTimestamp where
  seconds : U64
  deriving DecidableEq, Repr

inductive AuthType where
  | auth
  | privateKey
  | httpProxy
  | socksProxy
  | unknown (name : Text)
  deriving DecidableEq, Repr

def AuthType.toText : AuthType → Text
  | .auth => lit "Auth"
  | .privateKey => lit "Private Key"
  | .httpProxy => lit "HTTP Proxy"
  | .socksProxy => lit "SOCKS Proxy"
  | .unknown name => name

def AuthType.fromStr (input : Text) : Except Text AuthType :=
  if input = lit "Auth" then .ok .auth
  else if input = lit "Private Key" then .ok .privateKey
  else if input = lit "HTTP Proxy" then .ok .httpProxy
  else if input = lit "SOCKS Proxy" then .ok .socksProxy
  else .error input

inductive AuthRetryMode where
  | none
  | interact
  | noInteract
  deriving DecidableEq, Repr

def AuthRetryMode.toText : AuthRetryMode → Text
  | .none => lit "none"
  | .interact => lit "interact"
  | .noInteract => lit "nointeract"

def AuthRetryMode.fromStr (input : Text) : Except Text AuthRetryMode :=
  if input = lit "none" then .ok .none
  else if input = lit "interact" then .ok .interact
  else if input = lit "nointeract" then .ok .noInteract
  else .error input

/-- The event of a `>CLIENT:` notification. `CR_RESPONSE` carries an inline field and is not
    known to `fromStr`. -/
inductive ClientEvent where
  | connect
  | reauth
  | established
  | disconnect
  | crResponse (response : Text)
  | unknown (name : Text)
  deriving DecidableEq, Repr

def ClientEvent.toText : ClientEvent → Text
  | .connect => lit "CONNECT"
  | .reauth => lit "REAUTH"
  | .established => lit "ESTABLISHED"
  | .disconnect => lit "DISCONNECT"
  | .crResponse _ => lit "CR_RESPONSE"
  | .unknown name => name

def ClientEvent.fromStr (input : Text) : Except Text ClientEvent :=
  if input = lit "CONNECT" then .ok .connect
  else if input = lit "REAUTH" then .ok .reauth
  else if input = lit "ESTABLISHED" then .ok .established
  else if input = lit "DISCONNECT" then .ok .disconnect
  else .error input

inductive LogLevel where
  | info
  | debug
  | warning
  | nonFatal
  | fatal
  | unknown (flag : Text)
  deriving DecidableEq, Repr

def LogLevel.toText : LogLevel → Text
  | .info => lit "I"
  | .debug => lit "D"
  | .warning => lit "W"
  | .nonFatal => lit "N"
  | .fatal => lit "F"
  | .unknown flag => flag

def LogLevel.fromStr (input : Text) : Except Text LogLevel :=
  if input = lit "I" then .ok .info
  else if input = lit "D" then .ok .debug
  else if input = lit "W" then .ok .warning
  else if input = lit "N" then .ok .nonFatal
  else if input = lit "F" then .ok .fatal
  else .error input

inductive OpenVpnState where
  | connecting
  | wait
  | auth
  | getConfig
  | assignIp
  | addRoutes
  | connected
  | reconnecting
  | exiting
  | tcpConnect
  | resolve
  | authPending
  | unknown (name : Text)
  deriving DecidableEq, Repr

def OpenVpnState.toText : OpenVpnState → Text
  | .connecting => lit "CONNECTING"
  | .wait => lit "WAIT"
  | .auth => lit "AUTH"
  | .getConfig => lit "GET_CONFIG"
  | .assignIp => lit "ASSIGN_IP"
  | .addRoutes => lit "ADD_ROUTES"
  | .connected => lit "CONNECTED"
  | .reconnecting => lit "RECONNECTING"
  | .exiting => lit "EXITING"
  | .tcpConnect => lit "TCP_CONNECT"
  | .resolve => lit "RESOLVE"
  | .authPending => lit "AUTH_PENDING"
  | .unknown name => name

def OpenVpnState.fromStr (input : Text) : Except Text OpenVpnState :=
  if input = lit "CONNECTING" then .ok .connecting
  else if input = lit "WAIT" then .ok .wait
  else if input = lit "AUTH" then .ok .auth
  else if input = lit "GET_CONFIG" then .ok .getConfig
  else if input = lit "ASSIGN_IP" then .ok .assignIp
  else if input = lit "ADD_ROUTES" then .ok .addRoutes
  else if input = lit "CONNECTED" then .ok .connected
  else if input = lit "RECONNECTING" then .ok .reconnecting
  else if input = lit "EXITING" then .ok .exiting
  else if input = lit "TCP_CONNECT" then .ok .tcpConnect
  else if input = lit "RESOLVE" then .ok .resolve
  else if input = lit "AUTH_PENDING" then .ok .authPending
  else .error input

inductive TransportProtocol where
  | udp
  | tcp
  | unknown (name : Text)
  deriving DecidableEq, Repr

def TransportProtocol.toText : TransportProtocol → Text
  | .udp => lit "udp"
  | .tcp => lit "tcp"
  | .unknown name => name

def TransportProtocol.fromStr (input : Text) : Except Text TransportProtocol :=
  if input = lit "udp" then .ok .udp
  else if input = lit "UDP" then .ok .udp
  else if input = lit "tcp" then .ok .tcp
  else if input = lit "TCP" then .ok .tcp
  else .error input

inductive Signal where
  | sigHup
  | sigTerm
  | sigUsr1
  | sigUsr2
  deriving DecidableEq, Repr

def Signal.toText : Signal → Text
  | .sigHup => lit "SIGHUP"
  | .sigTerm => lit "SIGTERM"
  | .sigUsr1 => lit "SIGUSR1"
  | .sigUsr2 => lit "SIGUSR2"

def Signal.fromStr (input : Text) : Except Text Signal :=
  if input = lit "SIGHUP" then .ok .sigHup
  else if input = lit "SIGTERM" then .ok .sigTerm
  else if input = lit "SIGUSR1" then .ok .sigUsr1
  else if input = lit "SIGUSR2" then .ok .sigUsr2
  else .error input

inductive StatusFormat where
  | v1
  | v2
  | v3
  deriving DecidableEq, Repr

def StatusFormat.toText : StatusFormat → Text
  | .v1 => lit "1"
  | .v2 => lit "2"
  | .v3 => lit "3"

inductive StreamMode where
  | on
  | off
  | all
  | onAll
  | recent (n : U32)
  deriving DecidableEq, Repr

def StreamMode.returnsHistory : StreamMode → Bool
  | .all | .onAll | .recent _ => true
  | .on | .off => false

def StreamMode.toText : StreamMode → Text
  | .on => lit "on"
  | .off => lit "off"
  | .all => lit "all"
  | .onAll => lit "on all"
  | .recent n => display n

def StreamMode.fromStr (input : Text) : Except Text StreamMode :=
  if input = lit "on" then .ok .on
  else if input = lit "off" then .ok .off
  else if input = lit "all" then .ok .all
  else if input = lit "on all" then .ok .onAll
  else match parseUInt 32 input with
    | some n => .ok (.recent n)
    | none => .error input

inductive NeedOkResponse where
  | ok
  | cancel
  deriving DecidableEq, Repr

def NeedOkResponse.toText : NeedOkResponse → Text
  | .ok => lit "ok"
  | .cancel => lit "cancel"

inductive KillTarget where
  | commonName (name : Text)
  | address (protocol : TransportProtocol) (ip : Text) (port : U16)
  deriving DecidableEq, Repr

structure ClientDeny where
  cid : U64
  kid : U64
  reason : Text
  clientReason : Option Text
  deriving DecidableEq, Repr

inductive RemoteAction where
  | accept
  | skip
  | skipN (n : U32)
  | modify (host : Text) (port : U16)
  deriving DecidableEq, Repr

inductive ProxyAction where
  | none
  | http (host : Text) (port : U16) (nonCleartextOnly : Bool)
  | socks (host : Text) (port : U16)
  deriving DecidableEq, Repr

inductive RemoteEntryRange where
  | single (index : U32)
  | range (start stop : U32)
  | all
  deriving DecidableEq, Repr

def RemoteEntryRange.toText : RemoteEntryRange → Text
  | .single index => display index
  | .range start stop => display start ++ ' ' :: display stop
  | .all => lit "all"

/- `unwrap_or_else(|_| Unknown(text))`, the fallback of every caller of a fallible parser. -/
def orUnknown {α : Type} (unknown : Text → α) : Except Text α → α
  | .ok value => value
  | .error input => unknown input

/- An `unknown` value that does not spell a known name; the only kind a parser produces. -/
def AuthType.Named : AuthType → Prop
  | .unknown name => AuthType.fromStr name = .error name
  | _ => True

def LogLevel.Named : LogLevel → Prop
  | .unknown flag => LogLevel.fromStr flag = .error flag
  | _ => True

def OpenVpnState.Named : OpenVpnState → Prop
  | .unknown name => OpenVpnState.fromStr name = .error name
  | _ => True

def TransportProtocol.Named : TransportProtocol → Prop
  | .unknown name => TransportProtocol.fromStr name = .error name
  | _ => True

theorem authType_roundtrip {a : AuthType} (named : a.Named) :
    orUnknown .unknown (AuthType.fromStr a.toText) = a := by
  cases a with
  | unknown name =>
    simp only [AuthType.Named] at named
    simp only [AuthType.toText, named, orUnknown]
  | _ => simp [AuthType.toText, AuthType.fromStr, orUnknown]

theorem logLevel_roundtrip {l : LogLevel} (named : l.Named) :
    orUnknown .unknown (LogLevel.fromStr l.toText) = l := by
  cases l with
  | unknown flag =>
    simp only [LogLevel.Named] at named
    simp only [LogLevel.toText, named, orUnknown]
  | _ => simp [LogLevel.toText, LogLevel.fromStr, orUnknown]

theorem openVpnState_roundtrip {s : OpenVpnState} (named : s.Named) :
    orUnknown .unknown (OpenVpnState.fromStr s.toText) = s := by
  cases s with
  | unknown name =>
    simp only [OpenVpnState.Named] at named
    simp only [OpenVpnState.toText, named, orUnknown]
  | _ => simp [OpenVpnState.toText, OpenVpnState.fromStr, orUnknown]

theorem transportProtocol_roundtrip {p : TransportProtocol} (named : p.Named) :
    orUnknown .unknown (TransportProtocol.fromStr p.toText) = p := by
  cases p with
  | unknown name =>
    simp only [TransportProtocol.Named] at named
    simp only [TransportProtocol.toText, named, orUnknown]
  | _ => simp [TransportProtocol.toText, TransportProtocol.fromStr, orUnknown]

theorem authRetryMode_roundtrip (m : AuthRetryMode) : AuthRetryMode.fromStr m.toText = .ok m := by
  cases m <;> simp [AuthRetryMode.toText, AuthRetryMode.fromStr]

theorem signal_roundtrip (s : Signal) : Signal.fromStr s.toText = .ok s := by
  cases s <;> simp [Signal.toText, Signal.fromStr]

theorem display_ne_lit {w : Nat} (n : BitVec w) {word : String} {c : Char}
    (member : c ∈ word.toList) (letter : c.isDigit = false) : display n ≠ lit word := by
  intro same
  rw [lit_eq] at same
  exact not_mem_display n letter (same ▸ member)

theorem streamMode_roundtrip (m : StreamMode) : StreamMode.fromStr m.toText = .ok m := by
  cases m with
  | recent n =>
    have on : display n ≠ lit "on" := display_ne_lit n (c := 'o') (by simp) (by decide)
    have off : display n ≠ lit "off" := display_ne_lit n (c := 'o') (by simp) (by decide)
    have all : display n ≠ lit "all" := display_ne_lit n (c := 'a') (by simp) (by decide)
    have onAll : display n ≠ lit "on all" := display_ne_lit n (c := 'o') (by simp) (by decide)
    simp only [StreamMode.toText, StreamMode.fromStr, if_neg on, if_neg off, if_neg all,
      if_neg onAll, parseUInt_display]
  | _ => simp [StreamMode.toText, StreamMode.fromStr]

end MgmtValues
