import OpenvpnMgmt.Values

/-!
The commands of the management interface, the kind of response each one gets, and the parser
of the text form. A command line is a keyword and its arguments; every keyword has a parser of
its own for the arguments.
-/
namespace MgmtCommand
open TextOps MgmtValues

inductive OvpnCommand where
  | status (format : StatusFormat)
  | state
  | stateStream (mode : StreamMode)
  | version
  | setVersion (n : U32)
  | pid
  | help
  | verb (level : Option U8)
  | mute (threshold : Option U32)
  | net
  | log (mode : StreamMode)
  | echo (mode : StreamMode)
  | byteCount (interval : U32)
  | signal (sig : Signal)
  | kill (target : KillTarget)
  | holdQuery
  | holdOn
  | holdOff
  | holdRelease
  | username (authType : AuthType) (value : Redacted)
  | password (authType : AuthType) (value : Redacted)
  | authRetry (mode : AuthRetryMode)
  | forgetPasswords
  | challengeResponse (stateId : Text) (response : Redacted)
  | staticChallengeResponse (password response : Redacted)
  | needOk (name : Text) (response : NeedOkResponse)
  | needStr (name value : Text)
  | pkcs11IdCount
  | pkcs11IdGet (index : U32)
  | rsaSig (base64Lines : List Text)
  | clientAuth (cid kid : U64) (configLines : List Text)
  | clientAuthNt (cid kid : U64)
  | clientDeny (deny : ClientDeny)
  | clientKill (cid : U64) (message : Option Text)
  | remote (action : RemoteAction)
  | proxy (action : ProxyAction)
  | loadStats
  | clientPendingAuth (cid kid : U64) (extra : Text) (timeout : U32)
  | crResponse (response : Redacted)
  | pkSig (base64Lines : List Text)
  | envFilter (level : U32)
  | remoteEntryCount
  | remoteEntryGet (range : RemoteEntryRange)
  | pushUpdateBroad (options : Text)
  | pushUpdateCid (cid : U64) (options : Text)
  | certificate (pemLines : List Text)
  | managementPassword (pw : Redacted)
  | exit
  | quit
  | raw (cmd : Text)
  | rawMultiLine (cmd : Text)
  deriving DecidableEq, Repr

inductive ResponseKind where
  | successOrError
  | multiLine
  | noResponse
  deriving DecidableEq, Repr

def OvpnCommand.expectedResponse : OvpnCommand → ResponseKind
  | .status _ | .version | .help | .net | .remoteEntryCount | .remoteEntryGet _ => .multiLine
  | .stateStream mode | .log mode | .echo mode =>
    if mode.returnsHistory then .multiLine else .successOrError
  | .state => .multiLine
  | .rawMultiLine _ => .multiLine
  | .exit | .quit => .noResponse
  -- Versions below 4 are taken silently; 4 and above answer SUCCESS.
  | .setVersion n => if n.toNat < 4 then .noResponse else .successOrError
  | _ => .successOrError

inductive CommandParseError where
  | signal (input : Text)
  | streamMode (input : Text)
  | authRetryMode (input : Text)
  | invalidNumber (field input : Text)
  | invalidChoice (field input hint : Text)
  | missingArgs (message : Text)
  deriving DecidableEq, Repr

abbrev Parsed (α : Type) := Except CommandParseError α

/- The characters up to the closing quote with their escapes resolved, and what follows the
   quote. `none` when the quote never closes. -/
def quotedToken : Text → Option (Text × Text)
  | [] => none
  | '"' :: rest => some ([], rest)
  | ['\\'] => none
  | '\\' :: escaped :: rest => (quotedToken rest).map fun (token, after) => (escaped :: token, after)
  | plain :: rest => (quotedToken rest).map fun (token, after) => (plain :: token, after)

def nextToken (input : Text) : Option (Text × Text) :=
  match trimStart input with
  | [] => none
  | '"' :: quoted => (quotedToken quoted).map fun (token, after) => (token, trimStart after)
  | c :: more =>
    match splitOnce isWhitespace (c :: more) with
    | some (token, after) => some (token, trimStart after)
    | none => some (c :: more, [])

/- `ok_or(MissingArgs(message))`. -/
def orMissing {α : Type} (message : String) : Option α → Parsed α
  | some value => .ok value
  | none => .error (.missingArgs (lit message))

def number (w : Nat) (field : String) (input : Text) : Parsed (BitVec w) :=
  match parseUInt w input with
  | some n => .ok n
  | none => .error (.invalidNumber (lit field) input)

def choice {α : Type} (field : String) (input : Text) (hint : String) : Option α → Parsed α
  | some value => .ok value
  | none => .error (.invalidChoice (lit field) input (lit hint))

def streamMode (input : Text) : Parsed StreamMode := (StreamMode.fromStr input).mapError .streamMode

def parseVersion (args : Text) : Parsed OvpnCommand :=
  if args = [] then .ok .version
  else do
    let n ← choice "version number" args "expected a positive integer (e.g. version 2)"
      (parseUInt 32 args)
    return .setVersion n

def parseStatus (args : Text) : Parsed OvpnCommand :=
  if args = [] ∨ args = lit "1" then .ok (.status .v1)
  else if args = lit "2" then .ok (.status .v2)
  else if args = lit "3" then .ok (.status .v3)
  else choice "status format" args "use 1, 2, or 3" none

def parseState (args : Text) : Parsed OvpnCommand :=
  if args = [] then .ok .state else OvpnCommand.stateStream <$> streamMode args

def parseVerb (args : Text) : Parsed OvpnCommand :=
  if args = [] then .ok (.verb none)
  else return .verb (some (← number 8 "verbosity" args))

def parseMute (args : Text) : Parsed OvpnCommand :=
  if args = [] then .ok (.mute none)
  else return .mute (some (← number 32 "mute threshold" args))

/- Anything that is not exactly `a:b:port` is a common name. -/
def parseKill (args : Text) : Parsed OvpnCommand :=
  if args = [] then
    .error (.missingArgs (lit "kill requires a target (common name or proto:ip:port)"))
  else match splitn 3 (· == ':') args with
    | [protocol, ip, port] =>
      match parseUInt 16 port with
      | some port =>
        .ok (.kill (.address (orUnknown .unknown (TransportProtocol.fromStr protocol)) ip port))
      | none => .ok (.kill (.commonName args))
    | _ => .ok (.kill (.commonName args))

def parseHold (args : Text) : Parsed OvpnCommand :=
  if args = [] then .ok .holdQuery
  else if args = lit "on" then .ok .holdOn
  else if args = lit "off" then .ok .holdOff
  else if args = lit "release" then .ok .holdRelease
  else choice "hold argument" args "use on, off, or release" none

def parseCredential (usage : String) (args : Text) : Parsed (AuthType × Redacted) := do
  let (authType, rest) ← orMissing usage (nextToken args)
  let (value, _) ← orMissing usage (nextToken rest)
  return (orUnknown .unknown (AuthType.fromStr authType), ⟨value⟩)

def parseUsername (args : Text) : Parsed OvpnCommand := do
  let (authType, value) ← parseCredential "usage: username <auth-type> <value>" args
  return .username authType value

def parsePassword (args : Text) : Parsed OvpnCommand := do
  let (authType, value) ← parseCredential "usage: password <auth-type> <value>" args
  return .password authType value

def parseNeedOk (args : Text) : Parsed OvpnCommand := do
  let (name, resp) ← orMissing "usage: needok <name> ok|cancel" (rsplitOnce isWhitespace args)
  let response ← choice "needok response" resp "use ok or cancel"
    (if resp = lit "ok" then some NeedOkResponse.ok
     else if resp = lit "cancel" then some NeedOkResponse.cancel
     else none)
  return .needOk (trim name) response

def parseNeedStr (args : Text) : Parsed OvpnCommand := do
  let (name, rest) ← orMissing "usage: needstr <name> <value>" (nextToken args)
  let (value, _) ← orMissing "usage: needstr <name> <value>" (nextToken rest)
  return .needStr name value

/- Numeric identifiers report a fixed message instead of the input. -/
def cidNumber (input : Text) : Parsed U64 := orMissing "cid must be a number" (parseUInt 64 input)
def kidNumber (input : Text) : Parsed U64 := orMissing "kid must be a number" (parseUInt 64 input)

def parseClientAuth (args : Text) : Parsed OvpnCommand := do
  let parts := splitn 3 isWhitespace args
  let cid ← orMissing "usage: client-auth <cid> <kid> [config-lines]" parts[0]?
  let cid ← cidNumber cid
  let kid ← orMissing "usage: client-auth <cid> <kid> [config-lines]" parts[1]?
  let kid ← kidNumber kid
  let configLines := match parts[2]? with
    | some rest => (rest.splitOnP (· == ',')).map trim
    | none => []
  return .clientAuth cid kid configLines

def parseClientAuthNt (args : Text) : Parsed OvpnCommand := do
  let (cid, kid) ← orMissing "usage: client-auth-nt <cid> <kid>" (splitOnce isWhitespace args)
  let cid ← cidNumber cid
  let kid ← kidNumber (trim kid)
  return .clientAuthNt cid kid

def parseClientDeny (args : Text) : Parsed OvpnCommand := do
  let usage := "usage: client-deny <cid> <kid> <reason> [client-reason]"
  let (cid, rest) ← orMissing usage (nextToken args)
  let cid ← cidNumber cid
  let (kid, rest) ← orMissing usage (nextToken rest)
  let kid ← kidNumber kid
  let (reason, rest) ← orMissing usage (nextToken rest)
  let clientReason := (nextToken rest).map Prod.fst
  return .clientDeny ⟨cid, kid, reason, clientReason⟩

def parseClientKill (args : Text) : Parsed OvpnCommand := do
  let (cid, message) := match splitOnce isWhitespace args with
    | some (cid, message) => (cid, some (trim message))
    | none => (args, none)
  let cid ← number 64 "client-kill CID" cid
  return .clientKill cid message

def portNumber (input : Text) : Parsed U16 := orMissing "port must be a number" (parseUInt 16 input)

def parseRemote (args : Text) : Parsed OvpnCommand :=
  let usage := .error (.missingArgs (lit "usage: remote accept|skip [n]|mod <host> <port>"))
  match splitWhitespace args with
  | [action] =>
    if action = lit "accept" ∨ action = lit "ACCEPT" then .ok (.remote .accept)
    else if action = lit "skip" ∨ action = lit "SKIP" then .ok (.remote .skip)
    else usage
  | [action, n] =>
    if action = lit "skip" ∨ action = lit "SKIP" then do
      let n ← choice "remote skip count" n "expected a positive integer (e.g. remote SKIP 3)"
        (parseUInt 32 n)
      return .remote (.skipN n)
    else usage
  | [action, host, port] =>
    if action = lit "mod" ∨ action = lit "MOD" then
      return .remote (.modify host (← portNumber port))
    else usage
  | _ => usage

def parseProxy (args : Text) : Parsed OvpnCommand :=
  let usage := .error
    (.missingArgs (lit "usage: proxy none|http <host> <port> [nct]|socks <host> <port>"))
  match splitWhitespace args with
  | [action] =>
    if action = lit "none" ∨ action = lit "NONE" then .ok (.proxy .none) else usage
  | [action, host, port] =>
    if action = lit "http" ∨ action = lit "HTTP" then
      return .proxy (.http host (← portNumber port) false)
    else if action = lit "socks" ∨ action = lit "SOCKS" then
      return .proxy (.socks host (← portNumber port))
    else usage
  | [action, host, port, flag] =>
    if (action = lit "http" ∨ action = lit "HTTP") ∧ flag = lit "nct" then
      return .proxy (.http host (← portNumber port) true)
    else usage
  | _ => usage

def parseEnvFilter (args : Text) : Parsed OvpnCommand :=
  if args = [] then .ok (.envFilter 0)
  else OvpnCommand.envFilter <$> number 32 "env-filter level" args

/- The index error shows all arguments, the end index error only its own. -/
def parseRemoteEntryGet (args : Text) : Parsed OvpnCommand :=
  if args = [] then .error (.missingArgs (lit "usage: remote-entry-get i|all [j]"))
  else if args = lit "all" then .ok (.remoteEntryGet .all)
  else
    let parts := splitn 2 isWhitespace args
    match parseUInt 32 (parts[0]?.getD []) with
    | none => .error (.invalidNumber (lit "remote-entry-get index") args)
    | some start =>
      match parts[1]? with
      | none => .ok (.remoteEntryGet (.single start))
      | some stop =>
        match parseUInt 32 (trim stop) with
        | none => .error (.invalidNumber (lit "remote-entry-get end index") stop)
        | some stop => .ok (.remoteEntryGet (.range start stop))

def parsePushUpdateBroad (args : Text) : Parsed OvpnCommand := do
  let (options, _) ← orMissing "usage: push-update-broad <options>" (nextToken args)
  return .pushUpdateBroad options

def parsePushUpdateCid (args : Text) : Parsed OvpnCommand := do
  let (cid, rest) ← orMissing "usage: push-update-cid <cid> <options>" (nextToken args)
  let cid ← orMissing "push-update-cid: cid must be a number" (parseUInt 64 cid)
  let (options, _) ← orMissing "usage: push-update-cid <cid> <options>" (nextToken rest)
  return .pushUpdateCid cid options

def parseClientPendingAuth (args : Text) : Parsed OvpnCommand := do
  let usage := "usage: client-pending-auth <cid> <kid> <extra> <timeout>"
  let (cid, rest) ← orMissing usage (nextToken args)
  let cid ← cidNumber cid
  let (kid, rest) ← orMissing usage (nextToken rest)
  let kid ← kidNumber kid
  let (extra, rest) ← orMissing usage (nextToken rest)
  let (timeout, _) ← orMissing usage (nextToken rest)
  let timeout ← number 32 "client-pending-auth timeout" timeout
  return .clientPendingAuth cid kid extra timeout

def parseCrResponse (args : Text) : Parsed OvpnCommand := do
  let (response, _) ← orMissing "usage: cr-response <response>" (nextToken args)
  return .crResponse ⟨response⟩

def parseRawMl (args : Text) : Parsed OvpnCommand :=
  if args = [] then .error (.missingArgs (lit "usage: raw-ml <command>"))
  else .ok (.rawMultiLine args)

/- The keyword dispatch. Keywords without arguments ignore whatever follows them; an unknown
   keyword makes the whole line a raw command. -/
def parseCommand (cmd args line : Text) : Parsed OvpnCommand :=
  if cmd = lit "version" then parseVersion args
  else if cmd = lit "pid" then .ok .pid
  else if cmd = lit "help" then .ok .help
  else if cmd = lit "net" then .ok .net
  else if cmd = lit "load-stats" then .ok .loadStats
  else if cmd = lit "status" then parseStatus args
  else if cmd = lit "state" then parseState args
  else if cmd = lit "log" then OvpnCommand.log <$> streamMode args
  else if cmd = lit "echo" then OvpnCommand.echo <$> streamMode args
  else if cmd = lit "verb" then parseVerb args
  else if cmd = lit "mute" then parseMute args
  else if cmd = lit "bytecount" then OvpnCommand.byteCount <$> number 32 "bytecount interval" args
  else if cmd = lit "signal" then OvpnCommand.signal <$> (Signal.fromStr args).mapError .signal
  else if cmd = lit "kill" then parseKill args
  else if cmd = lit "hold" then parseHold args
  else if cmd = lit "username" then parseUsername args
  else if cmd = lit "password" then parsePassword args
  else if cmd = lit "auth-retry" then
    OvpnCommand.authRetry <$> (AuthRetryMode.fromStr args).mapError .authRetryMode
  else if cmd = lit "forget-passwords" then .ok .forgetPasswords
  else if cmd = lit "needok" then parseNeedOk args
  else if cmd = lit "needstr" then parseNeedStr args
  else if cmd = lit "pkcs11-id-count" then .ok .pkcs11IdCount
  else if cmd = lit "pkcs11-id-get" then
    OvpnCommand.pkcs11IdGet <$> number 32 "pkcs11-id-get index" args
  else if cmd = lit "client-auth" then parseClientAuth args
  else if cmd = lit "client-auth-nt" then parseClientAuthNt args
  else if cmd = lit "client-deny" then parseClientDeny args
  else if cmd = lit "client-kill" then parseClientKill args
  else if cmd = lit "remote" then parseRemote args
  else if cmd = lit "proxy" then parseProxy args
  else if cmd = lit "env-filter" then parseEnvFilter args
  else if cmd = lit "remote-entry-count" then .ok .remoteEntryCount
  else if cmd = lit "remote-entry-get" then parseRemoteEntryGet args
  else if cmd = lit "push-update-broad" then parsePushUpdateBroad args
  else if cmd = lit "push-update-cid" then parsePushUpdateCid args
  else if cmd = lit "client-pending-auth" then parseClientPendingAuth args
  else if cmd = lit "cr-response" then parseCrResponse args
  else if cmd = lit "raw-ml" then parseRawMl args
  else if cmd = lit "exit" then .ok .exit
  else if cmd = lit "quit" then .ok .quit
  else .ok (.raw line)

def OvpnCommand.fromStr (line : Text) : Parsed OvpnCommand :=
  let line := trim line
  match splitOnce isWhitespace line with
  | some (cmd, args) => parseCommand cmd (trim args) line
  | none => parseCommand line [] line

/-! Startup sequences -/

def connectionSequence (bytecountInterval : U32) : List OvpnCommand :=
  [.log .onAll, .stateStream .onAll, .pid] ++
    (if 0 < bytecountInterval.toNat then [.byteCount bytecountInterval] else []) ++ [.holdRelease]

def serverConnectionSequence (bytecountInterval envFilter : U32) : List OvpnCommand :=
  [.log .onAll, .stateStream .onAll, .pid, .envFilter envFilter] ++
    (if 0 < bytecountInterval.toNat then [.byteCount bytecountInterval] else []) ++ [.holdRelease]

end MgmtCommand
